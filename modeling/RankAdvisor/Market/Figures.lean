import RankAdvisor.Json.Order
import RankAdvisor.Binary64.Fixed
import RankAdvisor.Text.Digit

/-! # Figures in reports

How volumes, amounts, prices and percentages are shown in prompts and reports. Volumes
from ten thousand and from a hundred million shares are shown in 万 and 亿 with two
places, amounts from a hundred million and a trillion won in 亿 and 万亿, and smaller
figures whole, with rounding to the nearest and halves to even. A zero volume or amount
is `0`.

The `…Of` forms take a value of any kind, as a report's caller may hand one: a missing
figure (null) is `N/A` or zero; a volume or amount of another kind cannot be ordered
against the thresholds; a price or percentage of another kind fails as its layout cannot
apply to it. The places of a percentage are given as text (`"2"`, but also `"True"`), and
the layout `[+].<places>f` is read as a layout of fixed places: the places are decimal
digits of any script, at most `2^63 - 1`, and nothing may follow them but the `f`.
-/

namespace RankAdvisor

namespace Figures

open Binary64

def fixedNum (st : FixedStyle) (n : Number) : Except Fault String := do
  pure (fixed st (← n.toDouble))

/-- `n` divided by `scale` with two places. -/
def scaled (n : Number) (scale : Nat) : Except Fault String := do
  match ← n.div (.double (ofInt scale)) with
  | q => fixedNum { places := 2 } q

def volume (v : Number) : Except Fault String :=
  if v.isZero then .ok "0"
  else if v.ge (.whole 100000000) then do pure ((← scaled v 100000000) ++ "亿股")
  else if v.ge (.whole 10000) then do pure ((← scaled v 10000) ++ "万股")
  else do pure ((← fixedNum { places := 0 } v) ++ "股")

def amount (v : Number) : Except Fault String :=
  if v.isZero then .ok "0韩元"
  else if v.ge (.whole 1000000000000) then do pure ((← scaled v 1000000000000) ++ "万亿韩元")
  else if v.ge (.whole 100000000) then do pure ((← scaled v 100000000) ++ "亿韩元")
  else do pure ((← fixedNum { places := 0, group := true } v) ++ "韩元")

def maxPlaces : Nat := 2147483647

/-- A percentage with `places` places, with a `+` on values without a minus when
`signed`. -/
def percentage (v : Number) (places : Nat := 2) (signed : Bool := false) :
    Except Fault String := do
  let x ← v.toDouble
  if maxPlaces < places then throw (Fault.badValue "precision too big")
  pure (fixed { places := places, plus := signed } x ++ "%")

/-- A price in whole won, grouped by thousands. -/
def price (v : Number) : Except Fault String := fixedNum { places := 0, group := true } v

/-- The leading run of decimal digits of any script: its value, its length, the rest. -/
def digitsOf : List Char → Nat × Nat × List Char
  | c :: rest =>
    match Text.digitValue? c with
    | some d =>
      let (n, k, r) := digitsOf rest
      (d * Nat.pow 10 k + n, k + 1, r)
    | none => (0, 0, c :: rest)
  | [] => (0, 0, [])

/-- The places of the layout `[+].<places>f` for a value of kind `kind`. -/
def readPlaces (layout : String) (kind : String) : Except Fault Nat :=
  let afterPoint := (layout.toList.dropWhile (· == '+')).drop 1
  let (n, k, rest) := digitsOf afterPoint
  if k = 0 then .error (Fault.badValue "Format specifier missing precision")
  else if 9223372036854775807 < n then
    .error (Fault.badValue "Too many decimal digits in format string")
  else if rest != ['f'] then
    .error (Fault.badValue s!"Invalid format specifier '{layout}' for object of type '{kind}'")
  else .ok n

/-- The failure of laying out a list, an object or null with fixed places. -/
def noLayout (v : Json) : Fault :=
  Fault.wrongType s!"unsupported format string passed to {v.kindName}.__format__"

def textLayout : Fault := Fault.badValue "Unknown format code 'f' for object of type 'str'"

def volumeOf (v : Json) : Except Fault String :=
  match v, v.number? with
  | .null, _ => .ok "0"
  | _, some n => volume n
  | _, none => .error (Json.unordered ">=" v (.num (ofInt 0)))

def amountOf (v : Json) : Except Fault String :=
  match v, v.number? with
  | .null, _ => .ok "0韩元"
  | _, some n => amount n
  | _, none => .error (Json.unordered ">=" v (.num (ofInt 0)))

def priceOf (v : Json) : Except Fault String :=
  match v, v.number? with
  | .null, _ => .ok "N/A"
  | _, some n => price n
  | .str _, none => .error textLayout
  | _, none => .error (noLayout v)

/-- A percentage of any kind, its places given as text. -/
def percentageOf (v : Json) (places : String) (signed : Bool) : Except Fault String :=
  match v with
  | .null => .ok "N/A"
  | .arr _ | .obj _ => .error (noLayout v)
  | _ => do
    let layout := (if signed then "+" else "") ++ "." ++ places ++ "f"
    let k ← readPlaces layout v.kindName
    match v.number? with
    | some n => percentage n k signed
    | none => throw textLayout

end Figures

end RankAdvisor
