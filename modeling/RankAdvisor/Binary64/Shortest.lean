import RankAdvisor.Binary64.Round

/-! # Shortest decimal text of a double

`Binary64.shortest` finds, for a positive finite double `x`, the decimal `c · 10^k` with
the fewest significant digits that reads back as `x`: the value lies in the interval of
reals that round to `x` (its ends included when the significand is even). Among the
candidates of that length the one nearest to `x` wins, and an exact tie goes to the even
digit string. `DecimalStyle` then decides how digits and exponent are written.
-/

namespace RankAdvisor

namespace Binary64

/-! ## Exact comparisons with powers of ten -/

def pow10Le (k : Int) (num den : Nat) : Bool :=
  if 0 ≤ k then den * Nat.pow 10 k.toNat ≤ num else den ≤ num * Nat.pow 10 (-k).toNat

/-- `⌊log₁₀ (num / den)⌋` for positive `num` and `den`, searched from the estimate
`⌊log₂⌋ · 1233 / 4096` in at most `fuel` steps each way. -/
def floorLog10 (num den : Nat) : Int :=
  let est := Int.fdiv (floorLog2 num den * 1233) 4096
  let rec up : Nat → Int → Int
    | 0, k => k
    | fuel + 1, k => if pow10Le (k + 1) num den then up fuel (k + 1) else k
  let rec down : Nat → Int → Int
    | 0, k => k
    | fuel + 1, k => if pow10Le k num den then k else down fuel (k - 1)
  up 4 (down 4 est)

def floorDivPow10 (num den : Nat) (k : Int) : Nat :=
  if 0 ≤ k then num / (den * Nat.pow 10 k.toNat) else num * Nat.pow 10 (-k).toNat / den

def compareScaled (c : Nat) (k : Int) (b : Nat) (s : Int) : Ordering :=
  let lhs := c * Nat.pow 10 k.toNat * Nat.pow 2 (-s).toNat
  let rhs := b * Nat.pow 10 (-k).toNat * Nat.pow 2 s.toNat
  Ord.compare lhs rhs

/-! ## The rounding interval -/

/-- The reals that read back as the positive double `m · 2^e`, as the ends
`lo · 2^(e-2)` and `hi · 2^(e-2)` and whether the ends belong to it. The gap below is
half as wide at a power of two above the subnormals. -/
structure Interval where
  lo : Nat
  hi : Nat
  closed : Bool

def interval (m : Nat) (e : Int) : Interval :=
  let lo := if m = Nat.pow 2 52 ∧ -1074 < e then 4 * m - 1 else 4 * m - 2
  ⟨lo, 4 * m + 2, m % 2 == 0⟩

/-- `c · 10^k` reads back as `m · 2^e`. -/
def readsBack (m : Nat) (e : Int) (c : Nat) (k : Int) : Bool :=
  let iv := interval m e
  let aboveLo := compareScaled c k iv.lo (e - 2)
  let belowHi := compareScaled c k iv.hi (e - 2)
  let okLo := aboveLo == .gt || (iv.closed && aboveLo == .eq)
  let okHi := belowHi == .lt || (iv.closed && belowHi == .eq)
  okLo && okHi

/-- Drops the trailing zeros of `c`, raising the exponent for each. -/
def dropZeros (c : Nat) (k : Int) : Nat × Int :=
  if h : 0 < c ∧ c % 10 = 0 then dropZeros (c / 10) (k + 1) else (c, k)
termination_by c
decreasing_by omega

/-- `m · 2^e` as a ratio `num / den` of naturals. -/
def ratioOf (m : Nat) (e : Int) : Nat × Nat :=
  if 0 ≤ e then (m * Nat.pow 2 e.toNat, 1) else (m, Nat.pow 2 (-e).toNat)

/-- Of the two `n`-digit neighbours of `m · 2^e`, the one that reads back; the nearer one
when both do, the even one on an exact tie. -/
def pickAt (m : Nat) (e : Int) (k : Int) : Option Nat :=
  let (num, den) := ratioOf m e
  let c := floorDivPow10 num den k
  let lo := readsBack m e c k
  let hi := readsBack m e (c + 1) k
  if lo && hi then
    -- `2 · x / 10^k` against `2c + 1`: which neighbour is nearer
    match Ord.compare (2 * num * Nat.pow 10 (-k).toNat) ((2 * c + 1) * den * Nat.pow 10 k.toNat) with
    | .lt => some c
    | .gt => some (c + 1)
    | .eq => some (if c % 2 == 0 then c else c + 1)
  else if lo then some c
  else if hi then some (c + 1)
  else none

/-- The shortest decimal `c · 10^k` (no trailing zeros in `c`) that reads back as the
positive double `m · 2^e`. Seventeen significant digits always suffice. -/
def shortest (m : Nat) (e : Int) : Nat × Int :=
  let (num, den) := ratioOf m e
  let top := floorLog10 num den
  let rec go : Nat → Nat → Nat × Int
    | 0, _ => dropZeros (floorDivPow10 num den (top - 16)) (top - 16)
    | fuel + 1, n =>
      let k := top - (n : Int) + 1
      match pickAt m e k with
      | some c => dropZeros c k
      | none => go fuel (n + 1)
  go 17 1

/-! ## Writing the digits -/

/-- How a double is written: which decimal-point positions stay positional, the
exponent mark and its least digit count, and the words for the non-finite values. -/
structure DecimalStyle where
  /-- Positional when `positionalAbove < point ≤ positionalUpTo`, where the value is
  `0.d₁d₂… · 10^point`. -/
  positionalAbove : Int
  positionalUpTo : Int
  expMark : String
  expDigits : Nat
  nanText : String
  infText : String

/-- The text of a value: exponent form from `10^16` up and below `10^-4`, a `.0` kept on
whole numbers, the exponent signed with at least two digits. -/
def DecimalStyle.literal : DecimalStyle :=
  ⟨-4, 16, "e", 2, "nan", "inf"⟩

/-- As `literal`, with the spellings that JSON readers accept for non-finite numbers. -/
def DecimalStyle.json : DecimalStyle :=
  ⟨-4, 16, "e", 2, "NaN", "Infinity"⟩

def zeros (n : Nat) : String := String.ofList (List.replicate n '0')

/-- Digits `ds` with the decimal point after `point` of them. -/
def placePoint (ds : String) (point : Int) : String :=
  let n := ds.length
  if point ≤ 0 then "0." ++ zeros (-point).toNat ++ ds
  else if n ≤ point.toNat then ds ++ zeros (point.toNat - n) ++ ".0"
  else String.ofList (ds.toList.take point.toNat) ++ "." ++ String.ofList (ds.toList.drop point.toNat)

/-- The exponent form `d.ddd` + mark + signed exponent. -/
def expForm (st : DecimalStyle) (ds : String) (point : Int) : String :=
  let x := point - 1
  let mant := match ds.toList with
    | [] => "0"
    | [d] => String.singleton d
    | d :: rest => String.singleton d ++ "." ++ String.ofList rest
  let digits := Nat.repr x.natAbs
  let padded := zeros (st.expDigits - digits.length) ++ digits
  mant ++ st.expMark ++ (if x < 0 then "-" else "+") ++ padded

def toText (st : DecimalStyle) (x : Binary64) : String :=
  match x.view with
  | .nan => st.nanText
  | .inf neg => (if neg then "-" else "") ++ st.infText
  | .finite neg m e =>
    let sign := if neg then "-" else ""
    if m = 0 then sign ++ "0.0"
    else
      let (c, k) := shortest m e
      let ds := Nat.repr c
      let point := (ds.length : Int) + k
      if st.positionalAbove < point ∧ point ≤ st.positionalUpTo then sign ++ placePoint ds point
      else sign ++ expForm st ds point

end Binary64

end RankAdvisor
