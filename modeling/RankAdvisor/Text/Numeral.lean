import RankAdvisor.Binary64.Round
import RankAdvisor.Text.Blank
import RankAdvisor.Text.Digit

/-! # Numerals

Reading a number from text, in two grammars.

* `readDecimal?`: an optional sign, then `inf`, `infinity` or `nan` in any case, or digits
  with an optional point and fraction and an optional exponent `e±digits`; the value is
  rounded once to the nearest double.
* `readWhole?`: an optional sign and at most 4300 digits. `readWholeText` also tells a
  malformed numeral from one whose leading run of digits is longer than that: the run is
  measured before anything after it is looked at.

In both, a single underscore may stand between two digits, blanks may surround the
numeral, and the digits of any script count with their decimal values. Before the grammar
is applied the text is brought to ASCII: a blank beyond ASCII becomes a space, a digit of
another script its ASCII digit, and any other character beyond ASCII spoils the numeral.
-/

namespace RankAdvisor

namespace Numeral

open Text

/-- The ASCII blanks that surround a numeral. -/
def isAsciiBlank (c : Char) : Bool :=
  c == ' ' || c == '\t' || c == '\n' || c == '\x0b' || c == '\x0c' || c == '\r'

/-- The text brought to ASCII, or `none` if a character beyond ASCII is neither a blank
nor a digit. -/
def toAscii (s : String) : Option (List Char) :=
  s.toList.mapM fun c =>
    if c.toNat < 127 then some c
    else if isBlank c then some ' '
    else (digitValue? c).map fun d => Char.ofNat (48 + d)

/-- Underscores stand only between two digits; `prev` is the character before the list. -/
def underscoresFit (prev : Char) : List Char → Bool
  | [] => prev != '_'
  | c :: rest =>
    if c == '_' then isAsciiDigit prev && underscoresFit c rest
    else (prev != '_' || isAsciiDigit c) && underscoresFit c rest

def trimAscii (cs : List Char) : List Char :=
  ((cs.dropWhile isAsciiBlank).reverse.dropWhile isAsciiBlank).reverse

/-- The leading run of ASCII digits: its value, its length, and the rest. -/
def digitRun : List Char → Nat → Nat → Nat × Nat × List Char
  | c :: rest, acc, n =>
    if isAsciiDigit c then digitRun rest (acc * 10 + (c.toNat - 48)) (n + 1) else (acc, n, c :: rest)
  | [], acc, n => (acc, n, [])

/-- A leading sign: whether it is a minus, and the rest. -/
def takeSign : List Char → Bool × List Char
  | '-' :: rest => (true, rest)
  | '+' :: rest => (false, rest)
  | cs => (false, cs)

def lowerAscii (cs : List Char) : List Char := cs.map Char.toLower

/-- An unsigned decimal numeral as `d · 10^e`, all characters used. -/
def unsignedDecimal (cs : List Char) : Option (Nat × Int) :=
  let (whole, nw, rest) := digitRun cs 0 0
  let (frac, nf, rest) := match rest with
    | '.' :: r => digitRun r whole 0
    | r => (whole, 0, r)
  if nw + nf = 0 then none
  else
    match rest with
    | [] => some (frac, -(nf : Int))
    | c :: r =>
      if c == 'e' || c == 'E' then
        let (neg, r) := takeSign r
        let (x, nx, r) := digitRun r 0 0
        if nx = 0 || !r.isEmpty then none
        else some (frac, (if neg then -(x : Int) else x) - nf)
      else none

/-- A numeral of the decimal grammar, as the double nearest to it. -/
def readDecimal? (s : String) : Option Binary64 := do
  let cs ← toAscii s
  if !underscoresFit ' ' cs then none
  let cs := trimAscii (cs.filter (· != '_'))
  let (neg, body) := takeSign cs
  let word := lowerAscii body
  if word == "inf".toList || word == "infinity".toList then some (Binary64.infinity neg)
  else if word == "nan".toList then some (if neg then Binary64.nan.neg else Binary64.nan)
  else
    let (d, e) ← unsignedDecimal body
    some (Binary64.ofDecimal neg d e)

/-- The most digits a whole numeral may have. -/
def maxWholeDigits : Nat := 4300

/-- What a text gives as a whole numeral. -/
inductive WholeText where
  | value (n : Int)
  | malformed
  /-- A run of digits longer than `maxWholeDigits`, with its length. -/
  | tooLong (digits : Nat)
  deriving Repr, DecidableEq

/-- The text brought to ASCII, a character beyond ASCII that is neither a blank nor a digit
becoming `?`, which no numeral holds. -/
def toAsciiMarked (s : String) : List Char :=
  s.toList.map fun c =>
    if c.toNat < 127 then c
    else if isBlank c then ' '
    else match digitValue? c with
      | some d => Char.ofNat (48 + d)
      | none => '?'

/-- The rest of a run of digits after a digit, in which a single underscore may stand
before a digit: its digits and what follows; `none` when an underscore doubles or ends the
run. -/
def runAfterDigit : List Char → Option (List Char × List Char)
  | '_' :: c :: rest =>
    if isAsciiDigit c then (runAfterDigit rest).map fun (ds, r) => (c :: ds, r) else none
  | ['_'] => none
  | c :: rest =>
    if isAsciiDigit c then (runAfterDigit rest).map fun (ds, r) => (c :: ds, r)
    else some ([], c :: rest)
  | [] => some ([], [])

/-- The leading run of digits, in which a single underscore may stand between two digits:
its digits and the rest; `none` when an underscore doubles or ends the run. -/
def underscoredRun : List Char → Option (List Char × List Char)
  | c :: rest =>
    if isAsciiDigit c then (runAfterDigit rest).map fun (ds, r) => (c :: ds, r)
    else some ([], c :: rest)
  | [] => some ([], [])

/-- A text read as a whole numeral. -/
def readWholeText (s : String) : WholeText :=
  let (neg, body) := takeSign ((toAsciiMarked s).dropWhile isAsciiBlank)
  match underscoredRun body with
  | none => .malformed
  | some (ds, rest) =>
    if maxWholeDigits < ds.length then .tooLong ds.length
    else if ds.isEmpty || !rest.all isAsciiBlank then .malformed
    else
      let n := (digitRun ds 0 0).1
      .value (if neg then -(n : Int) else n)

/-- A numeral of the whole-number grammar. -/
def readWhole? (s : String) : Option Int :=
  match readWholeText s with
  | .value n => some n
  | _ => none

end Numeral

end RankAdvisor
