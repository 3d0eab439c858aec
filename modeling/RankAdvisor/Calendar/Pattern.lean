import RankAdvisor.Calendar.Clock
import RankAdvisor.Calendar.Error
import RankAdvisor.Calendar.Iso
import RankAdvisor.Text.Digit
import RankAdvisor.Text.Numeral

/-! # Field patterns

Reading a date or a time of day by a pattern of numeric fields, such as "year, month, day"
(`%Y%m%d`) or "hour, colon, minute" (`%H:%M`). Each field has alternatives tried in a fixed
order; the reading is the first choice of alternatives, in that order, under which every
field matches, starting from the front of the text. The text must then be used up.

A general digit (`\d`) is a decimal digit of any script; the classes written with ASCII
digits, like `[0-5]`, hold only those.
-/

namespace RankAdvisor

namespace Pattern

/-- One character position of an alternative. -/
inductive Atom where
  /-- Exactly this character. -/
  | lit (c : Char)
  /-- An ASCII digit from `lo` to `hi`. -/
  | range (lo hi : Char)
  /-- A decimal digit of any script. -/
  | digit
  deriving Repr

def Atom.takes : Atom → Char → Bool
  | .lit c, d => c == d
  | .range lo hi, d => lo ≤ d && d ≤ hi
  | .digit, d => (Text.digitValue? d).isSome

/-- The characters an alternative takes from the front of `cs`, and the rest. -/
def takeAlt : List Atom → List Char → Option (List Char × List Char)
  | [], cs => some ([], cs)
  | _ :: _, [] => none
  | a :: as, c :: cs =>
    if a.takes c then (takeAlt as cs).map fun (got, rest) => (c :: got, rest) else none

/-- The first choice of alternatives under which every field matches, with the text of
each field and the rest of the input. -/
def matchFields : List (List (List Atom)) → List Char → Option (List (List Char) × List Char)
  | [], cs => some ([], cs)
  | alts :: fields, cs =>
    alts.findSome? fun alt => do
      let (got, rest) ← takeAlt alt cs
      let (gots, rest') ← matchFields fields rest
      pure (got :: gots, rest')

/-- A field pattern: its text (for messages), its fields, and which fields carry values
(a literal separator is a field of one alternative that carries none). -/
structure Shape where
  text : String
  fields : List (List (List Atom))

open Atom

def yearField : List (List Atom) := [[digit, digit, digit, digit]]

def monthField : List (List Atom) :=
  [[lit '1', range '0' '2'], [lit '0', range '1' '9'], [range '1' '9']]

/-- A day: `30`–`31`, `1x`–`2x`, `01`–`09`, `1`–`9`, or a blank and `1`–`9`. -/
def dayField : List (List Atom) :=
  [[lit '3', range '0' '1'], [range '1' '2', digit], [lit '0', range '1' '9'], [range '1' '9'],
    [lit ' ', range '1' '9']]

/-- An hour: `20`–`23`, `0x`–`1x`, or one digit. -/
def hourField : List (List Atom) := [[lit '2', range '0' '3'], [range '0' '1', digit], [digit]]

def minuteField : List (List Atom) := [[range '0' '5', digit], [digit]]

def compactDate : Shape := ⟨"%Y%m%d", [yearField, monthField, dayField]⟩

/-- Hour and minute parted by a colon. -/
def hourMinute : Shape := ⟨"%H:%M", [hourField, [[lit ':']], minuteField]⟩

/-- The value of a field's text: its digits, after an optional leading blank. -/
def fieldValue (cs : List Char) : Nat :=
  ((Numeral.readWhole? (String.ofList cs)).getD 0).toNat

/-- The field texts of a whole text, or why it does not fit. -/
def read (sh : Shape) (s : String) : Except CalendarError (List Nat) :=
  match matchFields sh.fields s.toList with
  | none => .error (.noMatch s sh.text)
  | some (gots, []) => .ok (gots.map fieldValue)
  | some (_, rest) => .error (.leftOver (String.ofList rest))

def readCompactDate (s : String) : Except CalendarError Date := do
  match ← read compactDate s with
  | [y, m, d] => Iso.checkDate y m d
  | _ => throw (.noMatch s compactDate.text)

def readHourMinute (s : String) : Except CalendarError TimeOfDay := do
  match ← read hourMinute s with
  | [h, _, m] => pure ⟨h, m, 0, 0⟩
  | _ => throw (.noMatch s hourMinute.text)

end Pattern

end RankAdvisor
