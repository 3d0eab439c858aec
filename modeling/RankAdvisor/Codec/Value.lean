import RankAdvisor.Json.Literal
import RankAdvisor.Number
import RankAdvisor.Text.Numeral
import RankAdvisor.Calendar.Iso
import RankAdvisor.Calendar.Duration
import RankAdvisor.Calendar.Fault

/-! # Reading values from JSON

The conversions used when values arrive as JSON: required and optional members, texts,
whole numbers, switches, numbers of either kind, lists, dates and times in ISO form. Two
conversions follow the general number rules of the surrounding system: `toDouble` takes
a number, a switch or a numeral text to the nearest double, and `toWhole` takes a number
or numeral text to a whole number, truncating a double.

Doubles that are not finite travel as `{"$float": "nan" | "inf" | "-inf"}`; `marked` and
`unmarked` convert a whole value. On the way in, any text or number that `toDouble` takes
may stand under the mark.
-/

namespace RankAdvisor

namespace Codec

def need (v : Json) (k : String) : Except Fault Json :=
  match v.get? k with
  | some x => .ok x
  | none => .error (Fault.missingKey k)

def opt (v : Json) (k : String) : Option Json := v.get? k

def asString (v : Json) : Except Fault String :=
  match v with
  | .str s => .ok s
  | _ => .error (Fault.wrongType s!"expected str, got {v.kindName}")

/-- A whole number; a switch counts as 0 or 1. -/
def asInt (v : Json) : Except Fault Int :=
  match v with
  | .int n => .ok n
  | .bool b => .ok (if b then 1 else 0)
  | _ => .error (Fault.wrongType s!"expected int, got {v.kindName}")

def asBool (v : Json) : Bool :=
  match v with
  | .bool b => b
  | .null => false
  | v => !v.isEmptyish

/-- A number of either kind; null as none. -/
def asNumber? (v : Json) : Except Fault (Option Number) :=
  match v with
  | .null => .ok none
  | .int n => .ok (some (.whole n))
  | .bool b => .ok (some (.whole (if b then 1 else 0)))
  | .num x => .ok (some (.double x))
  | _ => .error (Fault.wrongType s!"unsupported value {v.kindName}")

def numberOf (v : Json) : Except Fault Number := do
  match ← asNumber? v with
  | some n => pure n
  | none => throw (Fault.wrongType "unsupported operand type(s)")

def listOf (v : Json) : Except Fault (List Json) :=
  match v with
  | .arr xs => .ok xs
  | _ => .error (Fault.wrongType s!"expected list, got {v.kindName}")

/-- An optional number member, `d` when absent. -/
def numberOr (v : Json) (k : String) (d : Number) : Except Fault Number :=
  match opt v k with
  | some x => numberOf x
  | none => .ok d

/-- An optional text member, `d` when absent. -/
def stringOr (v : Json) (k : String) (d : String) : Except Fault String :=
  match opt v k with
  | some x => asString x
  | none => .ok d

/-- A count of repetitions: a whole number or a switch; any other value cannot count. -/
def countOf (v : Json) : Except Fault Int :=
  match v.index? with
  | some n => .ok n
  | none => .error (Fault.wrongType s!"{Json.quoteLiteral v.kindName} object cannot be interpreted as an integer")

/-- An optional whole-number member, `d` when absent. -/
def intOr (v : Json) (k : String) (d : Int) : Except Fault Int :=
  match opt v k with
  | some x => asInt x
  | none => .ok d

/-- The items of an optional list member; none when absent or not a list. -/
def itemsOf (v : Json) (k : String) : List Json :=
  match opt v k with
  | some (.arr xs) => xs
  | _ => []

/-- A number as JSON, keeping its kind. -/
def numberJson : Number → Json
  | .whole n => .int n
  | .double x => .num x

/-- A calendar result as a result with bad values as failures. -/
def calendar {α : Type} (r : Except CalendarError α) : Except Fault α :=
  match r with
  | .ok a => .ok a
  | .error e => .error e.fault

/-- The text of a value in ISO form; only a text can be read as one. -/
def isoText (v : Json) : Except Fault String :=
  match v with
  | .str s => .ok s
  | _ => .error (Fault.wrongType "fromisoformat: argument must be str")

def readDate (v : Json) : Except Fault Date := do
  calendar (Iso.readDate (← isoText v))

def readDateTime (v : Json) : Except Fault DateTime := do
  calendar (Iso.readDateTime (← isoText v))

/-- A time of day in ISO form, with its offset if it has one. -/
def readTime (v : Json) : Except Fault OffsetTime := do
  calendar (Iso.readTime (← isoText v))

/-- A value as the nearest double. -/
def toDouble (v : Json) : Except Fault Binary64 :=
  match v with
  | .int n => (Number.whole n).toDouble
  | .bool b => .ok (Binary64.ofInt (if b then 1 else 0))
  | .num x => .ok x
  | .str s => match Numeral.readDecimal? s with
    | some x => .ok x
    | none => .error (Fault.badValue s!"could not convert string to float: {Json.quoteLiteral s}")
  | _ => .error (Fault.wrongType s!"float() argument must be a string or a real number, not {Json.quoteLiteral v.kindName}")

/-- A value as a whole number, a double truncated. -/
def toWhole (v : Json) : Except Fault Int :=
  match v with
  | .int n => .ok n
  | .bool b => .ok (if b then 1 else 0)
  | .num x =>
    if x.isNaN then .error (Fault.badValue "cannot convert float NaN to integer")
    else match x.truncate? with
      | some n => .ok n
      | none => .error (Fault.overflow "cannot convert float infinity to integer")
  | .str s => match Numeral.readWholeText s with
    | .value n => .ok n
    | .tooLong k => .error (Fault.badValue s!"Exceeds the limit (4300 digits) for integer string conversion: value has {k} digits; use sys.set_int_max_str_digits() to increase the limit")
    | .malformed => .error (Fault.badValue s!"invalid literal for int() with base 10: {Json.quoteLiteral s}")
  | _ => .error (Fault.wrongType s!"int() argument must be a string, a bytes-like object or a real number, not {Json.quoteLiteral v.kindName}")

def floatMark (x : Binary64) : Json :=
  if x.isNaN then .obj [("$float", .str "nan")]
  else if x.isInf then .obj [("$float", .str (if x.signBit then "-inf" else "inf"))]
  else .num x

mutual

/-- A value with its non-finite doubles marked. -/
def marked : Json → Json
  | .num x => floatMark x
  | .arr xs => .arr (markedItems xs)
  | .obj kvs => .obj (markedMembers kvs)
  | v => v

def markedItems : List Json → List Json
  | [] => []
  | x :: xs => marked x :: markedItems xs

def markedMembers : List (String × Json) → List (String × Json)
  | [] => []
  | (k, x) :: rest => (k, marked x) :: markedMembers rest

end

mutual

/-- A value with its marks turned back into doubles. The value under a mark is converted
as `toDouble` converts it, so a numeral text or a whole number may stand there too. -/
def unmarked : Json → Except Fault Json
  | .arr xs => return .arr (← unmarkedItems xs)
  | .obj [("$float", v)] => return .num (← toDouble v)
  | .obj kvs => return .obj (← unmarkedMembers kvs)
  | v => pure v

def unmarkedItems : List Json → Except Fault (List Json)
  | [] => pure []
  | x :: xs => return (← unmarked x) :: (← unmarkedItems xs)

def unmarkedMembers : List (String × Json) → Except Fault (List (String × Json))
  | [] => pure []
  | (k, x) :: rest => return (k, ← unmarked x) :: (← unmarkedMembers rest)

end

/-- The members reporting a failure: its kind's name, its text, and its status if any. -/
def failureFields (f : Fault) : List (String × Json) :=
  [("error", .str f.kind.className), ("message", .str f.text)] ++
    (match f.status with
     | some s => [("status_code", s)]
     | none => [])

def outcomeFields (r : Except Fault Json) : List (String × Json) :=
  match r with
  | .ok v => [("result", v)]
  | .error f => failureFields f

end Codec

end RankAdvisor
