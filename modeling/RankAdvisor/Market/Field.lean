import RankAdvisor.Json.Literal
import RankAdvisor.Text.Numeral
import RankAdvisor.Calendar.Pattern
import RankAdvisor.Fault

/-! # Fields of market data

The market data service sends every figure as text ("71,500", "-1.25", "20240320"). A field
is read from its plain text with blanks trimmed and thousands commas removed: a missing
field and an empty one are told apart, and a field that does not read names itself and
quotes the value it had.

* `readDecimal`: a decimal numeral, as a double.
* `readWhole`: a whole numeral, or else a decimal numeral cut toward zero ("1234.0").
* `readTradeDate`: year, month and day digits (`YYYYMMDD`) naming a calendar date.
-/

namespace RankAdvisor

namespace Field

/-- The text of a field value, trimmed, without commas; missing and empty fields fail. -/
def clean (value : Json) (field : String) : Except Fault String :=
  match value with
  | .null => .error (Fault.parse s!"字段 {field} 缺失")
  | v =>
    let t := String.ofList ((Text.trimBlank v.plainText).toList.filter (· != ','))
    if t.isEmpty then .error (Fault.parse s!"字段 {field} 为空") else .ok t

/-- A decimal field as a double. -/
def readDecimal (value : Json) (field : String := "value") : Except Fault Binary64 := do
  let t ← clean value field
  match Numeral.readDecimal? t with
  | some x => pure x
  | none => throw (Fault.parse s!"字段 {field} 不是合法数值: {value.literal}")

/-- A whole-number field. A decimal numeral is cut toward zero; an infinite one overflows. -/
def readWhole (value : Json) (field : String := "value") : Except Fault Int := do
  let t ← clean value field
  let bad := Fault.parse s!"字段 {field} 不是合法整数: {value.literal}"
  match Numeral.readWhole? t with
  | some n => pure n
  | none =>
    match Numeral.readDecimal? t with
    | none => throw bad
    | some x =>
      if x.isNaN then throw bad
      else if x.isInf then throw (Fault.overflow "cannot convert float infinity to integer")
      else match x.truncate? with
        | some n => pure n
        | none => throw bad

/-- A trade date field in the compact form `YYYYMMDD`. -/
def readTradeDate (value : Json) (field : String := "date") : Except Fault Date := do
  let t ← clean value field
  match Pattern.readCompactDate t with
  | .ok d => pure d
  | .error _ => throw (Fault.parse s!"字段 {field} 不是合法日期: {value.literal}")

/-- A stock code: six characters, each an ASCII digit or capital letter, optionally
followed by one line feed. -/
def isStockCode (code : String) : Bool :=
  let ok := fun (c : Char) => ('0' ≤ c && c ≤ '9') || ('A' ≤ c && c ≤ 'Z')
  match code.toList with
  | [a, b, c, d, e, f] => [a, b, c, d, e, f].all ok
  | [a, b, c, d, e, f, '\n'] => [a, b, c, d, e, f].all ok
  | _ => false

/-- Checks a stock code given as any value: an empty value is no code, a text is checked
by `isStockCode`, and any other value is refused for not being text. -/
def checkStockCode (v : Json) : Except Fault Bool :=
  if v.isEmptyish then .ok false
  else match v with
    | .str s => .ok (isStockCode s)
    | _ => .error (Fault.notText v.kindName)

end Field

end RankAdvisor
