import RankAdvisor.Calendar.Error
import RankAdvisor.Fault

/-! # Calendar errors as faults

The text of each calendar error, quoting the text that was read as a literal and writing
an offset as a span of days, seconds and microseconds, and the fault it is reported as: a
bad value.
-/

namespace RankAdvisor

namespace CalendarError

/-- The text of a span of microseconds as whole days (rounded down), then seconds and
microseconds within the day, each left out when zero. -/
def spanText (u : Int) : String :=
  let day : Int := 86400000000
  let rest := (u % day).toNat
  let parts := [("days", u / day), ("seconds", ((rest / 1000000 : Nat) : Int)),
    ("microseconds", ((rest % 1000000 : Nat) : Int))]
  let shown := (parts.filter fun p => p.2 != 0).map fun p => p.1 ++ "=" ++ toString p.2
  "datetime.timedelta(" ++ (if shown.isEmpty then "0" else ", ".intercalate shown) ++ ")"

def message : CalendarError → String
  | .notIso t => s!"Invalid isoformat string: {Json.quoteLiteral t}"
  | .noMatch t p => s!"time data {Json.quoteLiteral t} does not match format {Json.quoteLiteral p}"
  | .leftOver r => s!"unconverted data remains: {r}"
  | .yearRange y => s!"year {y} is out of range"
  | .monthRange => "month must be in 1..12"
  | .dayRange => "day is out of range for month"
  | .hourRange => "hour must be in 0..23"
  | .minuteRange => "minute must be in 0..59"
  | .secondRange => "second must be in 0..59"
  | .microRange => "microsecond must be in 0..999999"
  | .offsetRange u =>
    let span := spanText u
    "offset must be a timedelta strictly between -timedelta(hours=24) and " ++
      s!"timedelta(hours=24), not {span}."
  | .offCalendar => "date value out of range"

def fault (e : CalendarError) : Fault := Fault.badValue e.message

end CalendarError

end RankAdvisor
