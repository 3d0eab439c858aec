import RankAdvisor.Calendar.Date

/-! # Calendar errors

Why a text did not give a date or a time, or why a date moved off the calendar.
-/

namespace RankAdvisor

/-- Why a calendar value could not be read or formed. -/
inductive CalendarError where
  /-- The text is not in any ISO form the reader knows. -/
  | notIso (text : String)
  /-- The text does not fit the pattern. -/
  | noMatch (text : String) (pattern : String)
  /-- The pattern matched a proper prefix; the rest is left over. -/
  | leftOver (rest : String)
  | yearRange (year : Nat)
  | monthRange
  | dayRange
  | hourRange
  | minuteRange
  | secondRange
  | microRange
  /-- An offset from UTC, in microseconds, of a day or more either way. -/
  | offsetRange (micros : Int)
  /-- Moving a date by days left the calendar. -/
  | offCalendar
  deriving DecidableEq, Repr

end RankAdvisor
