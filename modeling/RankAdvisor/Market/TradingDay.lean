import RankAdvisor.Calendar.Duration
import RankAdvisor.Calendar.Error
import RankAdvisor.Json.Order

/-! # Trading days

The last trading day at an instant: the instant's date once the market has closed that
day, else the day before, and a Saturday or Sunday goes back to the Friday before. Public
holidays are not known, and a closing time written with an offset from UTC is refused.

A window of `w` days ends on a day and holds `w` calendar days, at least one. The count may
be any number; the span back is `max w 1 - 1` days as a duration, of which the whole days
count, so a window of two and a half days reaches one day back.
-/

namespace RankAdvisor

namespace TradingDay

/-- The market's closing time when none is configured: 15:30. -/
def defaultClose : TimeOfDay := ⟨15, 30, 0, 0⟩

/-- A date moved by days, or the calendar's overflow. -/
def shift (d : Date) (k : Int) : Except Fault Date :=
  match d.addDays? k with
  | some d' => .ok d'
  | none => .error (Fault.overflow "date value out of range")

/-- The last trading day at `now` for a market closing at `close`. -/
def last (now : DateTime) (close : TimeOfDay := defaultClose) : Except Fault Date := do
  let day ← if now.time.before close then shift now.date (-1) else pure now.date
  match day.weekday with
  | 5 => shift day (-1)
  | 6 => shift day (-2)
  | _ => pure day

/-- The failure of setting a time of day with an offset against one without. -/
def mixedOffsets : Fault := Fault.wrongType "can't compare offset-naive and offset-aware times"

/-- The last trading day at `now` for a market closing at a written time of day; a closing
time written with an offset cannot be set against the instant's time of day, which is taken
without one. -/
def lastAt (now : DateTime) (close : OffsetTime) : Except Fault Date :=
  if close.offset.isSome then .error mixedOffsets else last now close.time

/-- The first and last day of the window of `days` calendar days ending on `last`. -/
def window (last : Date) (days : Json) : Except Fault (Date × Date) := do
  let span ← Json.minus (if ← Json.gt (.int 1) days then .int 1 else days) (.int 1)
  let back ← Duration.ofDays span
  let first ← shift last (-back.wholeDays)
  pure (first, last)

end TradingDay

end RankAdvisor
