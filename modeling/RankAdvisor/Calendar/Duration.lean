import RankAdvisor.Calendar.Clock
import RankAdvisor.Json.Order

/-! # Durations

A duration is a whole number of microseconds, at most 999999999 days either way. A
duration given in some unit (seconds, hours) is converted the way the calendar does it:
the whole part of the count exactly, then the fraction times the unit rounded once to a
double, its whole microseconds added, and what is left below a microsecond rounded to the
nearest, an exact half going to an even total.
-/

namespace RankAdvisor

/-- A span of time in microseconds. -/
structure Duration where
  micros : Int
  deriving DecidableEq, Repr, Inhabited

namespace Duration

def second : Nat := 1000000

def hour : Nat := 3600000000

def day : Nat := 86400000000

def maxDays : Nat := 999999999

/-- Whether a count of days fits a 32-bit signed machine word, as the day count of a
duration must before its range is checked. -/
def daysFitWord (days : Int) : Bool := -(Nat.pow 2 31 : Int) ≤ days && days < (Nat.pow 2 31 : Int)

/-- A count of microseconds as a duration, within the day range; the days are counted
down to the whole day below. -/
def ofMicros (us : Int) : Except Fault Duration :=
  let days := us / (DateTime.microsPerDay : Int)
  if !daysFitWord days then .error (Fault.overflow "Python int too large to convert to C int")
  else if maxDays < days.natAbs then
    .error (Fault.overflow s!"days={days}; must have magnitude <= {maxDays}")
  else .ok ⟨us⟩

/-- How a leftover below one microsecond rounds: to the nearest whole, and an exact half
to the side that makes `total` even. `twice` is the leftover doubled. -/
def roundLeftover (total : Int) (twice : Binary64) : Int :=
  let odd := total % 2 == 1
  if (1 : Binary64).lt twice then 1
  else if twice.eqNum 1 then (if odd then 1 else 0)
  else if twice.lt (Binary64.ofInt (-1)) then -1
  else if twice.eqNum (Binary64.ofInt (-1)) then (if odd then -1 else 0)
  else 0

/-- A count of units, each `unit` microseconds long, as a duration. -/
def ofUnits (x : Number) (unit : Nat) : Except Fault Duration :=
  match x with
  | .whole n => ofMicros (n * unit)
  | .double x =>
    if x.isNaN then .error (Fault.badValue "cannot convert float NaN to integer")
    else match x.truncate? with
      | none => .error (Fault.overflow "cannot convert float infinity to integer")
      | some whole =>
        let frac := x.sub (Binary64.ofInt whole)
        if frac.isZero then ofMicros (whole * unit)
        else
          let scaled := frac.mul (Binary64.ofInt unit)
          let us := scaled.truncate?.getD 0
          let left := scaled.sub (Binary64.ofInt us)
          let total := whole * unit + us
          ofMicros (total + roundLeftover total (left.add left))

def ofSeconds (x : Number) : Except Fault Duration := ofUnits x second

def ofHours (x : Number) : Except Fault Duration := ofUnits x hour

/-- A count of `unit`s given as a value of any kind: a number, or a switch as 0 or 1; the
unit is named in the failure of another kind. -/
def countOf (unitName : String) (micros : Nat) (v : Json) : Except Fault Duration :=
  match v.number? with
  | some x => ofUnits x micros
  | none =>
    .error (Fault.wrongType s!"unsupported type for timedelta {unitName} component: {v.kindName}")

/-- A count of hours given as a value of any kind. -/
def hoursOf (v : Json) : Except Fault Duration := countOf "hours" hour v

/-- A count of seconds given as a value of any kind. -/
def secondsOf (v : Json) : Except Fault Duration := countOf "seconds" second v

def ofDays (x : Number) : Except Fault Duration := ofUnits x day

/-- The whole days of a duration, counted down. -/
def wholeDays (d : Duration) : Int := d.micros / (day : Int)

end Duration

/-- The instant a duration later; an instant past the calendar is an overflow. -/
def DateTime.shift (t : DateTime) (d : Duration) : Except Fault DateTime :=
  match t.addMicros? d.micros with
  | some t' => .ok { t' with offset := t.offset }
  | none => .error (Fault.overflow "date value out of range")

def DateTime.since (b a : DateTime) : Duration := ⟨(b.toMicros : Int) - a.toMicros⟩

end RankAdvisor
