import RankAdvisor.Calendar.Date

/-! # Times of day and instants

A time of day to the microsecond, and an instant: a date with a time of day. Instants are
compared and moved as microseconds since 0001-01-01 midnight (`DateTime.toMicros`), so the
clock of the result cache and the timestamps of stored records are plain integers.
-/

namespace RankAdvisor

/-- A time of day. -/
structure TimeOfDay where
  hour : Nat
  minute : Nat
  second : Nat
  micro : Nat := 0
  deriving DecidableEq, Repr, Inhabited

namespace TimeOfDay

def toMicros (t : TimeOfDay) : Nat :=
  ((t.hour * 60 + t.minute) * 60 + t.second) * 1000000 + t.micro

/-- The time of day `n` microseconds after midnight, `n` below one day. -/
def ofMicros (n : Nat) : TimeOfDay :=
  ⟨n / 3600000000, n / 60000000 % 60, n / 1000000 % 60, n % 1000000⟩

def before (a b : TimeOfDay) : Bool := a.toMicros < b.toMicros

/-- `HH:MM:SS`, with `.ffffff` when there are microseconds. -/
def iso (t : TimeOfDay) : String :=
  Date.pad 2 t.hour ++ ":" ++ Date.pad 2 t.minute ++ ":" ++ Date.pad 2 t.second ++
    (if t.micro = 0 then "" else "." ++ Date.pad 6 t.micro)

end TimeOfDay

/-- A time of day as written, with the offset from UTC in microseconds when one was given. -/
structure OffsetTime where
  time : TimeOfDay
  offset : Option Int := none
  deriving DecidableEq, Repr, Inhabited

/-- An instant: a date and a time of day, with the offset from UTC in microseconds when it
was given. -/
structure DateTime where
  date : Date
  time : TimeOfDay
  offset : Option Int := none
  deriving DecidableEq, Repr, Inhabited

namespace DateTime

def microsPerDay : Nat := 86400000000

/-- Microseconds since 0001-01-01 midnight, the offset set aside. -/
def toMicros (t : DateTime) : Nat := (t.date.toOrdinal - 1) * microsPerDay + t.time.toMicros

/-- The instant `n` microseconds after 0001-01-01 midnight; `none` past the calendar. -/
def ofMicros? (n : Nat) : Option DateTime := do
  let d ← Date.ofOrdinal? (n / microsPerDay + 1)
  pure ⟨d, TimeOfDay.ofMicros (n % microsPerDay), none⟩

/-- The instant `k` microseconds later; `none` outside the calendar. -/
def addMicros? (t : DateTime) (k : Int) : Option DateTime :=
  let n : Int := (t.toMicros : Int) + k
  if n < 0 then none else ofMicros? n.toNat

/-- Midnight at the start of a date. -/
def ofDate (d : Date) : DateTime := ⟨d, ⟨0, 0, 0, 0⟩, none⟩

/-- `YYYY-MM-DDTHH:MM:SS[.ffffff]`, the offset as `+HH:MM` when it was given, with seconds
and then microseconds when it has them. -/
def iso (t : DateTime) : String :=
  let off := match t.offset with
    | none => ""
    | some u =>
      let a := u.natAbs / 1000000
      let us := u.natAbs % 1000000
      (if u < 0 then "-" else "+") ++ Date.pad 2 (a / 3600) ++ ":" ++ Date.pad 2 (a / 60 % 60) ++
        (if a % 60 = 0 ∧ us = 0 then "" else ":" ++ Date.pad 2 (a % 60)) ++
        (if us = 0 then "" else "." ++ Date.pad 6 us)
  t.date.iso ++ "T" ++ t.time.iso ++ off

end DateTime

end RankAdvisor
