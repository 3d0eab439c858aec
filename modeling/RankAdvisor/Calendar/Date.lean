/-! # Calendar dates

Dates of the proleptic Gregorian calendar from 0001-01-01 to 9999-12-31. A date is its year,
month and day; `Date.toOrdinal` counts days with 0001-01-01 as day one and
`Date.ofOrdinal?` goes back, so moving by days is arithmetic on the day number. Weekdays
count from Monday as zero, and 0001-01-01 was a Monday.
-/

namespace RankAdvisor

/-- A calendar date. -/
structure Date where
  year : Nat
  month : Nat
  day : Nat
  deriving DecidableEq, Repr, Inhabited

namespace Date

/-- Leap years: divisible by four, and by four hundred if by a hundred. -/
def isLeap (y : Nat) : Bool := y % 4 == 0 && (y % 100 != 0 || y % 400 == 0)

def daysInMonth (y m : Nat) : Nat :=
  match m with
  | 2 => if isLeap y then 29 else 28
  | 4 | 6 | 9 | 11 => 30
  | _ => 31

/-- The days of a year before the first of month `m`. -/
def daysBeforeMonth (y m : Nat) : Nat :=
  (List.range (m - 1)).foldl (fun acc i => acc + daysInMonth y (i + 1)) 0

/-- The days before January 1 of year `y`. -/
def daysBeforeYear (y : Nat) : Nat :=
  let p := y - 1
  p * 365 + p / 4 - p / 100 + p / 400

/-- A date of the calendar: year 1 to 9999, month 1 to 12, a day of that month. -/
def Valid (d : Date) : Prop :=
  1 ≤ d.year ∧ d.year ≤ 9999 ∧ 1 ≤ d.month ∧ d.month ≤ 12 ∧ 1 ≤ d.day ∧
    d.day ≤ daysInMonth d.year d.month

instance (d : Date) : Decidable d.Valid := by unfold Valid; infer_instance

/-- The day number, 0001-01-01 being day one. -/
def toOrdinal (d : Date) : Nat := daysBeforeYear d.year + daysBeforeMonth d.year d.month + d.day

/-- The last day number of the calendar, 9999-12-31. -/
def maxOrdinal : Nat := 3652059

/-- The date of day number `n` of year `y`'s day `k` (zero-based) of the year. -/
def ofDayOfYear (y k : Nat) : Date :=
  let rec go : Nat → Nat → Date
    | 0, _ => ⟨y, 12, 31⟩
    | fuel + 1, m =>
      if k < daysBeforeMonth y (m + 1) ∨ m = 12 then ⟨y, m, k - daysBeforeMonth y m + 1⟩
      else go fuel (m + 1)
  go 12 1

/-- The date of day number `n`, counting 0001-01-01 as day one; past 9999-12-31 the years
go on the same way. -/
def ofOrdinal (n : Nat) : Date :=
  let n0 := n - 1
  let c400 := n0 / 146097
  let r := n0 % 146097
  let c100 := min (r / 36524) 3
  let r := r - c100 * 36524
  let c4 := r / 1461
  let r := r % 1461
  let c1 := min (r / 365) 3
  let r := r - c1 * 365
  let y := c400 * 400 + c100 * 100 + c4 * 4 + c1 + 1
  ofDayOfYear y r

/-- The date of a day number; `none` outside 1 to `maxOrdinal`. -/
def ofOrdinal? (n : Nat) : Option Date :=
  if n < 1 ∨ maxOrdinal < n then none else some (ofOrdinal n)

def weekday (d : Date) : Nat := (d.toOrdinal + 6) % 7

/-- The date `k` days later (earlier for negative `k`); `none` outside the calendar. -/
def addDays? (d : Date) (k : Int) : Option Date :=
  let n : Int := (d.toOrdinal : Int) + k
  if n < 1 then none else ofOrdinal? n.toNat

def pad (w n : Nat) : String :=
  let ds := Nat.repr n
  String.ofList (List.replicate (w - ds.length) '0') ++ ds

def iso (d : Date) : String := pad 4 d.year ++ "-" ++ pad 2 d.month ++ "-" ++ pad 2 d.day

/-- Compact text `YYYYMMDD` as the market data service takes it; the year is written
without leading zeros. -/
def compact (d : Date) : String := Nat.repr d.year ++ pad 2 d.month ++ pad 2 d.day

/-- Dates in calendar order: by year, then month, then day. -/
instance : Ord Date :=
  ⟨fun a b => (compare a.year b.year).then ((compare a.month b.month).then (compare a.day b.day))⟩

def before (a b : Date) : Bool := compare a b == .lt

end Date

end RankAdvisor
