import RankAdvisor.Calendar.Clock
import RankAdvisor.Text.Digit
import RankAdvisor.Fault

/-! # The daily schedule

A run can be scheduled once a day at a time `HH:MM` or `HH:MM:SS`. The text must have two
digits for each part: the first an ASCII digit, at most 2 in the hour and at most 5 in the
minutes and seconds, the second a digit of any script; one line break may follow. The hour
must then be at most 23.
-/

namespace RankAdvisor

/-- A job that runs every `interval` days at a time of day. -/
structure DailyJob where
  time : TimeOfDay
  interval : Nat := 1
  deriving Repr

namespace Schedule

/-- The failure of a time that is not in the daily form. -/
def badFormat : Fault := ⟨.schedule, "Invalid time format for a daily job (valid format is HH:MM(:SS)?)", none⟩

def notText : Fault := Fault.wrongType "at() should be passed a string"

def asciiDigitAtMost (top : Nat) (c : Char) : Option Nat :=
  if 48 ≤ c.toNat ∧ c.toNat ≤ 48 + top then some (c.toNat - 48) else none

/-- The parts of a daily time: hour, minutes and seconds. -/
def parts (s : String) : Option (Nat × Nat × Nat) :=
  let cs := s.toList
  let cs := match cs.reverse with
    | '\n' :: rest => rest.reverse
    | _ => cs
  let two (a b : Char) (top : Nat) : Option Nat := do
    pure ((← asciiDigitAtMost top a) * 10 + (← Text.digitValue? b))
  match cs with
  | [h1, h2, ':', m1, m2] => do pure (← two h1 h2 2, ← two m1 m2 5, 0)
  | [h1, h2, ':', m1, m2, ':', s1, s2] => do pure (← two h1 h2 2, ← two m1 m2 5, ← two s1 s2 5)
  | _ => none

def daily (s : String) : Except Fault DailyJob :=
  match parts s with
  | none => .error badFormat
  | some (h, m, sec) =>
    if 23 < h then .error ⟨.schedule, "Invalid number of hours (\x7b\x7d is not between 0 and 23)", none⟩
    else .ok { time := ⟨h, m, sec, 0⟩ }

end Schedule

end RankAdvisor
