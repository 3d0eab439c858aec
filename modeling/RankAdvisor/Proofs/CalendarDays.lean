import RankAdvisor.Calendar.Date

/-! # Day numbers of the calendar

`Date.toOrdinal` and `Date.ofOrdinal` are inverse on the calendar: every day number from 1 to
`maxOrdinal` is the number of exactly one valid date (`toOrdinal_ofOrdinal`,
`valid_ofOrdinal`), and day numbers follow the calendar order (`compare_eq`). Moving a date
by days is then arithmetic on its number (`addDays?_eq_some`), and so is its weekday.
-/

namespace RankAdvisor

set_option autoImplicit false

namespace Date

/-! ## Months and years -/

theorem isLeap_iff (y : Nat) : isLeap y = true ↔ y % 4 = 0 ∧ (y % 100 ≠ 0 ∨ y % 400 = 0) := by
  simp [isLeap]

theorem isLeap_false {y : Nat} (h : isLeap y = false) :
    y % 4 ≠ 0 ∨ (y % 100 = 0 ∧ y % 400 ≠ 0) := by
  by_cases h4 : y % 4 = 0
  · by_cases h100 : y % 100 = 0
    · by_cases h400 : y % 400 = 0
      · simp [(isLeap_iff y).2 ⟨h4, .inr h400⟩] at h
      · exact .inr ⟨h100, h400⟩
    · simp [(isLeap_iff y).2 ⟨h4, .inl h100⟩] at h
  · exact .inl h4

theorem daysInMonth_bounds (y m : Nat) : 28 ≤ daysInMonth y m ∧ daysInMonth y m ≤ 31 := by
  unfold daysInMonth
  split
  · split <;> omega
  all_goals omega

theorem daysBeforeMonth_succ (y : Nat) {m : Nat} (hm : 1 ≤ m) :
    daysBeforeMonth y (m + 1) = daysBeforeMonth y m + daysInMonth y m := by
  obtain ⟨k, rfl⟩ : ∃ k, m = k + 1 := ⟨m - 1, by omega⟩
  simp [daysBeforeMonth, List.range_succ, List.foldl_append]

theorem daysBeforeMonth_one (y : Nat) : daysBeforeMonth y 1 = 0 := rfl

theorem daysBeforeMonth_mono (y : Nat) {m m' : Nat} (hm : 1 ≤ m) (h : m ≤ m') :
    daysBeforeMonth y m ≤ daysBeforeMonth y m' := by
  obtain ⟨k, rfl⟩ := Nat.exists_eq_add_of_le h
  induction k with
  | zero => exact Nat.le_refl _
  | succ k ih =>
    rw [← Nat.add_assoc, daysBeforeMonth_succ y (by omega)]
    omega

theorem daysBeforeMonth_thirteen (y : Nat) :
    daysBeforeMonth y 13 = if isLeap y then 366 else 365 := by
  simp only [daysBeforeMonth, daysInMonth, List.range_succ, List.range_zero, List.nil_append,
    List.foldl_append, List.foldl_cons, List.foldl_nil]
  split <;> rfl

theorem daysBeforeYear_add (y : Nat) :
    daysBeforeYear y + (y - 1) / 100 = (y - 1) * 365 + (y - 1) / 4 + (y - 1) / 400 := by
  have h : (y - 1) / 100 ≤ (y - 1) / 4 := Nat.div_le_div_left (by decide) (by decide)
  simp only [daysBeforeYear]
  rw [Nat.add_right_comm, Nat.sub_add_cancel (Nat.le_add_left_of_le h)]

theorem daysBeforeYear_succ {y : Nat} (hy : 1 ≤ y) :
    daysBeforeYear (y + 1) = daysBeforeYear y + daysBeforeMonth y 13 := by
  have hnext := daysBeforeYear_add (y + 1)
  have hthis := daysBeforeYear_add y
  rw [Nat.add_sub_cancel] at hnext
  rw [daysBeforeMonth_thirteen]
  split
  · rename_i hleap
    have := (isLeap_iff y).1 hleap
    omega
  · rename_i hleap
    rcases isLeap_false (by simpa using hleap) with h | ⟨h1, h2⟩ <;> omega

theorem daysBeforeYear_mono {y y' : Nat} (h : y ≤ y') : daysBeforeYear y ≤ daysBeforeYear y' := by
  obtain ⟨k, rfl⟩ := Nat.exists_eq_add_of_le h
  induction k with
  | zero => exact Nat.le_refl _
  | succ k ih =>
    rcases Nat.eq_zero_or_pos (y + k) with h0 | hpos
    · -- the years before year one have no days
      obtain ⟨rfl, rfl⟩ : y = 0 ∧ k = 0 := by omega
      decide
    · rw [← Nat.add_assoc, daysBeforeYear_succ hpos]
      omega

/-! ## The day of a year -/

theorem ofDayOfYear_go {y k : Nat} (hk : k < daysBeforeMonth y 13) :
    ∀ fuel m, 1 ≤ m → m + fuel = 13 → daysBeforeMonth y m ≤ k →
      (ofDayOfYear.go y k fuel m).year = y ∧ 1 ≤ (ofDayOfYear.go y k fuel m).month ∧
      (ofDayOfYear.go y k fuel m).month ≤ 12 ∧
      daysBeforeMonth y (ofDayOfYear.go y k fuel m).month ≤ k ∧
      k < daysBeforeMonth y ((ofDayOfYear.go y k fuel m).month + 1) ∧
      (ofDayOfYear.go y k fuel m).day = k - daysBeforeMonth y (ofDayOfYear.go y k fuel m).month + 1
  | 0, m, _, hsum, hle => by
    obtain rfl : m = 13 := by omega
    omega
  | fuel + 1, m, hm, hsum, hle => by
    rw [ofDayOfYear.go]
    split
    · rename_i hhere
      refine ⟨rfl, hm, show m ≤ 12 by omega, hle, ?_, rfl⟩
      rcases hhere with h | rfl
      · exact h
      · exact hk
    · rename_i hlater
      exact ofDayOfYear_go hk fuel (m + 1) (by omega) (by omega) (by omega)

theorem ofDayOfYear_spec {y k : Nat} (hk : k < daysBeforeMonth y 13) :
    (ofDayOfYear y k).year = y ∧ 1 ≤ (ofDayOfYear y k).month ∧ (ofDayOfYear y k).month ≤ 12 ∧
      1 ≤ (ofDayOfYear y k).day ∧ (ofDayOfYear y k).day ≤ daysInMonth y (ofDayOfYear y k).month ∧
      (ofDayOfYear y k).toOrdinal = daysBeforeYear y + k + 1 := by
  obtain ⟨hy, hm1, hm12, hlo, hhi, hday⟩ :=
    ofDayOfYear_go hk 12 1 (Nat.le_refl 1) rfl (Nat.zero_le k)
  unfold ofDayOfYear
  have hsucc := daysBeforeMonth_succ y hm1
  refine ⟨hy, hm1, hm12, by omega, by omega, ?_⟩
  unfold toOrdinal
  rw [hy, hday]
  omega

/-! ## Day numbers -/

/-- The days before a year counted in cycles: a year `400 a + 100 b + 4 c + d + 1` with
`b ≤ 3`, `c ≤ 24` and `d ≤ 3` starts after `a` four hundred year cycles of 146097 days,
`b` centuries of 36524, `c` four year cycles of 1461 and `d` years of 365. -/
theorem daysBeforeYear_cycles {a b c d : Nat} (hb : b ≤ 3) (hc : c ≤ 24) (hd : d ≤ 3) :
    daysBeforeYear (400 * a + 100 * b + 4 * c + d + 1) =
      146097 * a + 36524 * b + 1461 * c + 365 * d := by
  have h := daysBeforeYear_add (400 * a + 100 * b + 4 * c + d + 1)
  rw [Nat.add_sub_cancel] at h
  omega

/-- The date of day number `n` is a date from year one on whose number is `n`. -/
theorem ofOrdinal_spec {n : Nat} (hn : 1 ≤ n) :
    1 ≤ (ofOrdinal n).year ∧ 1 ≤ (ofOrdinal n).month ∧ (ofOrdinal n).month ≤ 12 ∧
      1 ≤ (ofOrdinal n).day ∧ (ofOrdinal n).day ≤ daysInMonth (ofOrdinal n).year (ofOrdinal n).month ∧
      (ofOrdinal n).toOrdinal = n := by
  dsimp only [ofOrdinal]
  -- the cycles, outermost first: each count, and what is left after it
  generalize hr400 : (n - 1) % 146097 = r400
  generalize hc400 : (n - 1) / 146097 = c400
  have e400 : n - 1 = 146097 * c400 + r400 ∧ r400 < 146097 := by omega
  clear hr400 hc400
  generalize hc100 : min (r400 / 36524) 3 = c100
  generalize hr100 : r400 - c100 * 36524 = r100
  have e100 : r400 = 36524 * c100 + r100 ∧ c100 ≤ 3 ∧ (c100 < 3 → r100 < 36524) ∧
      r100 ≤ 36524 := by omega
  clear hc100 hr100
  generalize hc4 : r100 / 1461 = c4
  generalize hr4 : r100 % 1461 = r4
  have e4 : r100 = 1461 * c4 + r4 ∧ r4 < 1461 := by omega
  clear hc4 hr4
  generalize hc1 : min (r4 / 365) 3 = c1
  generalize hr : r4 - c1 * 365 = r
  have e1 : r4 = 365 * c1 + r ∧ c1 ≤ 3 ∧ (c1 < 3 → r < 365) := by omega
  clear hc1 hr
  have hcycles : daysBeforeYear (c400 * 400 + c100 * 100 + c4 * 4 + c1 + 1) =
      146097 * c400 + 36524 * c100 + 1461 * c4 + 365 * c1 := by
    rw [← daysBeforeYear_cycles (by omega) (by omega) (by omega)]
    congr 1
    omega
  have hlen : r < daysBeforeMonth (c400 * 400 + c100 * 100 + c4 * 4 + c1 + 1) 13 := by
    rw [daysBeforeMonth_thirteen]
    split
    · omega
    · -- the 366th day of a cycle of four years falls in a leap year
      rename_i hleap
      rcases isLeap_false (by simpa using hleap) with h | ⟨h1, h2⟩ <;> omega
  obtain ⟨hyy, hm1, hm12, hd1, hdim, hord⟩ := ofDayOfYear_spec hlen
  rw [hyy]
  exact ⟨by omega, hm1, hm12, hd1, hdim, by omega⟩

theorem toOrdinal_within_year {d : Date} (h : d.Valid) :
    daysBeforeYear d.year < d.toOrdinal ∧ d.toOrdinal ≤ daysBeforeYear (d.year + 1) := by
  obtain ⟨hy1, -, hm1, hm12, hd1, hdim⟩ := h
  have hmonth := daysBeforeMonth_succ d.year hm1
  have hrest := daysBeforeMonth_mono d.year (m := d.month + 1) (by omega) (show d.month + 1 ≤ 13 by omega)
  rw [daysBeforeYear_succ hy1]
  unfold toOrdinal
  omega

theorem daysBeforeYear_ten_thousand : daysBeforeYear 10000 = maxOrdinal := by decide

theorem toOrdinal_range {d : Date} (h : d.Valid) : 1 ≤ d.toOrdinal ∧ d.toOrdinal ≤ maxOrdinal := by
  have hwithin := toOrdinal_within_year h
  have hmono := daysBeforeYear_mono (show d.year + 1 ≤ 10000 by have := h.2.1; omega)
  rw [daysBeforeYear_ten_thousand] at hmono
  omega

/-- Every day number of the calendar is the number of a valid date. -/
theorem valid_ofOrdinal {n : Nat} (h1 : 1 ≤ n) (h2 : n ≤ maxOrdinal) : (ofOrdinal n).Valid := by
  obtain ⟨hy, hm1, hm12, hd1, hdim, hord⟩ := ofOrdinal_spec h1
  -- a year from ten thousand on starts after the last day number
  refine ⟨hy, Nat.le_of_not_lt fun hbig => ?_, hm1, hm12, hd1, hdim⟩
  have hmono := daysBeforeYear_mono (show 10000 ≤ (ofOrdinal n).year by omega)
  have hlow : daysBeforeYear (ofOrdinal n).year < (ofOrdinal n).toOrdinal := by
    unfold toOrdinal
    omega
  rw [daysBeforeYear_ten_thousand] at hmono
  omega

/-! ## Calendar order -/

/-- `a` comes before `b` in the calendar: an earlier year, or an earlier month of the same
year, or an earlier day of the same month. -/
def Earlier (a b : Date) : Prop :=
  a.year < b.year ∨ a.year = b.year ∧ (a.month < b.month ∨ a.month = b.month ∧ a.day < b.day)

theorem earlier_trichotomy (a b : Date) : Earlier a b ∨ a = b ∨ Earlier b a := by
  obtain ⟨y, m, d⟩ := a
  obtain ⟨y', m', d'⟩ := b
  simp only [Earlier, Date.mk.injEq]
  omega

theorem earlier_trans {a b c : Date} (hab : Earlier a b) (hbc : Earlier b c) : Earlier a c := by
  unfold Earlier at *
  omega

theorem earlier_asymm {a b : Date} (h : Earlier a b) : ¬ Earlier b a := by
  unfold Earlier at *
  omega

theorem not_earlier_trans {a b c : Date} (hab : ¬ Earlier b a) (hbc : ¬ Earlier c b) :
    ¬ Earlier c a := by
  intro hca
  rcases earlier_trichotomy a b with h | rfl | h
  · exact hbc (earlier_trans hca h)
  · exact hbc hca
  · exact hab h

theorem toOrdinal_lt_of_earlier {a b : Date} (ha : a.Valid) (hb : b.Valid) (h : Earlier a b) :
    a.toOrdinal < b.toOrdinal := by
  rcases h with hy | ⟨hy, hm | ⟨hm, hd⟩⟩
  · -- a whole year or more apart
    have ha' := toOrdinal_within_year ha
    have hb' := toOrdinal_within_year hb
    have := daysBeforeYear_mono (show a.year + 1 ≤ b.year by omega)
    omega
  · -- the same year, an earlier month
    have hmonth := daysBeforeMonth_succ a.year ha.2.2.1
    have hmono := daysBeforeMonth_mono a.year (m := a.month + 1) (by omega) (show a.month + 1 ≤ b.month by omega)
    have hdim := ha.2.2.2.2.2
    have hd1 := hb.2.2.2.2.1
    unfold toOrdinal
    rw [hy] at hmonth hmono hdim ⊢
    omega
  · unfold toOrdinal
    rw [hy, hm]
    omega

theorem compare_def (a b : Date) :
    compare a b = (compare a.year b.year).then ((compare a.month b.month).then (compare a.day b.day)) :=
  rfl

theorem compare_of_earlier {a b : Date} (h : Earlier a b) : compare a b = .lt := by
  rw [compare_def]
  rcases h with hy | ⟨hy, hm | ⟨hm, hd⟩⟩
  · simp [Nat.compare_eq_lt.2 hy, Ordering.then]
  · simp [hy, Nat.compare_eq_lt.2 hm, Ordering.then]
  · simp [hy, hm, Nat.compare_eq_lt.2 hd, Ordering.then]

theorem compare_swap (a b : Date) : compare b a = (compare a b).swap := by
  simp only [compare_def, Ordering.swap_then, Nat.compare_swap]

/-- The calendar order of valid dates is the order of their day numbers. -/
theorem compare_eq {a b : Date} (ha : a.Valid) (hb : b.Valid) :
    compare a b = compare a.toOrdinal b.toOrdinal := by
  rcases earlier_trichotomy a b with h | rfl | h
  · rw [compare_of_earlier h, Nat.compare_eq_lt.2 (toOrdinal_lt_of_earlier ha hb h)]
  · simp [compare_def]
  · rw [compare_swap b a, compare_of_earlier h, ← Nat.compare_swap,
      Nat.compare_eq_lt.2 (toOrdinal_lt_of_earlier hb ha h)]

theorem compare_eq_gt_iff (a b : Date) : compare a b = .gt ↔ Earlier b a := by
  constructor
  · intro h
    rcases earlier_trichotomy a b with hab | rfl | hab
    · rw [compare_of_earlier hab] at h
      cases h
    · simp [compare_def] at h
    · exact hab
  · intro h
    rw [compare_swap b a, compare_of_earlier h]
    rfl

theorem eq_of_toOrdinal_eq {a b : Date} (ha : a.Valid) (hb : b.Valid)
    (h : a.toOrdinal = b.toOrdinal) : a = b := by
  rcases earlier_trichotomy a b with hab | hab | hab
  · exact absurd h (Nat.ne_of_lt (toOrdinal_lt_of_earlier ha hb hab))
  · exact hab
  · exact absurd h.symm (Nat.ne_of_lt (toOrdinal_lt_of_earlier hb ha hab))

theorem before_iff {a b : Date} (ha : a.Valid) (hb : b.Valid) :
    a.before b = true ↔ a.toOrdinal < b.toOrdinal := by
  rw [before, compare_eq ha hb, beq_iff_eq, Nat.compare_eq_lt]

/-! ## Moving by days -/

/-- Moving a date by `k` days within the calendar gives the valid date numbered `k` further
on. -/
theorem addDays?_eq_some {d : Date} {k : Int} (h1 : 1 ≤ (d.toOrdinal : Int) + k)
    (h2 : (d.toOrdinal : Int) + k ≤ maxOrdinal) :
    ∃ d', d.addDays? k = some d' ∧ d'.Valid ∧ (d'.toOrdinal : Int) = d.toOrdinal + k := by
  have hn1 : 1 ≤ ((d.toOrdinal : Int) + k).toNat := by omega
  have hn2 : ((d.toOrdinal : Int) + k).toNat ≤ maxOrdinal := by omega
  refine ⟨ofOrdinal ((d.toOrdinal : Int) + k).toNat, ?_, valid_ofOrdinal hn1 hn2, ?_⟩
  · unfold addDays? ofOrdinal?
    rw [if_neg (by omega), if_neg (by omega)]
  · rw [(ofOrdinal_spec hn1).2.2.2.2.2]
    omega

end Date

end RankAdvisor
