import RankAdvisor.Proofs.WholeFields
import RankAdvisor.Proofs.AdviceRetries

/-! # Trade dates in compact form

A trade date field is read with the pattern `%Y%m%d`: a year of four characters, then a
month and a day of two characters or one. Its dates are written back as the year in
decimal, with no padding, followed by the month and the day padded to two digits.

The text of eight ASCII digits `YYYYMMDD` naming a calendar date reads as that date, and
every date read is on the calendar. Writing a date and reading it back gives the date
exactly when its year is from 1000 on: an earlier year is written with fewer than four
digits, and its text is read with the year taking digits of the month.
-/

namespace RankAdvisor

set_option autoImplicit false

open Json (IsDigits)

namespace Iso

theorem checkDate_eq_ok_iff {y m d : Nat} {x : Date} :
    checkDate y m d = .ok x ↔ x = ⟨y, m, d⟩ ∧ x.Valid := by
  have hvalid : (⟨y, m, d⟩ : Date).Valid ↔
      ¬(y < 1 ∨ 9999 < y) ∧ ¬(m < 1 ∨ 12 < m) ∧ ¬(d < 1 ∨ Date.daysInMonth y m < d) := by
    simp only [Date.Valid]
    omega
  constructor
  · intro h
    unfold checkDate at h
    split_ifs at h with h1 h2 h3
    cases h
    exact ⟨rfl, hvalid.2 ⟨h1, h2, h3⟩⟩
  · rintro ⟨rfl, hv⟩
    obtain ⟨h1, h2, h3⟩ := hvalid.1 hv
    unfold checkDate
    rw [if_neg h1, if_neg h2, if_neg h3]

end Iso

namespace Pattern

/-! ## Matching fields -/

theorem takeAlt_some {alt : List Atom} {cs got rest : List Char}
    (h : takeAlt alt cs = some (got, rest)) : cs = got ++ rest ∧ got.length = alt.length := by
  induction alt generalizing cs got with
  | nil =>
    simp only [takeAlt, Option.some.injEq, Prod.mk.injEq] at h
    obtain ⟨rfl, rfl⟩ := h
    simp
  | cons a as ih =>
    cases cs with
    | nil => simp [takeAlt] at h
    | cons c cs =>
      simp only [takeAlt] at h
      split at h
      · obtain ⟨⟨got', rest'⟩, h', hgot⟩ := Option.map_eq_some_iff.1 h
        simp only [Prod.mk.injEq] at hgot
        obtain ⟨rfl, rfl⟩ := hgot
        obtain ⟨rfl, hlen⟩ := ih h'
        simp [hlen]
      · cases h

theorem matchFields_some {fields : List (List (List Atom))} {cs rest : List Char}
    {gots : List (List Char)} (h : matchFields fields cs = some (gots, rest)) :
    cs = gots.flatten ++ rest ∧
      List.Forall₂ (fun got alts => ∃ alt ∈ alts, got.length = alt.length) gots fields := by
  induction fields generalizing cs gots with
  | nil =>
    simp only [matchFields, Option.some.injEq, Prod.mk.injEq] at h
    obtain ⟨rfl, rfl⟩ := h
    simp
  | cons alts fields ih =>
    simp only [matchFields] at h
    obtain ⟨alt, halt, h⟩ := List.exists_of_findSome?_eq_some h
    simp only [Option.bind_eq_bind, Option.bind_eq_some_iff, Option.pure_def, Option.some.injEq] at h
    obtain ⟨⟨got, r⟩, htake, ⟨gots', r'⟩, hrest, heq⟩ := h
    simp only [Prod.mk.injEq] at heq
    obtain ⟨rfl, rfl⟩ := heq
    obtain ⟨rfl, hlen⟩ := takeAlt_some htake
    obtain ⟨rfl, hall⟩ := ih hrest
    exact ⟨by simp, .cons ⟨alt, halt, hlen⟩ hall⟩

theorem matchFields_cons_first {alts : List (List Atom)} {fields : List (List (List Atom))}
    {cs : List Char} (pre post : List (List Atom)) {alt : List Atom}
    (halts : alts = pre ++ alt :: post) (hpre : ∀ a ∈ pre, takeAlt a cs = none)
    {got rest : List Char} (htake : takeAlt alt cs = some (got, rest))
    {gots : List (List Char)} {r : List Char} (hrest : matchFields fields rest = some (gots, r)) :
    matchFields (alts :: fields) cs = some (got :: gots, r) := by
  subst halts
  simp only [matchFields]
  rw [List.findSome?_append, List.findSome?_eq_none_iff.2 ?_, Option.none_or, List.findSome?_cons]
  · simp [htake, hrest]
  · intro a ha
    simp [hpre a ha]


/-! ## Fields of ASCII digits -/

theorem digitValue?_ascii {c : Char} (h : '0' ≤ c ∧ c ≤ '9') : Text.digitValue? c = some (c.toNat - 48) := by
  have h1 : 48 ≤ c.toNat := h.1
  have h2 : c.toNat ≤ 57 := h.2
  simp [Text.digitValue?, Text.zeroPoints, h1, show c.toNat < 58 by omega]

theorem takes_digit {c : Char} (h : '0' ≤ c ∧ c ≤ '9') : Atom.digit.takes c = true := by
  simp [Atom.takes, digitValue?_ascii h]

theorem takes_range {lo hi c : Char} :
    (Atom.range lo hi).takes c = (decide (lo.toNat ≤ c.toNat) && decide (c.toNat ≤ hi.toNat)) := rfl

theorem takes_lit {a c : Char} : (Atom.lit a).takes c = decide (a = c) := rfl

theorem matchFields_month {m1 m2 : Char} {rest : List Char} {fields : List (List (List Atom))}
    {gots : List (List Char)} {r : List Char} (hm1 : '0' ≤ m1 ∧ m1 ≤ '9') (hm2 : '0' ≤ m2 ∧ m2 ≤ '9')
    (hm : 1 ≤ Nat.ofDigitChars 10 [m1, m2] 0 ∧ Nat.ofDigitChars 10 [m1, m2] 0 ≤ 12)
    (hrest : matchFields fields rest = some (gots, r)) :
    matchFields (monthField :: fields) (m1 :: m2 :: rest) = some ([m1, m2] :: gots, r) := by
  have h1 : 48 ≤ m1.toNat ∧ m1.toNat ≤ 57 := hm1
  have h2 : 48 ≤ m2.toNat ∧ m2.toNat ≤ 57 := hm2
  simp only [Nat.ofDigitChars_cons, Nat.ofDigitChars_nil] at hm
  have h0 : '0'.toNat = 48 := rfl
  rcases (by omega : m1.toNat = 48 ∧ 49 ≤ m2.toNat ∨ m1.toNat = 49 ∧ m2.toNat ≤ 50) with
    ⟨ha, hb⟩ | ⟨ha, hb⟩
  · -- a leading zero: the two-digit alternative after the one for ten to twelve
    obtain rfl : m1 = '0' := Char.toNat_inj.1 ha
    refine matchFields_cons_first [[.lit '1', .range '0' '2']] [[.range '1' '9']] rfl ?_ ?_ hrest
    · simp [takeAlt, takes_lit]
    · simp [takeAlt, takes_lit, takes_range, hb, h2.2]
  · obtain rfl : m1 = '1' := Char.toNat_inj.1 ha
    refine matchFields_cons_first [] [[.lit '0', .range '1' '9'], [.range '1' '9']] rfl ?_ ?_ hrest
    · simp
    · simp [takeAlt, takes_lit, takes_range, hb, h2.1]


theorem matchFields_day {d1 d2 : Char} {rest : List Char} {fields : List (List (List Atom))}
    {gots : List (List Char)} {r : List Char} (hd1 : '0' ≤ d1 ∧ d1 ≤ '9') (hd2 : '0' ≤ d2 ∧ d2 ≤ '9')
    (hd : 1 ≤ Nat.ofDigitChars 10 [d1, d2] 0 ∧ Nat.ofDigitChars 10 [d1, d2] 0 ≤ 31)
    (hrest : matchFields fields rest = some (gots, r)) :
    matchFields (dayField :: fields) (d1 :: d2 :: rest) = some ([d1, d2] :: gots, r) := by
  have h1 : 48 ≤ d1.toNat ∧ d1.toNat ≤ 57 := hd1
  have h2 : 48 ≤ d2.toNat ∧ d2.toNat ≤ 57 := hd2
  simp only [Nat.ofDigitChars_cons, Nat.ofDigitChars_nil] at hd
  have h0 : '0'.toNat = 48 := rfl
  rcases (by omega : d1.toNat = 51 ∧ d2.toNat ≤ 49 ∨ d1.toNat = 49 ∨ d1.toNat = 50 ∨
      d1.toNat = 48 ∧ 49 ≤ d2.toNat) with ⟨ha, hb⟩ | ha | ha | ⟨ha, hb⟩
  · -- thirty and thirty-one: the first alternative
    obtain rfl : d1 = '3' := Char.toNat_inj.1 ha
    refine matchFields_cons_first [] _ rfl (by simp) ?_ hrest
    simp [takeAlt, takes_lit, takes_range, hb, h2.1]
  · -- the teens and twenties: after the alternative for thirty
    obtain rfl : d1 = '1' := Char.toNat_inj.1 ha
    refine matchFields_cons_first [[.lit '3', .range '0' '1']] _ rfl ?_ ?_ hrest
    · simp [takeAlt, takes_lit]
    · simp [takeAlt, takes_range, takes_digit hd2]
  · obtain rfl : d1 = '2' := Char.toNat_inj.1 ha
    refine matchFields_cons_first [[.lit '3', .range '0' '1']] _ rfl ?_ ?_ hrest
    · simp [takeAlt, takes_lit]
    · simp [takeAlt, takes_range, takes_digit hd2]
  · -- a leading zero: after the alternatives for thirty and for the teens and twenties
    obtain rfl : d1 = '0' := Char.toNat_inj.1 ha
    refine matchFields_cons_first [[.lit '3', .range '0' '1'], [.range '1' '2', .digit]] _ rfl ?_ ?_ hrest
    · simp [takeAlt, takes_lit, takes_range]
    · simp [takeAlt, takes_lit, takes_range, hb, h2.2]

theorem takeAlt_digits {ds : List Char} (h : IsDigits ds) (rest : List Char) :
    takeAlt (List.replicate ds.length .digit) (ds ++ rest) = some (ds, rest) := by
  induction ds with
  | nil => rfl
  | cons c ds ih =>
    rw [List.length_cons, List.replicate_succ, List.cons_append, takeAlt,
      if_pos (takes_digit (h c List.mem_cons_self)), ih (fun d hd => h d (List.mem_cons_of_mem _ hd))]
    rfl

theorem matchFields_compactDate {ys : List Char} {m1 m2 d1 d2 : Char} (hys : IsDigits ys)
    (hy : ys.length = 4) (hm1 : '0' ≤ m1 ∧ m1 ≤ '9') (hm2 : '0' ≤ m2 ∧ m2 ≤ '9')
    (hd1 : '0' ≤ d1 ∧ d1 ≤ '9') (hd2 : '0' ≤ d2 ∧ d2 ≤ '9')
    (hm : 1 ≤ Nat.ofDigitChars 10 [m1, m2] 0 ∧ Nat.ofDigitChars 10 [m1, m2] 0 ≤ 12)
    (hd : 1 ≤ Nat.ofDigitChars 10 [d1, d2] 0 ∧ Nat.ofDigitChars 10 [d1, d2] 0 ≤ 31) :
    matchFields compactDate.fields (ys ++ [m1, m2, d1, d2]) = some ([ys, [m1, m2], [d1, d2]], []) := by
  have hyear : yearField = [] ++ List.replicate ys.length .digit :: [] := by rw [hy]; rfl
  exact matchFields_cons_first [] [] hyear (by simp) (takeAlt_digits hys _)
    (matchFields_month hm1 hm2 hm (matchFields_day hd1 hd2 hd rfl))


theorem fieldValue_digits {ds : List Char} (h : IsDigits ds) (hne : ds ≠ [])
    (hlen : ds.length ≤ Numeral.maxWholeDigits) : fieldValue ds = Nat.ofDigitChars 10 ds 0 := by
  have hread := Numeral.readWhole?_signed (show Numeral.IsSign [] from .inl rfl) h hne hlen
  rw [List.nil_append] at hread
  rw [fieldValue, hread]
  rfl

theorem readCompactDate_digits {ys : List Char} {m1 m2 d1 d2 : Char} (hys : IsDigits ys)
    (hy : ys.length = 4) (hm1 : '0' ≤ m1 ∧ m1 ≤ '9') (hm2 : '0' ≤ m2 ∧ m2 ≤ '9')
    (hd1 : '0' ≤ d1 ∧ d1 ≤ '9') (hd2 : '0' ≤ d2 ∧ d2 ≤ '9')
    (hm : 1 ≤ Nat.ofDigitChars 10 [m1, m2] 0 ∧ Nat.ofDigitChars 10 [m1, m2] 0 ≤ 12)
    (hd : 1 ≤ Nat.ofDigitChars 10 [d1, d2] 0 ∧ Nat.ofDigitChars 10 [d1, d2] 0 ≤ 31) :
    readCompactDate (String.ofList (ys ++ [m1, m2, d1, d2])) =
      Iso.checkDate (Nat.ofDigitChars 10 ys 0) (Nat.ofDigitChars 10 [m1, m2] 0)
        (Nat.ofDigitChars 10 [d1, d2] 0) := by
  have hread : read compactDate (String.ofList (ys ++ [m1, m2, d1, d2])) =
      .ok [Nat.ofDigitChars 10 ys 0, Nat.ofDigitChars 10 [m1, m2] 0, Nat.ofDigitChars 10 [d1, d2] 0] := by
    rw [read, String.toList_ofList, matchFields_compactDate hys hy hm1 hm2 hd1 hd2 hm hd]
    have hne : ys ≠ [] := by rintro rfl; simp at hy
    simp only [List.map_cons, List.map_nil, fieldValue_digits hys hne (by rw [hy]; decide)]
    rw [fieldValue_digits (by simp [IsDigits, hm1, hm2]) (by simp) (by simp [Numeral.maxWholeDigits]),
      fieldValue_digits (by simp [IsDigits, hd1, hd2]) (by simp) (by simp [Numeral.maxWholeDigits])]
  rw [readCompactDate, hread]
  rfl

theorem read_eq_ok {sh : Shape} {s : String} {vals : List Nat} (h : read sh s = .ok vals) :
    ∃ gots, matchFields sh.fields s.toList = some (gots, []) ∧ vals = gots.map fieldValue := by
  unfold read at h
  split at h
  · cases h
  · cases h
    exact ⟨_, ‹_›, rfl⟩
  · cases h

theorem readCompactDate_eq_ok {s : String} {d : Date} (h : readCompactDate s = .ok d) :
    ∃ y m dd, read compactDate s = .ok [y, m, dd] ∧ d = ⟨y, m, dd⟩ ∧ d.Valid := by
  unfold readCompactDate at h
  cases hr : read compactDate s with
  | error e =>
    rw [hr] at h
    cases h
  | ok vals =>
    rw [hr] at h
    match vals, h with
    | [y, m, dd], h => exact ⟨y, m, dd, rfl, Iso.checkDate_eq_ok_iff.1 h⟩

theorem readCompactDate_split {t : String} {d : Date} (h : readCompactDate t = .ok d) :
    ∃ ys ms ds, t.toList = ys ++ ms ++ ds ∧ ys.length = 4 ∧ (ms.length = 2 ∨ ms.length = 1) ∧
      (ds.length = 2 ∨ ds.length = 1) ∧
      d = ⟨fieldValue ys, fieldValue ms, fieldValue ds⟩ ∧ d.Valid := by
  obtain ⟨y, m, dd, hread, rfl, hvalid⟩ := readCompactDate_eq_ok h
  obtain ⟨gots, hmatch, hvals⟩ := read_eq_ok hread
  obtain ⟨htext, hall⟩ := matchFields_some hmatch
  rcases hall with _ | ⟨⟨a, ha, hya⟩, _ | ⟨⟨b, hb, hmb⟩, _ | ⟨⟨c, hc, hdc⟩, hnil⟩⟩⟩
  cases hnil
  simp only [yearField, monthField, dayField, List.mem_cons,
    List.mem_nil_iff, or_false] at ha hb hc
  simp only [List.map_cons, List.map_nil, List.cons.injEq] at hvals
  obtain ⟨rfl, rfl, rfl, -⟩ := hvals
  refine ⟨_, _, _, by simpa using htext, ?_, ?_, ?_, rfl, hvalid⟩
  · rcases ha with rfl
    exact hya
  · rcases hb with rfl | rfl | rfl <;> simp [hmb]
  · rcases hc with rfl | rfl | rfl | rfl | rfl <;> simp [hdc]

end Pattern

namespace Date

/-! ## The eight digits of a date -/

/-- The eight digits `YYYYMMDD` of a date, its year padded with zeros to four places. -/
def digits (d : Date) : String := pad 4 d.year ++ pad 2 d.month ++ pad 2 d.day

theorem isDigits_pad (w n : Nat) : IsDigits (pad w n).toList := by
  rw [pad_toList]
  exact (Json.isDigits_replicate_zero _).append (Json.isDigits_toDigits n)

theorem digit_value_lt {c : Char} (h : '0' ≤ c ∧ c ≤ '9') : c.toNat - '0'.toNat < 10 := by
  have : c.toNat ≤ 57 := h.2
  have h0 : '0'.toNat = 48 := rfl
  omega

theorem ofDigitChars_lt {l : List Char} (h : IsDigits l) : Nat.ofDigitChars 10 l 0 < 10 ^ l.length := by
  induction l using List.reverseRecOn with
  | nil => simp [Nat.ofDigitChars_nil]
  | append_singleton l c ih =>
    have hl : IsDigits l := fun d hd => h d (List.mem_append_left _ hd)
    have hc := digit_value_lt (h c (by simp))
    have := ih hl
    rw [Nat.ofDigitChars_append, Nat.ofDigitChars_cons, Nat.ofDigitChars_nil, List.length_append,
      List.length_singleton, Nat.pow_succ]
    omega

theorem eq_of_ofDigitChars {a b : List Char} (ha : IsDigits a) (hb : IsDigits b)
    (hlen : a.length = b.length) (hv : Nat.ofDigitChars 10 a 0 = Nat.ofDigitChars 10 b 0) : a = b := by
  induction a using List.reverseRecOn generalizing b with
  | nil => exact (List.length_eq_zero_iff.1 hlen.symm).symm
  | append_singleton a c ih =>
    rcases List.eq_nil_or_concat b with rfl | ⟨b, d, rfl⟩
    · simp at hlen
    rw [List.concat_eq_append] at hb hlen hv ⊢
    have hc := digit_value_lt (ha c (by simp))
    have hd := digit_value_lt (hb d (by simp))
    rw [Nat.ofDigitChars_append, Nat.ofDigitChars_cons, Nat.ofDigitChars_nil,
      Nat.ofDigitChars_append, Nat.ofDigitChars_cons, Nat.ofDigitChars_nil] at hv
    have hc48 : 48 ≤ c.toNat := (ha c (by simp)).1
    have hd48 : 48 ≤ d.toNat := (hb d (by simp)).1
    have h0 : '0'.toNat = 48 := rfl
    rw [h0] at hv hc hd
    -- the last digits agree, and so do the values before them
    have hlast : c.toNat = d.toNat := by omega
    have hfront : Nat.ofDigitChars 10 a 0 = Nat.ofDigitChars 10 b 0 := by omega
    rw [ih (fun x hx => ha x (List.mem_append_left _ hx)) (fun x hx => hb x (List.mem_append_left _ hx))
      (by simpa using hlen) hfront, Char.toNat_inj.1 hlast]

theorem pad_ofDigitChars {l : List Char} (h : IsDigits l) (hne : l ≠ []) :
    (pad l.length (Nat.ofDigitChars 10 l 0)).toList = l :=
  eq_of_ofDigitChars (isDigits_pad _ _) h
    (pad_length (List.length_pos_of_ne_nil hne) (ofDigitChars_lt h)) (ofDigitChars_pad _ _)

theorem digits_toList (d : Date) :
    d.digits.toList = (pad 4 d.year).toList ++ (pad 2 d.month).toList ++ (pad 2 d.day).toList := by
  simp [digits]

theorem readCompactDate_digits {d : Date} (hd : d.Valid) : Pattern.readCompactDate d.digits = .ok d := by
  obtain ⟨hy, hm, hdd⟩ := pad_lengths hd
  obtain ⟨m1, m2, hm2⟩ := List.length_eq_two.1 hm
  obtain ⟨d1, d2, hd2⟩ := List.length_eq_two.1 hdd
  have hmd : IsDigits [m1, m2] := hm2 ▸ isDigits_pad 2 d.month
  have hdd' : IsDigits [d1, d2] := hd2 ▸ isDigits_pad 2 d.day
  have hmv : Nat.ofDigitChars 10 [m1, m2] 0 = d.month := by rw [← hm2, ofDigitChars_pad]
  have hdv : Nat.ofDigitChars 10 [d1, d2] 0 = d.day := by rw [← hd2, ofDigitChars_pad]
  have htext : d.digits = String.ofList ((pad 4 d.year).toList ++ [m1, m2, d1, d2]) := by
    rw [← String.toList_inj, String.toList_ofList, digits_toList, hm2, hd2, List.append_assoc]
    rfl
  have hbounds := daysInMonth_bounds d.year d.month
  unfold Valid at hd
  rw [htext, Pattern.readCompactDate_digits (isDigits_pad 4 _) hy (hmd m1 (by simp))
    (hmd m2 (by simp)) (hdd' d1 (by simp)) (hdd' d2 (by simp)) (by rw [hmv]; omega)
    (by rw [hdv]; omega), ofDigitChars_pad, hmv, hdv]
  exact Iso.checkDate_eq_ok_iff.2 ⟨rfl, hd⟩

/-- A text of exactly eight ASCII digits. -/
def EightDigits (t : String) : Prop := t.toList.length = 8 ∧ IsDigits t.toList

theorem digits_of_readCompactDate {t : String} (h8 : EightDigits t) {d : Date}
    (h : Pattern.readCompactDate t = .ok d) : d.Valid ∧ t = d.digits := by
  obtain ⟨ys, ms, ds, htext, hys, hms, hds, rfl, hvalid⟩ := Pattern.readCompactDate_split h
  have hlen := h8.1
  rw [htext] at hlen
  simp only [List.length_append] at hlen
  have hms2 : ms.length = 2 := by omega
  have hds2 : ds.length = 2 := by omega
  have hdig := h8.2
  rw [htext] at hdig
  have hyd : IsDigits ys := fun c hc => hdig c (by simp [hc])
  have hmd : IsDigits ms := fun c hc => hdig c (by simp [hc])
  have hdd : IsDigits ds := fun c hc => hdig c (by simp [hc])
  -- each field reads as the value of its digits, whose padded text it is
  have hfield : ∀ {l : List Char} {w : Nat}, IsDigits l → l.length = w → 0 < w → w ≤ 4 →
      Pattern.fieldValue l = Nat.ofDigitChars 10 l 0 ∧ (pad w (Nat.ofDigitChars 10 l 0)).toList = l := by
    intro l w hl hw hpos hle
    have hne : l ≠ [] := List.ne_nil_of_length_pos (by omega)
    refine ⟨Pattern.fieldValue_digits hl hne (by simp only [Numeral.maxWholeDigits]; omega), ?_⟩
    rw [← hw]
    exact pad_ofDigitChars hl hne
  obtain ⟨hyv, hyp⟩ := hfield hyd hys (by decide) (by decide)
  obtain ⟨hmv, hmp⟩ := hfield hmd hms2 (by decide) (by decide)
  obtain ⟨hdv, hdp⟩ := hfield hdd hds2 (by decide) (by decide)
  refine ⟨hvalid, ?_⟩
  rw [← String.toList_inj, digits_toList, htext]
  dsimp only
  rw [hyv, hmv, hdv, hyp, hmp, hdp]

theorem compact_toList (d : Date) :
    d.compact.toList = Nat.toDigits 10 d.year ++ (pad 2 d.month).toList ++ (pad 2 d.day).toList := by
  simp [compact, Nat.toList_repr]

theorem isDigits_compact (d : Date) : IsDigits d.compact.toList := by
  rw [compact_toList]
  exact ((Json.isDigits_toDigits _).append (isDigits_pad _ _)).append (isDigits_pad _ _)

theorem compact_eq_digits {d : Date} (hd : d.Valid) (hy : 1000 ≤ d.year) : d.compact = d.digits := by
  unfold Valid at hd
  have h4 := (Nat.length_toDigits_le_iff (b := 10) (n := d.year) (k := 4) (by decide) (by decide)).2
    (by omega)
  have h3 : ¬ (Nat.toDigits 10 d.year).length ≤ 3 := fun h => by
    have := (Nat.length_toDigits_le_iff (by decide) (by decide)).1 h
    omega
  rw [← String.toList_inj, compact_toList, digits_toList, pad_toList 4,
    show 4 - (Nat.toDigits 10 d.year).length = 0 by omega]
  rfl

/-- A text of ASCII digits that starts with a digit other than zero reads, if at all, as a
date from the year 1000 on: the year takes its first four digits. -/
theorem year_ge_of_readCompactDate {t : String} (hdig : IsDigits t.toList) {c : Char}
    {rest : List Char} (ht : t.toList = c :: rest) (hc : '1' ≤ c) {d : Date}
    (h : Pattern.readCompactDate t = .ok d) : 1000 ≤ d.year := by
  obtain ⟨ys, ms, ds, htext, hys, -, -, rfl, -⟩ := Pattern.readCompactDate_split h
  obtain ⟨l, rfl⟩ : ∃ l, ys = c :: l := by
    rcases ys with _ | ⟨c', l⟩
    · simp at hys
    · rw [ht] at htext
      simp only [List.cons_append, List.cons.injEq] at htext
      exact ⟨l, by rw [htext.1]⟩
  have hyd : IsDigits (c :: l) := fun x hx =>
    hdig x (by rw [htext]; exact List.mem_append_left _ (List.mem_append_left _ hx))
  have hl : l.length = 3 := by simpa using hys
  dsimp only
  rw [Pattern.fieldValue_digits hyd (by simp) (by simp only [Numeral.maxWholeDigits]; omega),
    Nat.ofDigitChars_cons, Nat.ofDigitChars_eq_ofDigitChars_zero, hl]
  have : 49 ≤ c.toNat := hc
  have h0 : '0'.toNat = 48 := rfl
  simp only [Nat.reducePow]
  omega

end Date

namespace Field

theorem isBlank_digit {c : Char} (h : '0' ≤ c ∧ c ≤ '9') : Text.isBlank c = false := by
  have h1 : 48 ≤ c.toNat := h.1
  have h2 : c.toNat ≤ 57 := h.2
  simp only [Text.isBlank, Bool.or_eq_false_iff, Bool.and_eq_false_imp, decide_eq_true_eq,
    beq_eq_false_iff_ne, decide_eq_false_iff_not, not_le]
  omega

theorem clean_digits {s : String} (field : String) (hs : IsDigits s.toList) (hne : s.toList ≠ []) :
    clean (.str s) field = .ok s := by
  have hnb : ∀ c ∈ s.toList, Text.isBlank c = false := fun c hc => isBlank_digit (hs c hc)
  have hleft : s.toList.dropWhile Text.isBlank = s.toList :=
    List.dropWhile_eq_self_iff.2 fun hl => by simp [hnb _ (List.getElem_mem hl)]
  have hright : s.toList.reverse.dropWhile Text.isBlank = s.toList.reverse :=
    List.dropWhile_eq_self_iff.2 fun hl => by
      rw [Bool.not_eq_true]
      exact hnb _ (List.mem_reverse.1 (List.getElem_mem hl))
  have htrim : Text.trimBlank s = s := by
    unfold Text.trimBlank Text.dropBlankRight Text.dropBlankLeft
    rw [hleft, String.toList_ofList, hright, List.reverse_reverse, String.ofList_toList]
  have hcomma : s.toList.filter (· != ',') = s.toList := by
    rw [List.filter_eq_self]
    intro c hc
    have : c ≠ ',' := by
      rintro rfl
      exact absurd (hs _ hc) (by decide)
    simpa using this
  unfold clean
  dsimp only [Json.plainText]
  have hempty : s.isEmpty = false := by
    rw [Bool.eq_false_iff, ne_eq, String.isEmpty_iff]
    rintro rfl
    exact hne rfl
  rw [htrim, hcomma, String.ofList_toList, hempty]
  rfl

theorem readTradeDate_eq_ok_iff {v : Json} {field t : String} (ht : clean v field = .ok t) {d : Date} :
    readTradeDate v field = .ok d ↔ Pattern.readCompactDate t = .ok d := by
  unfold readTradeDate
  rw [ht]
  cases h : Pattern.readCompactDate t <;>
    simp [h, bind, Except.bind, pure, Except.pure, throw, throwThe, MonadExceptOf.throw]

theorem readTradeDate_valid {v : Json} {field : String} {d : Date} (h : readTradeDate v field = .ok d) :
    d.Valid := by
  cases ht : clean v field with
  | error f =>
    unfold readTradeDate at h
    rw [ht] at h
    cases h
  | ok t =>
    obtain ⟨_, _, _, -, -, hvalid⟩ := Pattern.readCompactDate_eq_ok ((readTradeDate_eq_ok_iff ht).1 h)
    exact hvalid

end Field

namespace Date

/-! ## Writing a date and reading it back -/

/-- The compact text of a calendar date reads back as that date exactly when its year is
from 1000 on; an earlier year is written with fewer than four digits and its text does not
read back as the date. -/
theorem readTradeDate_compact {d : Date} (hd : d.Valid) (field : String) :
    Field.readTradeDate (.str d.compact) field = .ok d ↔ 1000 ≤ d.year := by
  obtain ⟨c, rest, hcr, hc, -⟩ := Json.toDigits_lead (n := d.year) (by unfold Valid at hd; omega)
  have htext : d.compact.toList = c :: (rest ++ (pad 2 d.month).toList ++ (pad 2 d.day).toList) := by
    rw [compact_toList, hcr]
    rfl
  rw [Field.readTradeDate_eq_ok_iff (Field.clean_digits field (isDigits_compact d) (by simp [htext]))]
  constructor
  · exact year_ge_of_readCompactDate (isDigits_compact d) htext hc
  · intro hy
    rw [compact_eq_digits hd hy]
    exact readCompactDate_digits hd

theorem compact_eq_iff {t : String} (h8 : EightDigits t) {d : Date}
    (h : Pattern.readCompactDate t = .ok d) : d.compact = t ↔ 1000 ≤ d.year := by
  obtain ⟨hd, rfl⟩ := digits_of_readCompactDate h8 h
  refine ⟨fun heq => ?_, compact_eq_digits hd⟩
  -- a year below 1000 would leave the compact text shorter than eight
  obtain ⟨-, hm, hdd⟩ := pad_lengths hd
  have hlen := congrArg (fun s : String => s.toList.length) heq
  have h8len := h8.1
  simp only [compact_toList, List.length_append, hm, hdd] at hlen
  rw [← hlen] at h8len
  by_contra hy
  have := (Nat.length_toDigits_le_iff (b := 10) (n := d.year) (k := 3) (by decide) (by decide)).2
    (by omega)
  omega

end Date

/-- Reading and writing trade dates: a read date is on the calendar, eight digits read as
the date they name, and writing a date back gives its text exactly when the year is from
1000 on. -/
theorem trade_dates_read_back (v : Json) (field t : String) (d : Date) :
    (Field.readTradeDate v field = .ok d → d.Valid) ∧
    (Field.clean v field = .ok t → Date.EightDigits t →
      (Field.readTradeDate v field = .ok d ↔ d.Valid ∧ t = d.digits)) ∧
    (d.Valid → (Field.readTradeDate (.str d.compact) field = .ok d ↔ 1000 ≤ d.year)) ∧
    (Field.clean v field = .ok t → Date.EightDigits t →
      Field.readTradeDate v field = .ok d → (d.compact = t ↔ 1000 ≤ d.year)) := by
  refine ⟨Field.readTradeDate_valid, fun ht h8 => ?_, fun hd => Date.readTradeDate_compact hd field,
    fun ht h8 h => Date.compact_eq_iff h8 ((Field.readTradeDate_eq_ok_iff ht).1 h)⟩
  rw [Field.readTradeDate_eq_ok_iff ht]
  refine ⟨Date.digits_of_readCompactDate h8, ?_⟩
  rintro ⟨hd, rfl⟩
  exact Date.readCompactDate_digits hd

theorem trade_dates_read_back_spring :
    Date.Valid ⟨2024, 3, 20⟩ ∧
      Field.readTradeDate (.str (Date.compact ⟨2024, 3, 20⟩)) "stck_bsop_date" = .ok ⟨2024, 3, 20⟩ :=
  have hd : Date.Valid ⟨2024, 3, 20⟩ := by decide
  ⟨hd, ((trade_dates_read_back .null "stck_bsop_date" "" ⟨2024, 3, 20⟩).2.2.1 hd).2 (by decide)⟩

/-- The year 999 is written without a leading zero, as `9990101`, and that text reads as
9990-10-01. -/
theorem year_999_reads_back_wrong :
    Date.Valid ⟨999, 1, 1⟩ ∧
      Field.readTradeDate (.str (Date.compact ⟨999, 1, 1⟩)) "date" = .ok ⟨9990, 10, 1⟩ :=
  ⟨by decide, rfl⟩

end RankAdvisor
