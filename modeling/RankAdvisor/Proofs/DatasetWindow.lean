import Mathlib.Data.List.Nodup
import RankAdvisor.Proofs.TradingWindow
import RankAdvisor.Proofs.AdviceRetries
import RankAdvisor.Proofs.PoolSlots

/-! # Datasets from bars

`Dataset.ofBars` sorts the bars by date and scans the sorted bars for the window range.

* Merge sort keeps the items of a class in their order when they are all related to each
  other (`filter_mergeSort_of_related`), so the bars of one date come in the order they were
  given (`sortBars_filter_date`).
* A scan that keeps its value unless a later value is strictly beyond it ends on one of the
  values scanned, and, when none of them is NaN, on one beyond which none lies (`foldl_mem`,
  `foldl_above`). The window's high is then a greatest high and its low a least low
  (`windowRange_extremes`); another order of the same bars can change which of two equal
  values is kept (a zero's sign), never the value.
* Bars of pairwise distinct dates sort to one list whatever order they come in
  (`sortBars_perm_eq`), so then the whole dataset is the same, NaN or not.
* The recent bars for a whole-number limit are the last ones, none for a limit of zero or
  below (`recent_int`).

Main statement: `dataset_of_bars`.
-/

namespace RankAdvisor

set_option autoImplicit false

/-! ## Sorting keeps a class in order -/

/-- Merge sort keeps in their order the items of a class whose members are all related to
each other. -/
theorem filter_mergeSort_of_related {α : Type _} {le : α → α → Bool}
    (trans : ∀ a b c, le a b = true → le b c = true → le a c = true)
    (total : ∀ a b, (le a b || le b a) = true) (q : α → Bool) {l : List α}
    (hq : ∀ a ∈ l, ∀ b ∈ l, q a = true → q b = true → le a b = true) :
    (l.mergeSort le).filter q = l.filter q := by
  -- the class is sorted already, so merge sort keeps it a sublist
  have hpair : (l.filter q).Pairwise fun a b => le a b = true := by
    apply List.pairwise_of_forall_mem_list
    intro a ha b hb
    rw [List.mem_filter] at ha hb
    exact hq a ha.1 b hb.1 ha.2 hb.2
  have hsub : (l.filter q).Sublist ((l.mergeSort le).filter q) := by
    have h := (List.sublist_mergeSort trans total hpair (List.filter_sublist)).filter q
    rwa [List.filter_filter, List.filter_congr fun a _ => Bool.and_self (q a)] at h
  -- and it has as many items there as in `l`
  have hlen : (l.filter q).length = ((l.mergeSort le).filter q).length :=
    ((List.mergeSort_perm l le).filter q).length_eq.symm
  exact (hsub.eq_of_length hlen).symm

/-! ## The order of doubles -/

namespace Binary64

theorem places_of_le {x y : Binary64} (h : x.le y = true) :
    ∃ a b, x.place? = some a ∧ y.place? = some b ∧ a.compare b ≠ .gt := by
  unfold le compare? at h
  cases hx : x.place? with
  | none => simp [hx, bind, Option.bind] at h
  | some a =>
    cases hy : y.place? with
    | none => simp [hx, hy, bind, Option.bind] at h
    | some b =>
      refine ⟨a, b, rfl, rfl, fun hab => ?_⟩
      simp [hx, hy, bind, Option.bind, pure, hab] at h

theorem Place.compare_ne_gt_trans {a b c : Place} (hab : a.compare b ≠ .gt)
    (hbc : b.compare c ≠ .gt) : a.compare c ≠ .gt := by
  cases a <;> cases b <;> cases c <;> simp_all [Place.compare, Int.compare_eq_gt]
  omega

theorem le_trans {x y z : Binary64} (hxy : x.le y = true) (hyz : y.le z = true) :
    x.le z = true := by
  obtain ⟨a, b, ha, hb, hab⟩ := places_of_le hxy
  obtain ⟨b', c, hb', hc, hbc⟩ := places_of_le hyz
  rw [hb] at hb'
  cases hb'
  have hac := Place.compare_ne_gt_trans hab hbc
  simp only [le, compare?_of_places ha hc]
  cases h : a.compare c <;> simp_all

theorem le_of_lt {x y : Binary64} (h : x.lt y = true) : x.le y = true := by
  obtain ⟨a, b, ha, hb, hab⟩ := places_of_lt h
  simp [le, compare?_of_places ha hb, hab]

theorem eqNum_of_le_of_le {x y : Binary64} (hxy : x.le y = true) (hyx : y.le x = true) :
    x.eqNum y = true := by
  obtain ⟨a, b, ha, hb, hab⟩ := places_of_le hxy
  obtain ⟨b', a', hb', ha', hba⟩ := places_of_le hyx
  rw [ha] at ha'
  rw [hb] at hb'
  cases ha'
  cases hb'
  rw [Place.compare_swap] at hba
  simp only [eqNum, compare?_of_places ha hb]
  cases h : a.compare b <;> simp_all

/-! ## Scans that keep their value unless a later one is beyond it -/

/-- `m` is a greatest of `xs`: one of them, and none of them is above it. -/
def MaxOf (xs : List Binary64) (m : Binary64) : Prop := m ∈ xs ∧ ∀ x ∈ xs, x.le m = true

/-- `m` is a least of `xs`: one of them, and none of them is below it. -/
def MinOf (xs : List Binary64) (m : Binary64) : Prop := m ∈ xs ∧ ∀ x ∈ xs, m.le x = true

section Scan

variable {f : Binary64 → Binary64 → Binary64}

/-- A scan whose every step keeps its value or takes the new one ends on a value it saw. -/
theorem foldl_mem (hf : ∀ m x, f m x = m ∨ f m x = x) (l : List Binary64) (m : Binary64) :
    l.foldl f m ∈ m :: l := by
  induction l generalizing m with
  | nil => simp
  | cons x rest ih =>
    rw [List.foldl_cons]
    have hstep : f m x ∈ m :: x :: rest := by rcases hf m x with h | h <;> simp [h]
    rcases List.mem_cons.1 (ih (f m x)) with h | h
    · rw [h]
      exact hstep
    · exact List.mem_cons_of_mem _ (List.mem_cons_of_mem _ h)

/-- A scan over values that are not NaN, whose every step keeps or takes a value `R`-beyond
both the kept value and the new one, ends `R`-beyond every value it saw. -/
theorem foldl_above {R : Binary64 → Binary64 → Prop} (htrans : ∀ a b c, R a b → R b c → R a c)
    (hrefl : ∀ x, x.isNaN = false → R x x) (hf : ∀ m x, f m x = m ∨ f m x = x)
    (hstep : ∀ m x, m.isNaN = false → x.isNaN = false → R m (f m x) ∧ R x (f m x))
    (l : List Binary64) (m : Binary64) (hm : m.isNaN = false)
    (hl : ∀ x ∈ l, x.isNaN = false) : ∀ z ∈ m :: l, R z (l.foldl f m) := by
  induction l generalizing m with
  | nil =>
    intro z hz
    rw [List.mem_singleton.1 hz]
    exact hrefl m hm
  | cons x rest ih =>
    intro z hz
    rw [List.foldl_cons]
    have hx := hl x List.mem_cons_self
    have hfm : (f m x).isNaN = false := by rcases hf m x with h | h <;> rw [h] <;> assumption
    -- the rest of the scan starts from the value the first step kept
    have hrest := ih (f m x) hfm fun y hy => hl y (List.mem_cons_of_mem _ hy)
    have hkept := hrest (f m x) List.mem_cons_self
    rcases List.mem_cons.1 hz with rfl | hz
    · exact htrans _ _ _ (hstep z x hm hx).1 hkept
    rcases List.mem_cons.1 hz with rfl | hz
    · exact htrans _ _ _ (hstep m z hm hx).2 hkept
    · exact hrest z (List.mem_cons_of_mem _ hz)

end Scan

theorem maxLeft_cases (m x : Binary64) : m.maxLeft x = m ∨ m.maxLeft x = x := by
  unfold maxLeft
  split <;> simp

theorem minLeft_cases (m x : Binary64) : m.minLeft x = m ∨ m.minLeft x = x := by
  unfold minLeft
  split <;> simp

theorem le_maxLeft {m x : Binary64} (hm : m.isNaN = false) (hx : x.isNaN = false) :
    m.le (m.maxLeft x) = true ∧ x.le (m.maxLeft x) = true := by
  unfold maxLeft
  split
  · next h => exact ⟨le_of_lt h, le_self_of_not_nan hx⟩
  · next h => exact ⟨le_self_of_not_nan hm, le_of_not_lt hx hm (Bool.eq_false_iff.2 h)⟩

theorem minLeft_le {m x : Binary64} (hm : m.isNaN = false) (hx : x.isNaN = false) :
    (m.minLeft x).le m = true ∧ (m.minLeft x).le x = true := by
  unfold minLeft
  split
  · next h => exact ⟨le_of_lt h, le_self_of_not_nan hx⟩
  · next h => exact ⟨le_self_of_not_nan hm, le_of_not_lt hm hx (Bool.eq_false_iff.2 h)⟩

theorem foldl_maxLeft (l : List Binary64) (m : Binary64) (hm : m.isNaN = false)
    (hl : ∀ x ∈ l, x.isNaN = false) : MaxOf (m :: l) (l.foldl maxLeft m) :=
  ⟨foldl_mem maxLeft_cases l m,
    foldl_above (R := fun z r => z.le r = true) (fun _ _ _ => le_trans)
      (fun _ => le_self_of_not_nan) maxLeft_cases (fun _ _ => le_maxLeft) l m hm hl⟩

theorem foldl_minLeft (l : List Binary64) (m : Binary64) (hm : m.isNaN = false)
    (hl : ∀ x ∈ l, x.isNaN = false) : MinOf (m :: l) (l.foldl minLeft m) :=
  ⟨foldl_mem minLeft_cases l m,
    foldl_above (R := fun z r => r.le z = true) (fun _ _ _ hab hbc => le_trans hbc hab)
      (fun _ => le_self_of_not_nan) minLeft_cases (fun _ _ => minLeft_le) l m hm hl⟩

theorem MaxOf.perm {xs ys : List Binary64} {m : Binary64} (h : MaxOf xs m) (hp : xs.Perm ys) :
    MaxOf ys m :=
  ⟨hp.mem_iff.1 h.1, fun x hx => h.2 x (hp.mem_iff.2 hx)⟩

theorem MinOf.perm {xs ys : List Binary64} {m : Binary64} (h : MinOf xs m) (hp : xs.Perm ys) :
    MinOf ys m :=
  ⟨hp.mem_iff.1 h.1, fun x hx => h.2 x (hp.mem_iff.2 hx)⟩

theorem MaxOf.eqNum {xs : List Binary64} {m n : Binary64} (hm : MaxOf xs m) (hn : MaxOf xs n) :
    m.eqNum n = true :=
  eqNum_of_le_of_le (hn.2 m hm.1) (hm.2 n hn.1)

theorem MinOf.eqNum {xs : List Binary64} {m n : Binary64} (hm : MinOf xs m) (hn : MinOf xs n) :
    m.eqNum n = true :=
  eqNum_of_le_of_le (hm.2 n hn.1) (hn.2 m hm.1)

end Binary64

/-! ## Bars in date order -/

namespace Market

open Date MarketData Binary64

/-- The bars of one date keep the order they were given in. -/
theorem sortBars_filter_date (bars : List Bar) (d : Date) :
    (sortBars bars).filter (·.date == d) = bars.filter (·.date == d) := by
  apply filter_mergeSort_of_related sortBars_le_trans sortBars_le_total
  intro a _ b _ ha hb
  rw [beq_iff_eq] at ha hb
  rw [sortBars_le_iff, ha, hb]
  exact fun h => earlier_asymm h h

/-- Bars of pairwise distinct dates sort to the same list whatever order they come in. -/
theorem sortBars_perm_eq {bars bars' : List Bar} (hnd : (bars.map (·.date)).Nodup)
    (h : bars'.Perm bars) : sortBars bars' = sortBars bars := by
  have h1 := sortBars_sorted bars'
  have h2 := sortBars_sorted bars
  refine List.Perm.eq_of_pairwise ?_ h1.ordered h2.ordered (h1.perm.trans (h.trans h2.perm.symm))
  intro a b ha hb hab hba
  -- neither is earlier, so the dates agree, and the dates tell the bars apart
  have hdate : a.date = b.date := by
    rcases earlier_trichotomy a.date b.date with h' | h' | h'
    · exact absurd h' hba
    · exact h'
    · exact absurd h' hab
  exact List.inj_on_of_nodup_map hnd (h.mem_iff.1 (h1.perm.mem_iff.1 ha))
    (h2.perm.mem_iff.1 hb) hdate

/-! ## The window range -/

theorem windowRange_cons (b : Bar) (rest : List Bar) :
    windowRange (b :: rest) = ((rest.map (·.highPrice)).foldl maxLeft b.highPrice,
      (rest.map (·.lowPrice)).foldl minLeft b.lowPrice) := by
  simp only [windowRange, List.foldl_map]

/-- With no NaN among the prices, the window's high is a greatest high and its low a least
low. -/
theorem windowRange_extremes {bars : List Bar} (hne : bars ≠ [])
    (hnan : ∀ b ∈ bars, b.highPrice.isNaN = false ∧ b.lowPrice.isNaN = false) :
    MaxOf (bars.map (·.highPrice)) (windowRange bars).1 ∧
      MinOf (bars.map (·.lowPrice)) (windowRange bars).2 := by
  obtain ⟨b, rest, rfl⟩ := List.exists_cons_of_ne_nil hne
  have hb := hnan b List.mem_cons_self
  have hrest : ∀ c ∈ rest, c.highPrice.isNaN = false ∧ c.lowPrice.isNaN = false :=
    fun c hc => hnan c (List.mem_cons_of_mem _ hc)
  rw [windowRange_cons, List.map_cons, List.map_cons]
  constructor
  · refine foldl_maxLeft _ _ hb.1 fun x hx => ?_
    obtain ⟨c, hc, rfl⟩ := List.mem_map.1 hx
    exact (hrest c hc).1
  · refine foldl_minLeft _ _ hb.2 fun x hx => ?_
    obtain ⟨c, hc, rfl⟩ := List.mem_map.1 hx
    exact (hrest c hc).2

namespace Dataset

@[simp] theorem ofBars_bars (e : Entry) (bars : List Bar) (day : Date) :
    (ofBars e bars day).bars = sortBars bars := rfl

@[simp] theorem ofBars_windowHigh (e : Entry) (bars : List Bar) (day : Date) :
    (ofBars e bars day).windowHigh = (windowRange (sortBars bars)).1 := rfl

@[simp] theorem ofBars_windowLow (e : Entry) (bars : List Bar) (day : Date) :
    (ofBars e bars day).windowLow = (windowRange (sortBars bars)).2 := rfl

/-- With no NaN among the prices, a dataset's window is the greatest high and the least low
of its bars, in whatever order they were given. -/
theorem ofBars_extremes (e : Entry) {bars : List Bar} (day : Date) (hne : bars ≠ [])
    (hnan : ∀ b ∈ bars, b.highPrice.isNaN = false ∧ b.lowPrice.isNaN = false) :
    MaxOf (bars.map (·.highPrice)) (ofBars e bars day).windowHigh ∧
      MinOf (bars.map (·.lowPrice)) (ofBars e bars day).windowLow := by
  have hperm := (sortBars_sorted bars).perm
  have hne' : sortBars bars ≠ [] := by
    intro h
    rw [h] at hperm
    exact hne hperm.nil_eq.symm
  obtain ⟨hhi, hlo⟩ := windowRange_extremes hne' fun b hb => hnan b (hperm.mem_iff.1 hb)
  exact ⟨hhi.perm (hperm.map _), hlo.perm (hperm.map _)⟩

theorem ofBars_window_perm (e : Entry) {bars bars' : List Bar} (day : Date)
    (hnan : ∀ b ∈ bars, b.highPrice.isNaN = false ∧ b.lowPrice.isNaN = false)
    (h : bars'.Perm bars) :
    (ofBars e bars' day).windowHigh.eqNum (ofBars e bars day).windowHigh = true ∧
      (ofBars e bars' day).windowLow.eqNum (ofBars e bars day).windowLow = true := by
  by_cases hnil : bars = []
  · subst hnil
    rw [List.Perm.eq_nil h]
    have hzero : (zero false).eqNum (zero false) = true := by decide
    simp [sortBars, windowRange, hzero]
  have hne' : bars' ≠ [] := by
    intro h'
    rw [h'] at h
    exact hnil h.nil_eq.symm
  obtain ⟨hhi, hlo⟩ := ofBars_extremes e day hnil hnan
  obtain ⟨hhi', hlo'⟩ := ofBars_extremes e day hne' fun b hb => hnan b (h.mem_iff.1 hb)
  exact ⟨(hhi'.perm (h.map _)).eqNum hhi, (hlo'.perm (h.map _)).eqNum hlo⟩

theorem zero_ge_whole (k : Int) : (Number.whole 0).ge (.whole k) = decide (k ≤ 0) := by
  unfold Number.ge
  rw [Pool.compare?_whole]
  rcases Int.lt_trichotomy 0 k with h | rfl | h
  · simp [Int.compare_eq_lt.2 h, Int.not_le.2 h]
  · simp
  · simp [Int.compare_eq_gt.2 h, Int.le_of_lt h]

/-- The recent bars for a whole-number limit `k` are the last `min k n` of the `n` bars;
none for a limit of zero or below. -/
theorem recent_int (d : Dataset) (k : Int) :
    ∃ r, d.recent (.int k) = .ok r ∧ r <:+ d.bars ∧ r.length = min k.toNat d.bars.length := by
  by_cases hk : k ≤ 0
  · refine ⟨[], ?_, List.nil_suffix, ?_⟩
    · simp [recent, Json.number?, Json.index?, zero_ge_whole, hk]
    · simp only [List.length_nil]
      omega
  · refine ⟨d.bars.drop (d.bars.length - k.toNat), ?_, List.drop_suffix _ _, ?_⟩
    · simp [recent, Json.number?, Json.index?, zero_ge_whole, hk]
    · simp only [List.length_drop]
      omega

end Dataset

/-- A dataset built from bars: sorted by date, its window the extremes of the prices whatever
the order of the bars, and its recent bars the last ones up to a whole-number limit. -/
theorem dataset_of_bars (entry : Entry) (bars : List Bar) (day : Date) :
    let ds := Dataset.ofBars entry bars day
    (SortedByDate bars ds.bars ∧ ∀ d, ds.bars.filter (·.date == d) = bars.filter (·.date == d)) ∧
    ((∀ b ∈ bars, b.highPrice.isNaN = false ∧ b.lowPrice.isNaN = false) →
      (bars = [] → ds.windowHigh = zero false ∧ ds.windowLow = zero false) ∧
      (bars ≠ [] → MaxOf (bars.map (·.highPrice)) ds.windowHigh ∧
        MinOf (bars.map (·.lowPrice)) ds.windowLow) ∧
      ∀ bars', bars'.Perm bars →
        (Dataset.ofBars entry bars' day).windowHigh.eqNum ds.windowHigh = true ∧
          (Dataset.ofBars entry bars' day).windowLow.eqNum ds.windowLow = true) ∧
    ((bars.map (·.date)).Nodup → ∀ bars', bars'.Perm bars → Dataset.ofBars entry bars' day = ds) ∧
    ∀ k : Int, ∃ r, ds.recent (.int k) = .ok r ∧ r <:+ ds.bars ∧
      r.length = min k.toNat bars.length := by
  intro ds
  refine ⟨⟨sortBars_sorted bars, sortBars_filter_date bars⟩, fun hnan => ⟨?_, ?_, ?_⟩, ?_, ?_⟩
  · rintro rfl
    simp [ds, sortBars, windowRange]
  · exact fun hne => Dataset.ofBars_extremes entry day hne hnan
  · exact fun bars' h => Dataset.ofBars_window_perm entry day hnan h
  · intro hnd bars' h
    simp only [ds, Dataset.ofBars, sortBars_perm_eq hnd h]
  · intro k
    have hlen : ds.bars.length = bars.length := (sortBars_sorted bars).perm.length_eq
    rw [← hlen]
    exact Dataset.recent_int ds k

end Market

end RankAdvisor
