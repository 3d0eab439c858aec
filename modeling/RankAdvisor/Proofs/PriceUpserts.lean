import Mathlib.Data.List.Dedup
import RankAdvisor.Store.Basic

/-! # The bar table over a history of saves

A save of a stock's bars is one transaction. It splits the batch by the stored table: a bar
of a day the stock already has a row for replaces that row, the last such bar of the day
winning, and a bar of any other day is a new row (`SplitOf`, `splitBatch_splitOf`). The
replaced rows are written first, then the new rows one after another, and the table refuses
a new row of a day an earlier new row took (`checkFresh_ok_iff`).

So a save succeeds exactly when no day new to the stock comes twice in the batch and every
volume it writes fits a whole-number column (`Takes`). It then upserts the table: the
row of each day of the batch carries the day's last bar, the other rows are untouched, no two
rows share a stock and day, and the answer is the number of days that were new
(`savePrices_ok_iff`, `savePrices_eq_ok`, `priceOn_upsert`, `keysUnique_upsert`). A batch that brings a new day twice is refused whole, although
writing its bars one by one would have updated the first of them
(`repeated_new_day_refused`).

Main statement: `prices_upsert_unless_new_day_repeats`.
-/

namespace RankAdvisor

set_option autoImplicit false

namespace Store

open Market

/-! ## Bars of a day -/

/-- The last bar of a day in a batch. -/
def lastBarOn (bars : List Bar) (day : Date) : Option Bar :=
  (bars.filter (·.date == day)).getLast?

theorem lastBarOn_snoc (bars : List Bar) (b : Bar) (day : Date) :
    lastBarOn (bars ++ [b]) day = if b.date = day then some b else lastBarOn bars day := by
  unfold lastBarOn
  by_cases h : b.date = day <;> simp [List.filter_append, h]

theorem lastBarOn_mem {bars : List Bar} {day : Date} {b : Bar} (h : lastBarOn bars day = some b) :
    b ∈ bars ∧ b.date = day := by
  have hmem := List.mem_of_getLast? h
  rw [List.mem_filter, beq_iff_eq] at hmem
  exact hmem

/-! ## Splitting a batch -/

/-- One step of the split: a bar of a stored day replaces the bar of its day taken so far or
joins the replacements; a bar of another day joins the new bars. -/
def splitStep (s : Store) (code : String) (acc : List Bar × List Bar) (b : Bar) :
    List Bar × List Bar :=
  if s.hasPrice code b.date then
    if acc.1.any (·.date == b.date) then
      (acc.1.map fun x => if x.date == b.date then b else x, acc.2)
    else (acc.1 ++ [b], acc.2)
  else (acc.1, acc.2 ++ [b])

theorem splitBatch_eq (s : Store) (code : String) (bars : List Bar) :
    s.splitBatch code bars = bars.foldl (splitStep s code) ([], []) := rfl

/-- What the split holds after the bars `seen`: for each day the stock has, the last bar of
that day seen, one per day; and the bars of the other days, in order. -/
structure SplitOf (s : Store) (code : String) (seen : List Bar) (acc : List Bar × List Bar) :
    Prop where
  replaced : ∀ d, acc.1.find? (·.date == d) = if s.hasPrice code d then lastBarOn seen d else none
  replacedDays : (acc.1.map (·.date)).Nodup
  fresh : acc.2 = seen.filter fun b => !s.hasPrice code b.date

theorem date_replace (b x : Bar) : (if x.date == b.date then b else x).date = x.date := by
  split <;> simp_all

theorem splitOf_nil (s : Store) (code : String) : SplitOf s code [] ([], []) where
  replaced d := by split <;> simp [lastBarOn]
  replacedDays := List.nodup_nil
  fresh := rfl

theorem splitStep_replace {s : Store} {code : String} {seen : List Bar}
    {acc : List Bar × List Bar} {b : Bar} (h : SplitOf s code seen acc)
    (hold : s.hasPrice code b.date = true) (hany : acc.1.any (·.date == b.date) = true) :
    SplitOf s code (seen ++ [b]) (acc.1.map (fun x => if x.date == b.date then b else x), acc.2) where
  replaced d := by
    -- replacing keeps every day, so the search looks at the same days
    rw [List.find?_map]
    have hsame : ((fun x : Bar => x.date == d) ∘ fun x => if x.date == b.date then b else x) =
        fun x => x.date == d := by
      funext x
      simp only [Function.comp_apply, date_replace]
    rw [hsame, h.replaced d, lastBarOn_snoc]
    by_cases hd : b.date = d
    · subst hd
      obtain ⟨x, hx⟩ := List.any_eq_true.1 hany
      have hfind := h.replaced b.date
      rw [if_pos hold] at hfind ⊢
      rw [if_pos rfl]
      -- the bar of the day taken so far is the last one seen
      cases hlast : lastBarOn seen b.date with
      | none =>
        rw [hlast] at hfind
        rw [List.find?_eq_none] at hfind
        exact absurd hx.2 (hfind x hx.1)
      | some y =>
        have hy := (lastBarOn_mem hlast).2
        simp [hy, hold]
    · rw [if_neg hd]
      split
      · cases hlast : lastBarOn seen d with
        | none => rfl
        | some y =>
          have hyb : y.date ≠ b.date := (lastBarOn_mem hlast).2 ▸ Ne.symm hd
          simp [hyb]
      · rfl
  replacedDays := by
    have hdays : (acc.1.map fun x => if x.date == b.date then b else x).map (·.date) =
        acc.1.map (·.date) := by
      rw [List.map_map]
      exact List.map_congr_left fun x _ => date_replace b x
    rw [hdays]
    exact h.replacedDays
  fresh := by
    rw [h.fresh, List.filter_append]
    simp [hold]

theorem splitStep_add {s : Store} {code : String} {seen : List Bar} {acc : List Bar × List Bar}
    {b : Bar} (h : SplitOf s code seen acc) (hold : s.hasPrice code b.date = true)
    (hany : acc.1.any (·.date == b.date) = false) :
    SplitOf s code (seen ++ [b]) (acc.1 ++ [b], acc.2) where
  replaced d := by
    rw [List.find?_append, h.replaced d, lastBarOn_snoc]
    by_cases hd : b.date = d
    · subst hd
      have hnone : acc.1.find? (·.date == b.date) = none := by
        rw [List.find?_eq_none]
        intro x hx
        simpa using (List.any_eq_false.1 hany) x hx
      rw [h.replaced b.date, if_pos hold] at hnone
      simp [hold, hnone]
    · have hb : (b.date == d) = false := by simpa using hd
      simp [hd, hb]
  replacedDays := by
    rw [List.map_append, List.nodup_append]
    refine ⟨h.replacedDays, by simp, ?_⟩
    intro x hx y hy
    rw [List.mem_singleton.1 hy]
    obtain ⟨z, hz, rfl⟩ := List.mem_map.1 hx
    intro heq
    have := (List.any_eq_false.1 hany) z hz
    simp [heq] at this
  fresh := by
    rw [h.fresh, List.filter_append]
    simp [hold]

theorem splitStep_new {s : Store} {code : String} {seen : List Bar} {acc : List Bar × List Bar}
    {b : Bar} (h : SplitOf s code seen acc) (hnew : s.hasPrice code b.date = false) :
    SplitOf s code (seen ++ [b]) (acc.1, acc.2 ++ [b]) where
  replaced d := by
    rw [h.replaced d, lastBarOn_snoc]
    by_cases hd : b.date = d
    · subst hd
      simp [hnew]
    · simp [hd]
  replacedDays := h.replacedDays
  fresh := by
    rw [h.fresh, List.filter_append]
    simp [hnew]

theorem splitStep_splitOf {s : Store} {code : String} {seen : List Bar}
    {acc : List Bar × List Bar} (h : SplitOf s code seen acc) (b : Bar) :
    SplitOf s code (seen ++ [b]) (splitStep s code acc b) := by
  unfold splitStep
  split
  · next hold =>
    split
    · next hany => exact splitStep_replace h hold hany
    · next hany => exact splitStep_add h hold (Bool.eq_false_iff.2 hany)
  · next hnew => exact splitStep_new h (Bool.eq_false_iff.2 hnew)

theorem splitBatch_splitOf (s : Store) (code : String) (bars : List Bar) :
    SplitOf s code bars (s.splitBatch code bars) := by
  rw [splitBatch_eq]
  -- the split of the bars seen so far is carried along the batch
  suffices ∀ (seen : List Bar) (acc : List Bar × List Bar), SplitOf s code seen acc →
      SplitOf s code (seen ++ bars) (bars.foldl (splitStep s code) acc) by
    simpa using this [] ([], []) (splitOf_nil s code)
  induction bars with
  | nil => simp
  | cons b rest ih =>
    intro seen acc h
    rw [List.foldl_cons, ← List.singleton_append, ← List.append_assoc]
    exact ih _ _ (splitStep_splitOf h b)

/-- A bar is among the replacements exactly when it is the last bar of a day the stock has. -/
theorem SplitOf.mem_replaced {s : Store} {code : String} {bars : List Bar}
    {acc : List Bar × List Bar} (h : SplitOf s code bars acc) (b : Bar) :
    b ∈ acc.1 ↔ s.hasPrice code b.date = true ∧ lastBarOn bars b.date = some b := by
  constructor
  · intro hb
    -- the first replacement of `b`'s day is `b` itself, the days being distinct
    obtain ⟨x, hx⟩ : ∃ x, acc.1.find? (·.date == b.date) = some x := by
      cases hf : acc.1.find? (·.date == b.date) with
      | some x => exact ⟨x, rfl⟩
      | none =>
        rw [List.find?_eq_none] at hf
        exact absurd (by simp) (hf b hb)
    have hxb : x = b := by
      have hxp := List.find?_some hx
      exact List.inj_on_of_nodup_map h.replacedDays (List.mem_of_find?_eq_some hx) hb
        (by simpa using hxp)
    rw [h.replaced, hxb] at hx
    split at hx
    · next hold => exact ⟨hold, hx⟩
    · cases hx
  · rintro ⟨hold, hlast⟩
    have hfind := h.replaced b.date
    rw [if_pos hold, hlast] at hfind
    exact List.mem_of_find?_eq_some hfind

/-! ## Checking the new rows -/

theorem checkWhole_ok_iff (ns : List Int) :
    checkWhole ns = .ok () ↔ ∀ n ∈ ns, fitsWhole n = true := by
  unfold checkWhole
  split
  · next h => simpa using h
  · next h => simpa using h

/-- The new rows are taken exactly when each volume fits and no two rows, nor a row and one
written before, share a day. -/
theorem checkFresh_ok_iff (before bars : List Bar) :
    checkFresh before bars = .ok () ↔ (∀ b ∈ bars, fitsWhole b.volume = true) ∧
      (bars.map (·.date)).Nodup ∧ ∀ b ∈ bars, ∀ a ∈ before, a.date ≠ b.date := by
  induction bars generalizing before with
  | nil => simp [checkFresh]
  | cons b rest ih =>
    unfold checkFresh
    by_cases hfit : fitsWhole b.volume = true
    · have hwhole : checkWhole [b.volume] = .ok () := by simp [checkWhole, hfit]
      simp only [hwhole, bind, Except.bind]
      by_cases hdup : before.any (·.date == b.date) = true
      · -- a day written before
        obtain ⟨a, ha, hab⟩ := List.any_eq_true.1 hdup
        simp only [hdup, if_true, throw, throwThe, MonadExceptOf.throw]
        simp only [reduceCtorEq, false_iff, not_and]
        intro _ _ hbefore
        exact hbefore b List.mem_cons_self a ha (by simpa using hab)
      · simp only [hdup, Bool.false_eq_true, if_false, ih]
        have hnot : ∀ a ∈ before, a.date ≠ b.date := by
          intro a ha hab
          exact hdup (List.any_eq_true.2 ⟨a, ha, by simp [hab]⟩)
        simp only [List.forall_mem_cons, List.map_cons, List.nodup_cons, List.mem_map]
        constructor
        · rintro ⟨hfits, hnd, hsep⟩
          refine ⟨⟨hfit, hfits⟩, ⟨?_, hnd⟩, hnot, fun c hc => (hsep c hc).2⟩
          rintro ⟨c, hc, hcb⟩
          exact (hsep c hc).1 hcb.symm
        · rintro ⟨⟨_, hfits⟩, ⟨hb, hnd⟩, _, hsep⟩
          exact ⟨hfits, hnd, fun c hc => ⟨fun hbc => hb ⟨c, hc, hbc.symm⟩, hsep c hc⟩⟩
    · have hwhole : checkWhole [b.volume] = .error tooLarge := by
        simp [checkWhole, hfit]
      simp only [hwhole, bind, Except.bind, reduceCtorEq, false_iff, not_and,
        List.forall_mem_cons]
      exact fun h => absurd h.1 hfit

/-! ## One save -/

/-- The row a stored row becomes after a save: a row of the stock whose day the save
replaces takes the replacing bar. -/
def refreshRow (code : String) (replaced : List Bar) (r : PriceRow) : PriceRow :=
  if r.code == code then
    match replaced.find? (·.date == r.date) with
    | some b => PriceRow.ofBar code b
    | none => r
  else r

/-- The table after a save that succeeds: the refreshed rows, then the new ones. -/
def upsert (s : Store) (code : String) (bars : List Bar) : Store :=
  { s with prices := s.prices.map (refreshRow code (s.splitBatch code bars).1) ++
      (s.splitBatch code bars).2.map (PriceRow.ofBar code) }

theorem savePrices_str (s : Store) (code : String) (bars : List Bar) :
    s.savePrices (.str code) bars = (do
      checkWhole ((s.splitBatch code bars).1.map (·.volume))
      checkFresh [] (s.splitBatch code bars).2
      pure ((s.splitBatch code bars).2.length, s.upsert code bars)) := by
  by_cases hb : bars = []
  · subst hb
    have hrefresh : refreshRow code [] = id := by
      funext r
      simp [refreshRow]
    simp [savePrices, upsert, splitBatch, checkWhole, checkFresh, hrefresh, bind, Except.bind,
      pure, Except.pure]
  · simp only [savePrices, List.isEmpty_iff, hb, if_false, columnText]
    rfl

/-- The stored bar row of a stock on a day. -/
def priceOn (s : Store) (code : String) (day : Date) : Option PriceRow :=
  s.prices.find? fun r => r.code == code && r.date == day

/-- No two bar rows are of one stock and day. -/
def KeysUnique (s : Store) : Prop :=
  (s.prices.map fun r => (r.code, r.date)).Nodup

/-- The days of a batch the stock has no row for, in the batch's order, repeats kept. -/
def newDays (s : Store) (code : String) (bars : List Bar) : List Date :=
  (bars.map (·.date)).filter fun d => !s.hasPrice code d

/-- A bar a save writes: one of a day new to the stock, or the last bar of its day. -/
def Writes (s : Store) (code : String) (bars : List Bar) (b : Bar) : Prop :=
  s.hasPrice code b.date = false ∨ lastBarOn bars b.date = some b

/-- A batch the table takes: no day new to the stock comes twice, and every volume written
fits a whole-number column. -/
def Takes (s : Store) (code : String) (bars : List Bar) : Prop :=
  (s.newDays code bars).Nodup ∧ ∀ b ∈ bars, s.Writes code bars b → fitsWhole b.volume = true

theorem hasPrice_eq_isSome (s : Store) (code : String) (day : Date) :
    s.hasPrice code day = (s.priceOn code day).isSome := by
  rw [hasPrice, priceOn, Bool.eq_iff_iff, List.any_eq_true, List.find?_isSome]

theorem priceOn_key {s : Store} {code : String} {day : Date} {r : PriceRow}
    (h : s.priceOn code day = some r) : r ∈ s.prices ∧ r.code = code ∧ r.date = day := by
  have hp := List.find?_some h
  simp only [Bool.and_eq_true, beq_iff_eq] at hp
  exact ⟨List.mem_of_find?_eq_some h, hp⟩

theorem SplitOf.writes {s : Store} {code : String} {bars : List Bar} {acc : List Bar × List Bar}
    (h : SplitOf s code bars acc) (b : Bar) :
    b ∈ acc.1 ∨ b ∈ acc.2 ↔ b ∈ bars ∧ s.Writes code bars b := by
  rw [h.mem_replaced, h.fresh, List.mem_filter, Bool.not_eq_true']
  constructor
  · rintro (⟨_, hlast⟩ | ⟨hb, hnew⟩)
    · exact ⟨(lastBarOn_mem hlast).1, .inr hlast⟩
    · exact ⟨hb, .inl hnew⟩
  · rintro ⟨hb, hw⟩
    cases hold : s.hasPrice code b.date with
    | false => exact .inr ⟨hb, rfl⟩
    | true =>
      rcases hw with hnew | hlast
      · simp [hold] at hnew
      · exact .inl ⟨rfl, hlast⟩

theorem SplitOf.fresh_days {s : Store} {code : String} {bars : List Bar}
    {acc : List Bar × List Bar} (h : SplitOf s code bars acc) :
    acc.2.map (·.date) = s.newDays code bars := by
  rw [h.fresh, newDays, List.filter_map]
  rfl

theorem exists_ok_seq {x y : Except Fault Unit} {z : Nat × Store} :
    (∃ r, (x >>= fun _ => y >>= fun _ => pure z) = .ok r) ↔ x = .ok () ∧ y = .ok () := by
  cases x <;> cases y <;> simp [bind, Except.bind, pure, Except.pure]

/-- A save succeeds exactly when the table takes its batch. -/
theorem savePrices_ok_iff (s : Store) (code : String) (bars : List Bar) :
    (∃ r, s.savePrices (.str code) bars = .ok r) ↔ s.Takes code bars := by
  have h := splitBatch_splitOf s code bars
  rw [savePrices_str, exists_ok_seq, checkWhole_ok_iff, checkFresh_ok_iff, Takes,
    ← h.fresh_days]
  constructor
  · rintro ⟨hrep, hfits, hnd, -⟩
    refine ⟨hnd, fun b hb hw => ?_⟩
    rcases (h.writes b).2 ⟨hb, hw⟩ with hr | hf
    · exact hrep _ (List.mem_map_of_mem hr)
    · exact hfits b hf
  · rintro ⟨hnd, hfits⟩
    have hwrites : ∀ b, b ∈ (s.splitBatch code bars).1 ∨ b ∈ (s.splitBatch code bars).2 →
        fitsWhole b.volume = true := fun b hb =>
      hfits b ((h.writes b).1 hb).1 ((h.writes b).1 hb).2
    refine ⟨?_, fun b hb => hwrites b (.inr hb), hnd, by simp⟩
    simp only [List.mem_map]
    rintro _ ⟨b, hb, rfl⟩
    exact hwrites b (.inl hb)

theorem savePrices_eq_ok {s : Store} {code : String} {bars : List Bar} (ht : s.Takes code bars) :
    s.savePrices (.str code) bars = .ok ((s.newDays code bars).length, s.upsert code bars) := by
  obtain ⟨⟨n, s'⟩, hok⟩ := (savePrices_ok_iff s code bars).2 ht
  have h := splitBatch_splitOf s code bars
  rw [savePrices_str] at hok ⊢
  obtain ⟨hw, hf⟩ := exists_ok_seq.1 ⟨_, hok⟩
  rw [hw, hf, ← h.fresh_days, List.length_map]
  rfl

theorem savePrices_ok {s s' : Store} {code : String} {bars : List Bar} {n : Nat}
    (h : s.savePrices (.str code) bars = .ok (n, s')) :
    s.Takes code bars ∧ n = (s.newDays code bars).length ∧ s' = s.upsert code bars := by
  have ht := (savePrices_ok_iff s code bars).1 ⟨_, h⟩
  rw [savePrices_eq_ok ht] at h
  cases h
  exact ⟨ht, rfl, rfl⟩

/-! ## The table after a save -/

theorem refreshRow_key (code : String) (replaced : List Bar) (r : PriceRow) :
    (refreshRow code replaced r).code = r.code ∧ (refreshRow code replaced r).date = r.date := by
  unfold refreshRow
  split
  · next hcode =>
    split
    · next b hb =>
      have hd := List.find?_some hb
      simp only [beq_iff_eq] at hcode hd
      exact ⟨hcode.symm, hd⟩
    · exact ⟨rfl, rfl⟩
  · exact ⟨rfl, rfl⟩

theorem find?_date_eq_lastBarOn {l : List Bar} (hnd : (l.map (·.date)).Nodup) (day : Date) :
    l.find? (·.date == day) = lastBarOn l day := by
  induction l with
  | nil => rfl
  | cons a l ih =>
    rw [List.map_cons, List.nodup_cons] at hnd
    by_cases ha : a.date = day
    · -- no later bar has `a`'s day
      have hrest : l.filter (·.date == day) = [] := by
        rw [List.filter_eq_nil_iff]
        intro b hb hbd
        exact hnd.1 (List.mem_map.2 ⟨b, hb, by simpa [ha] using hbd⟩)
      simp [lastBarOn, ha, hrest]
    · simp [lastBarOn, ha, ih hnd.2]

theorem lastBarOn_fresh {s : Store} {code : String} {bars : List Bar} {day : Date}
    (hnew : s.hasPrice code day = false) :
    lastBarOn (bars.filter fun b => !s.hasPrice code b.date) day = lastBarOn bars day := by
  unfold lastBarOn
  rw [List.filter_filter]
  congr 1
  apply List.filter_congr
  intro b _
  by_cases hb : b.date = day <;> simp [hb, hnew]

/-- After a save, the row of a stock's day carries the day's last bar in the batch when there
is one, and is the stored row otherwise; rows of other stocks are untouched. -/
theorem priceOn_upsert {s : Store} {code : String} {bars : List Bar}
    (hnd : (s.newDays code bars).Nodup) (c : String) (day : Date) :
    (s.upsert code bars).priceOn c day =
      if c = code then ((lastBarOn bars day).map (PriceRow.ofBar code)).or (s.priceOn code day)
      else s.priceOn c day := by
  have h := splitBatch_splitOf s code bars
  have hkey : ((fun r : PriceRow => r.code == c && r.date == day) ∘ refreshRow code
      (s.splitBatch code bars).1) = fun r => r.code == c && r.date == day := by
    funext r
    simp only [Function.comp_apply, (refreshRow_key _ _ r).1, (refreshRow_key _ _ r).2]
  have hsplit : (s.upsert code bars).priceOn c day =
      ((s.priceOn c day).map (refreshRow code (s.splitBatch code bars).1)).or
        (((s.splitBatch code bars).2.find?
          ((fun r : PriceRow => r.code == c && r.date == day) ∘ PriceRow.ofBar code)).map
            (PriceRow.ofBar code)) := by
    simp only [priceOn, upsert, List.find?_append, List.find?_map, hkey]
  rw [hsplit]
  split
  · next hc =>
    subst hc
    cases hr : s.priceOn c day with
    | none =>
      -- a day new to the stock: its row is the batch's only bar of that day
      have hnew : s.hasPrice c day = false := by simp [hasPrice_eq_isSome, hr]
      have hbar : ((fun r : PriceRow => r.code == c && r.date == day) ∘ PriceRow.ofBar c) =
          (·.date == day) := by
        funext b
        simp [PriceRow.ofBar]
      rw [hbar, find?_date_eq_lastBarOn (h.fresh_days ▸ hnd), h.fresh, lastBarOn_fresh hnew]
      simp
    | some r =>
      -- a stored day: the replacement of the day, if the batch has one
      obtain ⟨-, hcode, hday⟩ := priceOn_key hr
      have hold : s.hasPrice c day = true := by simp [hasPrice_eq_isSome, hr]
      have hrep := h.replaced day
      rw [if_pos hold] at hrep
      cases hlast : lastBarOn bars day with
      | none => simp [refreshRow, hcode, hday, hrep, hlast]
      | some b => simp [refreshRow, hcode, hday, hrep, hlast]
  · next hc =>
    have hother : ∀ r, s.priceOn c day = some r → refreshRow code (s.splitBatch code bars).1 r = r := by
      intro r hr
      have hcode := (priceOn_key hr).2.1
      simp [refreshRow, hcode, hc]
    have hnone : (s.splitBatch code bars).2.find?
        ((fun r : PriceRow => r.code == c && r.date == day) ∘ PriceRow.ofBar code) = none := by
      rw [List.find?_eq_none]
      intro b _
      simp [PriceRow.ofBar, Ne.symm hc]
    rw [hnone]
    cases hr : s.priceOn c day with
    | none => rfl
    | some r => simp [hother r hr]

/-- A save keeps the stock and day of every row unique. -/
theorem keysUnique_upsert {s : Store} {code : String} {bars : List Bar}
    (hnd : (s.newDays code bars).Nodup) (hk : s.KeysUnique) : (s.upsert code bars).KeysUnique := by
  have h := splitBatch_splitOf s code bars
  have hrefresh : (s.prices.map (refreshRow code (s.splitBatch code bars).1)).map
      (fun r => (r.code, r.date)) = s.prices.map fun r => (r.code, r.date) := by
    rw [List.map_map]
    apply List.map_congr_left
    intro r _
    simp [(refreshRow_key _ _ r).1, (refreshRow_key _ _ r).2]
  have hfresh : ((s.splitBatch code bars).2.map (PriceRow.ofBar code)).map
      (fun r => (r.code, r.date)) = (s.newDays code bars).map (Prod.mk code) := by
    rw [← h.fresh_days, List.map_map, List.map_map]
    rfl
  unfold KeysUnique upsert
  rw [List.map_append, hrefresh, hfresh, List.nodup_append]
  refine ⟨hk, hnd.map fun _ _ he => (Prod.mk.inj he).2, ?_⟩
  -- a new row's day has no stored row of the stock
  intro x hx y hy hxy
  obtain ⟨r, hr, rfl⟩ := List.mem_map.1 hx
  obtain ⟨d, hd, rfl⟩ := List.mem_map.1 hy
  obtain ⟨hcode, hday⟩ := Prod.mk.inj hxy
  have hnew : s.hasPrice code d = false := by
    simpa [newDays] using (List.mem_filter.1 hd).2
  have hold : s.hasPrice code d = true :=
    List.any_eq_true.2 ⟨r, hr, by simp [hcode, hday]⟩
  simp [hnew] at hold

/-! ## A history of saves -/

/-- The store after saves of stocks' bars in turn; a save that fails leaves it as it was. -/
def savePricesEach (s : Store) : List (String × List Bar) → Store
  | [] => s
  | (code, bars) :: rest =>
    match s.savePrices (.str code) bars with
    | .ok (_, s') => s'.savePricesEach rest
    | .error _ => s.savePricesEach rest

/-- Every store a history of saves reaches keeps the stock and day of each row unique. -/
theorem keysUnique_savePricesEach (s : Store) (hk : s.KeysUnique) (calls : List (String × List Bar)) :
    (s.savePricesEach calls).KeysUnique := by
  induction calls generalizing s with
  | nil => exact hk
  | cons call rest ih =>
    obtain ⟨code, bars⟩ := call
    unfold savePricesEach
    split
    · next n s' hok =>
      obtain ⟨ht, -, rfl⟩ := savePrices_ok hok
      exact ih _ (keysUnique_upsert ht.1 hk)
    · exact ih s hk

/-- A save of a stock's bars succeeds exactly when no new day repeats in the batch and every
volume fits; it then upserts the table, each day keeping its last bar and every stock and
day unique. -/
theorem prices_upsert_unless_new_day_repeats (calls : List (String × List Bar)) (code : String)
    (bars : List Bar) :
    let s := ({} : Store).savePricesEach calls
    s.KeysUnique ∧
      ((∃ r, s.savePrices (.str code) bars = .ok r) ↔ s.Takes code bars) ∧
      ∀ n s', s.savePrices (.str code) bars = .ok (n, s') →
        n = (s.newDays code bars).dedup.length ∧ s'.KeysUnique ∧
        (∀ c day, s'.priceOn c day =
          if c = code then ((lastBarOn bars day).map (PriceRow.ofBar code)).or (s.priceOn code day)
          else s.priceOn c day) ∧
        s'.snapshots = s.snapshots ∧ s'.advice = s.advice := by
  intro s
  have hk : s.KeysUnique := Store.keysUnique_savePricesEach {} List.nodup_nil calls
  refine ⟨hk, Store.savePrices_ok_iff s code bars, fun n s' hok => ?_⟩
  obtain ⟨ht, rfl, rfl⟩ := Store.savePrices_ok hok
  -- no new day repeats, so counting them counts distinct days
  exact ⟨by rw [List.Nodup.dedup ht.1], Store.keysUnique_upsert ht.1 hk, Store.priceOn_upsert ht.1,
    rfl, rfl⟩

/-- Two bars of one day new to the stock are refused together: the second one breaks the
table's uniqueness, where saving them one after the other would have kept the second. -/
theorem repeated_new_day_refused :
    let day : Date := ⟨2024, 1, 2⟩
    let one : Binary64 := ⟨0x3FF0000000000000⟩
    let two : Binary64 := ⟨0x4000000000000000⟩
    ({} : Store).savePrices (.str "005930")
        [⟨.str "005930", day, one, one, one, one, 1⟩, ⟨.str "005930", day, two, two, two, two, 2⟩] =
      .error (violated "UNIQUE constraint failed: daily_prices.code, daily_prices.trade_date") := by
  rfl

end Store

end RankAdvisor
