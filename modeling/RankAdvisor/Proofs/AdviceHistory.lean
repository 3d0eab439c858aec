import RankAdvisor.Proofs.DatasetWindow
import RankAdvisor.Proofs.RankingPrefix
import RankAdvisor.Store.Basic

/-! # The advice table over a history of saves

Advice records are saved in batches, each one transaction: a batch whose rows all bind is
appended whole, and one that fails leaves the table as it was (`saveAllEach_advice`). The
table is then the rows of the batches that succeed, in the order written.

Reading a day back sorts its rows newest first by storing time, and rows of one time with
the later written first (`NewestFirst`). That order is one list for given rows
(`NewestFirst.unique`), because two lists sorted by a key with the same items of each key in
the same order are equal (`eq_of_key_classes`); and it commutes with keeping the rows of one
stock (`NewestFirst.filter`). The newest `n` rows are its first `n`, and a stock's newest row
is the first of its rows there.

A record whose texts are texts, whose time has no offset and whose confidence is a number
reads back as it was saved, its time filled in with the storing time when it had none, and a
zero confidence without its sign (`toRecord_ofRecord`).

Main statement: `advice_history_reads_back`.
-/

namespace RankAdvisor

set_option autoImplicit false

/-! ## Lists sorted by a key, largest first -/

section KeyClasses

variable {α : Type _} (key : α → Nat)

theorem mem_of_key_classes {l₁ l₂ : List α}
    (h : ∀ t, l₁.filter (key · == t) = l₂.filter (key · == t)) {x : α} (hx : x ∈ l₁) :
    x ∈ l₂ := by
  have hx' : x ∈ l₁.filter (key · == key x) := List.mem_filter.2 ⟨hx, by simp⟩
  rw [h] at hx'
  exact (List.mem_filter.1 hx').1

/-- Two lists sorted by a key, largest first, with the same items of each key in the same
order, are equal. -/
theorem eq_of_key_classes : ∀ {l₁ l₂ : List α},
    l₁.Pairwise (fun a b => key b ≤ key a) → l₂.Pairwise (fun a b => key b ≤ key a) →
    (∀ t, l₁.filter (key · == t) = l₂.filter (key · == t)) → l₁ = l₂
  | [], [], _, _, _ => rfl
  | [], b :: _, _, _, h => by simpa using h (key b)
  | a :: _, [], _, _, h => by simpa using h (key a)
  | a :: l₁, b :: l₂, h₁, h₂, h => by
    rw [List.pairwise_cons] at h₁ h₂
    -- the heads carry the largest key of each list, and each list holds the other's head
    have hab : key a = key b := by
      have hle₁ : key a ≤ key b := by
        rcases List.mem_cons.1 (mem_of_key_classes key h List.mem_cons_self) with hx | hx
        · rw [hx]
        · exact h₂.1 a hx
      have hle₂ : key b ≤ key a := by
        rcases List.mem_cons.1 (mem_of_key_classes key (fun t => (h t).symm)
            List.mem_cons_self) with hx | hx
        · rw [hx]
        · exact h₁.1 b hx
      omega
    have hhead := h (key a)
    simp only [List.filter_cons, beq_self_eq_true, if_true, hab] at hhead
    obtain ⟨rfl, hrest⟩ := List.cons.inj hhead
    -- past the heads, the items of each key still agree
    rw [eq_of_key_classes h₁.2 h₂.2 fun t => ?_]
    by_cases hkt : key a = t
    · subst hkt
      rw [hab]
      exact hrest
    · simpa [List.filter_cons, hkt] using h t

end KeyClasses

/-! ## Records as their types have them -/

/-- A record as its types have it: its code, name and texts are texts, its own time, if it
has one, has no offset, and its confidence is a number. -/
structure Record.Plain (r : Record) : Prop where
  code : ∃ t, r.stockCode = .str t
  name : ∃ t, r.stockName = .str t
  summary : ∃ t, r.summary = .str t
  narrative : ∃ t, r.narrative = .str t
  naive : ∀ t, r.createdAt = some t → t.offset = none
  number : r.confidence.isNaN = false

namespace Store

open Binary64

/-! ## Newest first -/

/-- `sorted` holds `rows` newest first by storing time, and the rows of one time in the
reverse of the order they were written. -/
structure NewestFirst (rows sorted : List AdviceRow) : Prop where
  perm : sorted.Perm rows
  ordered : sorted.Pairwise fun a b => b.createdAt.toMicros ≤ a.createdAt.toMicros
  laterFirst : ∀ t, sorted.filter (·.createdAt.toMicros == t) =
    (rows.filter (·.createdAt.toMicros == t)).reverse

theorem newer_trans (a b c : AdviceRow) :
    decide (b.createdAt.toMicros ≤ a.createdAt.toMicros) = true →
      decide (c.createdAt.toMicros ≤ b.createdAt.toMicros) = true →
      decide (c.createdAt.toMicros ≤ a.createdAt.toMicros) = true := by
  simp only [decide_eq_true_eq]
  omega

theorem newer_total (a b : AdviceRow) :
    (decide (b.createdAt.toMicros ≤ a.createdAt.toMicros) ||
      decide (a.createdAt.toMicros ≤ b.createdAt.toMicros)) = true := by
  simp only [Bool.or_eq_true, decide_eq_true_eq]
  omega

theorem newest_newestFirst (rows : List AdviceRow) : NewestFirst rows (Store.newest rows) where
  perm := (List.mergeSort_perm _ _).trans (List.reverse_perm rows)
  ordered := (List.pairwise_mergeSort newer_trans newer_total _).imp fun h => by simpa using h
  laterFirst t := by
    rw [Store.newest, filter_mergeSort_of_related newer_trans newer_total, List.filter_reverse]
    intro a _ b _ ha hb
    simp only [beq_iff_eq] at ha hb
    simp [ha, hb]

/-- The newest-first order of given rows is one list. -/
theorem NewestFirst.unique {rows l₁ l₂ : List AdviceRow} (h₁ : NewestFirst rows l₁)
    (h₂ : NewestFirst rows l₂) : l₁ = l₂ :=
  eq_of_key_classes (·.createdAt.toMicros) h₁.ordered h₂.ordered fun t =>
    (h₁.laterFirst t).trans (h₂.laterFirst t).symm

/-- Keeping some rows keeps the newest-first order of the rest. -/
theorem NewestFirst.filter {rows l : List AdviceRow} (h : NewestFirst rows l)
    (p : AdviceRow → Bool) : NewestFirst (rows.filter p) (l.filter p) where
  perm := h.perm.filter p
  ordered := h.ordered.filter p
  laterFirst t := by
    calc (l.filter p).filter (·.createdAt.toMicros == t)
        = (l.filter (·.createdAt.toMicros == t)).filter p := by
          simp only [List.filter_filter, Bool.and_comm]
      _ = (rows.filter (·.createdAt.toMicros == t)).reverse.filter p := by rw [h.laterFirst]
      _ = ((rows.filter p).filter (·.createdAt.toMicros == t)).reverse := by
          simp only [List.filter_reverse, List.filter_filter, Bool.and_comm]

/-! ## Saves in turn -/

/-- The rows a save of records writes: all of them when every record binds, none when one
does not. -/
def writtenRows (now : DateTime) (records : List Record) : List AdviceRow :=
  match records.mapM (AdviceRow.ofRecord now) with
  | .ok rows => rows
  | .error _ => []

/-- The store after saves of advice in turn, each at its own storing time; a save that fails
leaves the store as it was. -/
def saveAllEach (s : Store) : List (DateTime × List Record) → Store
  | [] => s
  | (now, records) :: rest =>
    match s.saveAll now records with
    | .ok (_, s') => s'.saveAllEach rest
    | .error _ => s.saveAllEach rest

theorem saveAll_store (s : Store) (now : DateTime) (records : List Record) :
    (match s.saveAll now records with
      | .ok (_, s') => s'
      | .error _ => s) = { s with advice := s.advice ++ writtenRows now records } := by
  by_cases hnil : records = []
  · subst hnil
    simp [saveAll, writtenRows, pure, Except.pure]
  · unfold saveAll writtenRows
    cases records.mapM (AdviceRow.ofRecord now) with
    | error f => simp [hnil, bind, Except.bind]
    | ok rows => simp [hnil, bind, Except.bind, pure, Except.pure]

theorem writtenRows_of_error {s : Store} {now : DateTime} {records : List Record} {f : Fault}
    (h : s.saveAll now records = .error f) : writtenRows now records = [] := by
  have hstore := saveAll_store s now records
  rw [h] at hstore
  simpa using congrArg Store.advice hstore

theorem saveAllEach_advice (s : Store) (calls : List (DateTime × List Record)) :
    (s.saveAllEach calls).advice = s.advice ++ calls.flatMap fun c => writtenRows c.1 c.2 := by
  induction calls generalizing s with
  | nil => simp [saveAllEach]
  | cons c rest ih =>
    obtain ⟨now, records⟩ := c
    simp only [saveAllEach, List.flatMap_cons]
    split
    · next n s' h =>
      have hstep := saveAll_store s now records
      rw [h] at hstep
      simp only at hstep
      rw [ih, hstep, List.append_assoc]
    · next f h =>
      rw [ih, writtenRows_of_error h, List.nil_append]

theorem mem_writtenRows {now : DateTime} {records : List Record} {row : AdviceRow}
    (h : row ∈ writtenRows now records) : ∃ r ∈ records, AdviceRow.ofRecord now r = .ok row := by
  unfold writtenRows at h
  split at h
  · next rows hmap =>
    have hrel := MarketData.forall₂_of_mapM hmap
    clear hmap
    induction hrel with
    | nil => cases h
    | cons hr _ ih =>
      rcases List.mem_cons.1 h with rfl | h
      · exact ⟨_, List.mem_cons_self, hr⟩
      · obtain ⟨r, hmem, hr'⟩ := ih h
        exact ⟨r, List.mem_cons_of_mem _ hmem, hr'⟩
  · cases h

/-! ## What a record reads back as -/

theorem place?_of_isZero {x : Binary64} (hz : x.isZero = true) : x.place? = some (.steps 0) := by
  unfold isZero at hz
  unfold place?
  split at hz
  · next neg m e hv =>
    rw [hv]
    simp only [beq_iff_eq] at hz
    subst hz
    cases neg <;> simp [unitsOf]
  · cases hz

theorem real_eqNum {x : Binary64} (hx : x.isNaN = false) :
    ((real x).getD (zero false)).eqNum x = true := by
  unfold real
  rw [if_neg (by simp [hx])]
  split
  · next hz => simp [eqNum, compare?_of_places place?_zero (place?_of_isZero hz), Place.compare]
  · exact eqNum_of_le_of_le (le_self_of_not_nan hx) (le_self_of_not_nan hx)

/-- `r'` is what the program reads back for `r` saved at `now`: the record itself, its time
filled in with the storing time when it had none, the confidence compared as a number (so a
zero's sign is not seen). -/
def ReadsBackAs (now : DateTime) (r r' : Record) : Prop :=
  { r' with confidence := r.confidence } = { r with createdAt := some (r.createdAt.getD now) } ∧
    r'.confidence.eqNum r.confidence = true

theorem wallClock_of_naive {t : DateTime} (h : t.offset = none) : { t with offset := none } = t := by
  obtain ⟨d, c, o⟩ := t
  simp only at h
  simp [h]

/-- A plain record, stored by a clock without an offset, reads back as it was saved. -/
theorem toRecord_ofRecord {now : DateTime} {r : Record} (hr : r.Plain)
    (hnow : now.offset = none) :
    ∃ row, AdviceRow.ofRecord now r = .ok row ∧ ReadsBackAs now r row.toRecord := by
  obtain ⟨⟨code, hcode⟩, ⟨name, hname⟩, ⟨summary, hsummary⟩, ⟨narrative, hnarrative⟩, hnaive,
    hnum⟩ := hr
  -- the column keeps the time as given, the record's own or the storing time
  have htime : { r.createdAt.getD now with offset := none } = r.createdAt.getD now := by
    cases ht : r.createdAt with
    | none => exact wallClock_of_naive hnow
    | some t => exact wallClock_of_naive (hnaive _ ht)
  have hrow : AdviceRow.ofRecord now r = .ok ⟨code, some name, r.analysisDate,
      r.recommendation, real r.confidence, some summary, some narrative,
      r.createdAt.getD now⟩ := by
    simp only [AdviceRow.ofRecord, hcode, hname, hsummary, hnarrative, columnText,
      requiredText, htime, bind, Except.bind, pure, Except.pure]
  refine ⟨_, hrow, ?_, real_eqNum hnum⟩
  obtain ⟨sc, sn, ad, rc, cf, sm, nr, ca⟩ := r
  simp only at hcode hname hsummary hnarrative
  subst hcode hname hsummary hnarrative
  simp [AdviceRow.toRecord]

/-! ## Reading a history back -/

/-- A history of saves read back for a day: failed saves write nothing, and the day's rows
come back newest first, each the row of a record of a save that succeeded. -/
theorem advice_history_reads_back (calls : List (DateTime × List Record)) (day : Date)
    (code : String) (n : Nat) :
    let s := ({} : Store).saveAllEach calls
    let saved := (calls.flatMap fun c => writtenRows c.1 c.2).filter (·.analysisDate == day)
    (∀ c ∈ calls, ∀ (t : Store) f, t.saveAll c.1 c.2 = .error f → writtenRows c.1 c.2 = []) ∧
    ∃ L, NewestFirst saved L ∧
      s.findTopN day (some n) = L.take n ∧
      s.findByCodeAndDate (.str code) day = .ok (L.find? (·.stockCode == code)) ∧
      ∀ row ∈ L, ∃ c ∈ calls, ∃ r ∈ c.2, AdviceRow.ofRecord c.1 r = .ok row ∧
        (r.Plain → c.1.offset = none → ReadsBackAs c.1 r row.toRecord) := by
  intro s saved
  have hadvice : s.advice = calls.flatMap fun c => writtenRows c.1 c.2 := by
    simp [s, Store.saveAllEach_advice]
  have hsorted := newest_newestFirst saved
  refine ⟨fun _ _ _ _ h => Store.writtenRows_of_error h, Store.newest saved, hsorted, ?_, ?_,
    fun row hrow => ?_⟩
  · simp [Store.findTopN, hadvice, saved, Int.not_lt.2 (Int.natCast_nonneg n)]
  · -- a stock's rows of the day, newest first, are the stock's rows of the day's order
    have hrows : s.advice.filter (fun r => r.stockCode == code && r.analysisDate == day) =
        saved.filter (·.stockCode == code) := by
      simp only [saved, hadvice, List.filter_filter]
    have hstock : Store.newest (s.advice.filter fun r => r.stockCode == code &&
        r.analysisDate == day) = (Store.newest saved).filter (·.stockCode == code) := by
      rw [hrows]
      exact (newest_newestFirst _).unique (hsorted.filter _)
    simp [Store.findByCodeAndDate, columnText, hstock, bind, Except.bind, pure, Except.pure]
  · -- every row comes from a record of a save that succeeded
    have hmem := (List.mem_filter.1 (hsorted.perm.mem_iff.1 hrow)).1
    obtain ⟨c, hc, hrow'⟩ := List.mem_flatMap.1 hmem
    obtain ⟨r, hr, hok⟩ := mem_writtenRows hrow'
    refine ⟨c, hc, r, hr, hok, fun hplain hnow => ?_⟩
    obtain ⟨row', hok', hback⟩ := toRecord_ofRecord hplain hnow
    rw [hok] at hok'
    cases hok'
    exact hback

end Store

end RankAdvisor
