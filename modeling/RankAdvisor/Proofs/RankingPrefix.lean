import Mathlib.Data.List.Forall2
import RankAdvisor.Proofs.FeedFailures

/-! # The ranking reads a prefix of its rows

`fetchRanking` asks the service once and reads the first rows of the answer. What it gives
is decided by the query's outcome and by those rows alone:

* a transport failure or an unreadable answer of the query gives no entries; any other
  fault of the query passes through;
* an `output` that is there but is not a list gives no entries;
* otherwise the first `rankCount n` rows are read in order, ranked from one. The first row
  that does not read gives no entries when it is malformed, and fails the ranking when a
  whole number in it overflows.

Main statement: `ranking_reads_prefix`; the query leaves the session and the token cache as
the whole ranking does. `infinite_amount_fails_top_ranking` is a ranking of one row whose
amount reads `inf`: it fails where a malformed row would give no entries.
-/

namespace RankAdvisor

set_option autoImplicit false

namespace MarketData

open Market

/-! ## Reading a list one item after another -/

section Traverse

variable {α β ε : Type}

theorem ok_of_bind_ok {x : Except ε α} {g : α → Except ε β} {b : β} (h : (x >>= g) = .ok b) :
    ∃ a, x = .ok a ∧ g a = .ok b := by
  cases x with
  | error e => cases h
  | ok a => exact ⟨a, rfl, h⟩

theorem forall₂_of_mapM {g : α → Except ε β} {l : List α} {bs : List β}
    (h : l.mapM g = .ok bs) : List.Forall₂ (fun a b => g a = .ok b) l bs := by
  induction l generalizing bs with
  | nil =>
    cases h
    exact .nil
  | cons a l ih =>
    rw [List.mapM_cons] at h
    obtain ⟨b, ha, h⟩ := ok_of_bind_ok h
    obtain ⟨bs', hl, h⟩ := ok_of_bind_ok h
    cases h
    exact .cons ha (ih hl)

theorem firstFault_of_mapM {g : α → Except ε β} {l : List α} {e : ε}
    (h : l.mapM g = .error e) :
    ∃ i, ∃ hi : i < l.length, (∀ j (hj : j < i), ∃ b, g l[j] = .ok b) ∧ g l[i] = .error e := by
  induction l with
  | nil => cases h
  | cons a l ih =>
    rw [List.mapM_cons] at h
    cases ha : g a with
    | error e' =>
      rw [ha] at h
      cases h
      exact ⟨0, by simp, fun j hj => absurd hj (Nat.not_lt_zero j), ha⟩
    | ok b =>
      cases hl : l.mapM g with
      | error e' =>
        rw [ha, hl] at h
        cases h
        obtain ⟨i, hi, hbefore, hat⟩ := ih hl
        refine ⟨i + 1, by simp [hi], fun j hj => ?_, hat⟩
        cases j with
        | zero => exact ⟨b, ha⟩
        | succ j => exact hbefore j (by omega)
      | ok bs =>
        rw [ha, hl] at h
        cases h

end Traverse

/-! ## Rows, ranks and limits -/

/-- `es` are the rows read in order, the row at index `i` at rank `i + 1`. -/
def RankedAs (rows : List Json) (es : List Entry) : Prop :=
  es.length = rows.length ∧
    ∀ i (hr : i < rows.length) (he : i < es.length), Entry.ofRow rows[i] (.int (i + 1)) = .ok es[i]

/-- The row at index `i` is the first that does not read, failing with `f`. -/
def FirstFault (rows : List Json) (i : Nat) (f : Fault) : Prop :=
  ∃ hi : i < rows.length, (∀ j (hj : j < i), ∃ e, Entry.ofRow rows[j] (.int (j + 1)) = .ok e) ∧
    Entry.ofRow rows[i] (.int (i + 1)) = .error f

/-- The row at index `i` is the first that does not read as a bar, failing with `f`. -/
def FirstBarFault (code : Json) (rows : List Json) (i : Nat) (f : Fault) : Prop :=
  ∃ hi : i < rows.length, (∀ j (hj : j < i), ∃ o, Bar.ofRow code rows[j] = .ok o) ∧
    Bar.ofRow code rows[i] = .error f

/-- What reading `rows` may give: every row read, or the first row that does not read
decides. -/
def ReadsRows (rows : List Json) (result : Except Fault (List Entry)) : Prop :=
  (∃ es, RankedAs rows es ∧ result = .ok es) ∨
  ∃ i f, FirstFault rows i f ∧
    (f.kind = .parse ∧ result = .ok [] ∨ f.kind = .overflow ∧ result = .error f)

/-- The rows a member holds: none when it is missing or empty, the items of a list, and
nothing usable otherwise. -/
def listed? : Json → Option (List Json)
  | .arr rows => some rows
  | v => if v.isEmptyish then some [] else none

/-- What a ranking gives for the outcome of its query, reading at most `k` rows. -/
def RankedFrom (k : Nat) : Except Fault Json → Except Fault (List Entry) → Prop
  | .error f, result =>
    (f.kind = .transport ∨ f.kind = .parse) ∧ result = .ok [] ∨
      f.kind ≠ .transport ∧ f.kind ≠ .parse ∧ result = .error f
  | .ok payload, result =>
    match listed? (payload.getD "output" .null) with
    | none => result = .ok []
    | some rows => ReadsRows (rows.take k) result

def rankArg : Option Int → Json
  | none => .null
  | some j => .int j

/-- How many rows a ranking reads: ten for none, else `n` held between zero and ten. -/
def rankCount : Option Int → Nat
  | none => 10
  | some j => (max 0 (min j 10)).toNat

theorem gt_int (a b : Int) : Json.gt (.int a) (.int b) = .ok (decide (b < a)) := by
  simp only [Json.gt, Pool.order_int, bind, Except.bind, pure, Except.pure]
  congr 1
  rcases Int.lt_trichotomy a b with hab | rfl | hab
  · simp [Int.compare_eq_lt.2 hab, Int.not_lt.2 (Int.le_of_lt hab)]
  · simp
  · simp [Int.compare_eq_gt.2 hab, hab]

theorem smaller_int_eq (a b : Int) : Json.smaller (.int a) (.int b) = .ok (.int (min a b)) := by
  simp only [Json.smaller, Pool.lt_int, bind, Except.bind, pure, Except.pure]
  by_cases hab : b < a
  · rw [if_pos (decide_eq_true hab), Int.min_eq_right (Int.le_of_lt hab)]
  · rw [if_neg (mt of_decide_eq_true hab), Int.min_eq_left (Int.not_lt.1 hab)]

theorem larger_int_eq (a b : Int) : Json.larger (.int a) (.int b) = .ok (.int (max a b)) := by
  simp only [Json.larger, gt_int, bind, Except.bind, pure, Except.pure]
  by_cases hab : a < b
  · rw [if_pos (decide_eq_true hab), Int.max_eq_right (Int.le_of_lt hab)]
  · rw [if_neg (mt of_decide_eq_true hab), Int.max_eq_left (Int.not_lt.1 hab)]

theorem rankLimit_rankArg (n : Option Int) :
    rankLimit (rankArg n) = .ok (.int (rankCount n)) := by
  cases n with
  | none => rfl
  | some j =>
    have hcount : ((max 0 (min j 10)).toNat : Int) = max 0 (min j 10) :=
      Int.toNat_of_nonneg (by omega)
    simp only [rankArg, rankLimit, maxRankSize, rankCount, smaller_int_eq, larger_int_eq,
      bind, Except.bind, hcount]
    rfl

theorem rowsOf_eq (payload : Json) (key : String) (malformed : String → String) :
    rowsOf payload key malformed =
      match listed? (payload.getD key .null) with
      | some rows => .ok rows
      | none => .error (Fault.parse (malformed (payload.getD key .null).kindName)) := by
  unfold rowsOf listed?
  generalize payload.getD key .null = v
  by_cases he : v.isEmptyish
  · rw [if_pos he]
    cases v <;> simp_all [Json.isEmptyish]
  · rw [if_neg he]
    cases v <;> simp_all

theorem ofRow_fields {row rank : Json} {e : Entry} (h : Entry.ofRow row rank = .ok e) :
    e.rank = rank ∧ e.code = .str (presentText row "mksc_shrn_iscd") ∧
      Field.isStockCode (presentText row "mksc_shrn_iscd") = true ∧
      e.name = .str (presentText row "hts_kor_isnm") ∧
      Field.readDecimal (fieldOf row "stck_prpr") "stck_prpr" = .ok e.price ∧
      Field.readDecimal (fieldOf row "prdy_ctrt") "prdy_ctrt" = .ok e.changePercent ∧
      Field.readWhole (fieldOf row "acml_vol") "acml_vol" = .ok e.volume ∧
      Field.readWhole (fieldOf row "acml_tr_pbmn") "acml_tr_pbmn" = .ok e.amount := by
  unfold Entry.ofRow at h
  generalize presentText row "mksc_shrn_iscd" = code at h ⊢
  generalize presentText row "hts_kor_isnm" = name at h ⊢
  dsimp only at h
  split at h
  · split at h
    · cases h
    rename_i hcode
    -- each field read in turn, each read succeeding
    obtain ⟨price, h1, h⟩ := ok_of_bind_ok h
    obtain ⟨change, h2, h⟩ := ok_of_bind_ok h
    obtain ⟨volume, h3, h⟩ := ok_of_bind_ok h
    obtain ⟨amount, h4, h⟩ := ok_of_bind_ok h
    cases h
    exact ⟨rfl, rfl, by simpa using hcode, rfl, h1, h2, h3, h4⟩
  · cases h

theorem rankedAs_of_mapM {rows : List Json} {es : List Entry}
    (h : rows.zipIdx.mapM (fun p => Entry.ofRow p.1 (.int (p.2 + 1))) = .ok es) :
    RankedAs rows es := by
  obtain ⟨hlen, hget⟩ := List.forall₂_iff_get.1 (forall₂_of_mapM h)
  refine ⟨by simpa using hlen.symm, fun i hr he => ?_⟩
  simpa [List.getElem_zipIdx] using hget i (by simpa using hr) he

theorem firstFault_of_rows {rows : List Json} {f : Fault}
    (h : rows.zipIdx.mapM (fun p => Entry.ofRow p.1 (.int (p.2 + 1))) = .error f) :
    ∃ i, FirstFault rows i f := by
  obtain ⟨i, hi, hbefore, hat⟩ := firstFault_of_mapM h
  have hi' : i < rows.length := by simpa using hi
  refine ⟨i, hi', fun j hj => ?_, by simpa [List.getElem_zipIdx] using hat⟩
  simpa [List.getElem_zipIdx] using hbefore j hj

theorem rowFault_handled {α : Type} (fallback : α) {f : Fault} (hk : RowFault f.kind) :
    f.kind = .parse ∧
        (if (f.kind == .transport || f.kind == .parse) = true then .ok fallback else .error f) =
          (.ok fallback : Except Fault α) ∨
      f.kind = .overflow ∧
        (if (f.kind == .transport || f.kind == .parse) = true then .ok fallback else .error f) =
          (.error f : Except Fault α) := by
  rcases hk with hk | hk
  · exact .inl ⟨hk, by simp [hk]⟩
  · exact .inr ⟨hk, by simp [hk]⟩

theorem readsRows_of_error {rows : List Json} {f : Fault}
    (h : rows.zipIdx.mapM (fun p => Entry.ofRow p.1 (.int (p.2 + 1))) = .error f) :
    ReadsRows rows (if (f.kind == .transport || f.kind == .parse) = true then .ok [] else .error f) := by
  obtain ⟨i, hi, hbefore, hat⟩ := firstFault_of_rows h
  have hkind : RowFault f.kind := by
    have := ofRow_ends rows[i] (.int (i + 1))
    rw [hat] at this
    exact this
  exact .inr ⟨i, f, ⟨hi, hbefore, hat⟩, rowFault_handled [] hkind⟩

theorem degraded_cases {α : Type} (fallback : α) (f : Fault) :
    (f.kind = .transport ∨ f.kind = .parse) ∧
        (if (f.kind == .transport || f.kind == .parse) = true then .ok fallback else .error f) =
          (.ok fallback : Except Fault α) ∨
      f.kind ≠ .transport ∧ f.kind ≠ .parse ∧
        (if (f.kind == .transport || f.kind == .parse) = true then .ok fallback else .error f) =
          (.error f : Except Fault α) := by
  by_cases hk : f.kind = .transport ∨ f.kind = .parse
  · have hdeg : (f.kind == .transport || f.kind == .parse) = true := by
      rcases hk with hk | hk <;> simp [hk]
    exact .inl ⟨hk, if_pos hdeg⟩
  · have hdeg : ¬ (f.kind == .transport || f.kind == .parse) = true := by
      simpa [not_or] using hk
    exact .inr ⟨fun h => hk (.inl h), fun h => hk (.inr h), if_neg hdeg⟩

/-! ## The ranking run -/

section Run

variable {σ : Type}

/-- A ranking run follows its query run: the same session and token cache afterwards, and the
outcome `RankedFrom` gives for the query's outcome. -/
def RankingOf (k : Nat) (query : (Except Fault Json × TokenCache) × σ)
    (ranking : (Except Fault (List Entry) × TokenCache) × σ) : Prop :=
  ranking.1.2 = query.1.2 ∧ ranking.2 = query.2 ∧ RankedFrom k query.1.1 ranking.1.1

theorem runFrom_except {α : Type} (e : Except Fault α) (tc : TokenCache) (s : σ) :
    runFrom (ExceptT.mk (pure e) : ExceptT Fault (OnSession σ) α) tc s = ((e, tc), s) := rfl

theorem runFrom_bind_ok {α β : Type} {x : ExceptT Fault (OnSession σ) α}
    {g : α → ExceptT Fault (OnSession σ) β} {c c' : TokenCache} {s s' : σ} {a : α}
    (h : runFrom x c s = ((.ok a, c'), s')) : runFrom (x >>= g) c s = runFrom (g a) c' s' := by
  rw [runFrom_bind, h]

theorem runFrom_degraded {α : Type} (fallback : α) (f : Fault) (tc : TokenCache) (s : σ) :
    runFrom (if (f.kind == .transport || f.kind == .parse) = true then pure fallback
        else throw f : ExceptT Fault (OnSession σ) α) tc s =
      ((if (f.kind == .transport || f.kind == .parse) = true then .ok fallback else .error f, tc),
        s) := by
  split <;> rfl

theorem runFrom_mapM_except {α β : Type} {h : α → ExceptT Fault (OnSession σ) β}
    {g : α → Except Fault β} (hg : ∀ a, h a = ExceptT.mk (pure (g a))) (l : List α)
    (tc : TokenCache) (s : σ) :
    runFrom (l.mapM h) tc s = ((l.mapM g, tc), s) := by
  induction l with
  | nil => rfl
  | cons a l ih =>
    rw [List.mapM_cons, List.mapM_cons, runFrom_bind, hg, runFrom_except]
    cases g a with
    | error f => rfl
    | ok b =>
      dsimp only
      rw [runFrom_bind, ih]
      cases l.mapM g <;> rfl

/-- After any query, the ranking's reading of the first `k` rows of the answer follows the
query's run. -/
theorem rankingOf_query (q : ExceptT Fault (OnSession σ) Json) (k : Nat)
    (malformed : String → String) (tc : TokenCache) (s : σ) :
    RankingOf k (runFrom q tc s)
      (runFrom (degrade [] do
        let payload ← q
        let rows ← ExceptT.mk (pure (rowsOf payload "output" malformed))
        let rows ← ExceptT.mk (pure (Json.sliceTo rows (.int (k : Int))))
        rows.zipIdx.mapM fun (row, i) => ExceptT.mk (pure (Entry.ofRow row (.int (i + 1))))) tc s) := by
  unfold degrade
  rw [runFrom_tryCatch, runFrom_bind]
  generalize runFrom q tc s = query
  obtain ⟨⟨r, tc'⟩, s'⟩ := query
  cases r with
  | error f =>
    -- the query's own fault: degraded or passed on
    dsimp only
    rw [runFrom_degraded]
    exact ⟨rfl, rfl, degraded_cases [] f⟩
  | ok payload =>
    dsimp only
    rw [runFrom_bind, runFrom_except, rowsOf_eq]
    cases hl : listed? (payload.getD "output" .null) with
    | none =>
      -- a member that holds no list is an unreadable answer
      dsimp only
      rw [if_pos (by simp [Fault.parse])]
      refine ⟨rfl, rfl, ?_⟩
      simp only [RankedFrom, hl]
      all_goals rfl
    | some rows =>
      dsimp only
      have hslice : Json.sliceTo rows (.int (k : Int)) = .ok (rows.take k) := by
        simp only [Json.sliceTo, Json.index?, if_neg (Int.not_lt.2 (Int.natCast_nonneg _)),
          Int.toNat_natCast]
      rw [runFrom_bind, runFrom_except, hslice]
      dsimp only
      rw [runFrom_mapM_except (g := fun p : Json × Nat => Entry.ofRow p.1 (.int (p.2 + 1))) (fun _ => rfl)]
      cases hm : (rows.take k).zipIdx.mapM
          (fun p : Json × Nat => Entry.ofRow p.1 (.int (p.2 + 1))) with
      | ok es =>
        refine ⟨rfl, rfl, ?_⟩
        simp only [RankedFrom, hl]
        exact .inl ⟨es, rankedAs_of_mapM hm, rfl⟩
      | error f =>
        -- the first row that does not read: its fault is degraded or passed on
        dsimp only
        rw [runFrom_degraded]
        refine ⟨rfl, rfl, ?_⟩
        simp only [RankedFrom, hl]
        exact readsRows_of_error hm

theorem fetchRanking_run (send : Http.Request → StateM σ Http.Outcome)
    (clock : StateM σ Number) (c : Client) (n : Option Int) (tc : TokenCache) (s : σ) :
    RankingOf (rankCount n)
      (runFrom (c.get (onSession send) (StateT.lift clock) rankingPath rankingParams rankingTrId) tc s)
      (runFrom (fetchRanking (onSession send) (StateT.lift clock) c (rankArg n)) tc s) := by
  -- the limit is the whole number `rankCount n`; the rest reads the query's answer
  unfold fetchRanking
  rw [runFrom_bind_ok (by rw [runFrom_except, rankLimit_rankArg])]
  exact rankingOf_query _ (rankCount n) _ tc s

/-- A ranking run is its query run followed by pure steps: it leaves the session and the
token cache as the query does, and its outcome is what `RankedFrom` gives for the query's
outcome, reading the first `rankCount n` rows. -/
theorem ranking_reads_prefix (send : Http.Request → StateM σ Http.Outcome)
    (clock : StateM σ Number) (c : Client) (n : Option Int) (tc : TokenCache) (s : σ) :
    RankingOf (rankCount n)
      (runFrom (c.get (onSession send) (StateT.lift clock) rankingPath rankingParams rankingTrId) tc s)
      (runFrom (fetchRanking (onSession send) (StateT.lift clock) c (rankArg n)) tc s) :=
  fetchRanking_run send clock c n tc s

end Run

/-- A ranking row whose amount reads `inf`. -/
def infiniteAmountRow : Json :=
  .obj [("mksc_shrn_iscd", .str "005930"), ("hts_kor_isnm", .str "A"), ("stck_prpr", .str "1"),
    ("prdy_ctrt", .str "1"), ("acml_vol", .str "1"), ("acml_tr_pbmn", .str "inf")]

/-- A session that grants the token `tok` and answers every query with that row, then a row
whose code is not a stock code. -/
def infiniteAmountSession (q : Http.Request) : StateM Unit Http.Outcome :=
  let payload : Json :=
    if q.method = "POST" then .obj [("access_token", .str "tok")]
    else .obj [("output", .arr [infiniteAmountRow, .obj [("mksc_shrn_iscd", .str "bad")]])]
  pure (.answer { status := .int 200, body := Json.write true payload })

/-- The top entry, when its amount reads `inf`, fails the ranking with an overflow instead of
giving no entries. -/
theorem infinite_amount_fails_top_ranking :
    (match (runFrom (fetchRanking (onSession infiniteAmountSession)
        (StateT.lift (pure (.double 0)))
        (Client.create "https://kis.example.com" (.str "key") (.str "secret")) (.int 1))
        (TokenCache.create (.int 86400)) ()).1.1 with
      | .error f => f.kind == .overflow && f.text == "cannot convert float infinity to integer"
      | .ok _ => false) = true := by
  decide +kernel

end MarketData

end RankAdvisor
