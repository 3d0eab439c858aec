import RankAdvisor.MarketData.Feed
import RankAdvisor.Proofs.PoolSlots

/-! # How the market data feeds can fail

The ranking and chart feeds degrade a transport failure or an unreadable answer to no
entries or no bars. What else can come out of them is read off their steps with a few
rules (`Runs`): a run on a session whose token cache keeps a lease that adds to the
clock, ending with a value or a fault of the kinds allowed.

On any session whose answers carry whole-number statuses and whose failures are
failures of the wire, with a clock that reads doubles, the feeds fail only with a refused
credential, a whole-number field spelled as an infinite number (it overflows), or an
answer nested too deep to read (`ranking_runs`, `chart_runs`).
-/

namespace RankAdvisor
set_option autoImplicit false

namespace MarketData

/-- The feeds' computations on a session with state `σ`, under the token cache. -/
abbrev OnSession (σ : Type) := StateT TokenCache (StateM σ)

/-- A wire on a session: requests go out through the session and leave the cache alone. -/
def onSession {σ : Type} (send : Http.Request → StateM σ Http.Outcome) : Http.Wire (OnSession σ) :=
  ⟨fun q => StateT.lift (send q)⟩

/-- What a run may end with: a value satisfying `Q`, or a fault whose kind satisfies `P`. -/
def Ends {α : Type} (P : FaultKind → Prop) (Q : α → Prop) : Except Fault α → Prop
  | .ok a => Q a
  | .error f => P f.kind

section Runs

variable {σ α β : Type}

/-- A run of `x` from the cache `c` and the session state `s`. -/
def runFrom (x : ExceptT Fault (OnSession σ) α) (c : TokenCache) (s : σ) :
    (Except Fault α × TokenCache) × σ :=
  (x.run.run c).run s

/-- Every run of `x` from a cache with lease `L` keeps the lease and ends as `P` and `Q`
allow. -/
def Runs (L : Json) (P : FaultKind → Prop) (Q : α → Prop) (x : ExceptT Fault (OnSession σ) α) :
    Prop :=
  ∀ c s, c.lease = L → (runFrom x c s).1.2.lease = L ∧ Ends P Q (runFrom x c s).1.1

theorem runFrom_bind (x : ExceptT Fault (OnSession σ) α) (g : α → ExceptT Fault (OnSession σ) β)
    (c : TokenCache) (s : σ) :
    runFrom (x >>= g) c s =
      match runFrom x c s with
      | ((.ok a, c'), s') => runFrom (g a) c' s'
      | ((.error f, c'), s') => ((.error f, c'), s') := by
  simp only [runFrom, ExceptT.run_bind, StateT.run_bind]
  rcases (x.run.run c).run s with ⟨⟨r, c'⟩, s'⟩
  cases r <;> rfl

theorem runFrom_tryCatch (x : ExceptT Fault (OnSession σ) α)
    (handle : Fault → ExceptT Fault (OnSession σ) α) (c : TokenCache) (s : σ) :
    runFrom (tryCatch x handle) c s =
      match runFrom x c s with
      | ((.ok a, c'), s') => ((.ok a, c'), s')
      | ((.error f, c'), s') => runFrom (handle f) c' s' := by
  show runFrom (ExceptT.tryCatch x handle) c s = _
  simp only [runFrom, ExceptT.tryCatch, ExceptT.mk, ExceptT.run, StateT.run_bind]
  rcases StateT.run (StateT.run x c) s with ⟨⟨r, c'⟩, s'⟩
  cases r <;> rfl

theorem Ends.bind {P : FaultKind → Prop} {Q : α → Prop} {R : β → Prop} {e : Except Fault α}
    {g : α → Except Fault β} (he : Ends P Q e) (hg : ∀ a, Q a → Ends P R (g a)) :
    Ends P R (e >>= g) := by
  cases e with
  | error f => exact he
  | ok a => exact hg a he

theorem Ends.ite {P : FaultKind → Prop} {Q : α → Prop} {c : Prop} [Decidable c]
    {a b : Except Fault α} (ha : c → Ends P Q a) (hb : ¬c → Ends P Q b) :
    Ends P Q (if c then a else b) := by
  by_cases hc : c
  · rw [if_pos hc]
    exact ha hc
  · rw [if_neg hc]
    exact hb hc

theorem Ends.mono {P P' : FaultKind → Prop} {Q Q' : α → Prop} {e : Except Fault α}
    (he : Ends P Q e) (hP : ∀ k, P k → P' k) (hQ : ∀ a, Q a → Q' a) : Ends P' Q' e := by
  cases e with
  | error f => exact hP _ he
  | ok a => exact hQ a he

namespace Runs

variable {L : Json} {P : FaultKind → Prop} {Q : α → Prop}

theorem pure {a : α} (h : Q a) : Runs L P Q (Pure.pure a : ExceptT Fault (OnSession σ) α) :=
  fun _ _ hc => ⟨hc, h⟩

theorem ofExcept {e : Except Fault α} (h : Ends P Q e) :
    Runs L P Q (ExceptT.mk (Pure.pure e) : ExceptT Fault (OnSession σ) α) :=
  fun _ _ hc => ⟨hc, h⟩

theorem throw {f : Fault} (h : P f.kind) : Runs L P Q (MonadExcept.throw f : ExceptT Fault (OnSession σ) α) :=
  fun _ _ hc => ⟨hc, h⟩

theorem bind {R : β → Prop} {x : ExceptT Fault (OnSession σ) α}
    {g : α → ExceptT Fault (OnSession σ) β} (hx : Runs L P Q x) (hg : ∀ a, Q a → Runs L P R (g a)) :
    Runs L P R (x >>= g) := by
  intro c s hc
  obtain ⟨hc', hend⟩ := hx c s hc
  rw [runFrom_bind]
  rcases h : runFrom x c s with ⟨⟨r, c'⟩, s'⟩
  rw [h] at hc' hend
  cases r with
  | error f => exact ⟨hc', hend⟩
  | ok a => exact hg a hend c' s' hc'

theorem throw_bind {R : β → Prop} {f : Fault} {g : α → ExceptT Fault (OnSession σ) β}
    (h : P f.kind) : Runs L P R (MonadExcept.throw f >>= g) :=
  (Runs.throw (Q := fun _ => False) h).bind fun _ h => h.elim

theorem mono {P' : FaultKind → Prop} {Q' : α → Prop} {x : ExceptT Fault (OnSession σ) α}
    (h : Runs L P Q x) (hP : ∀ k, P k → P' k) (hQ : ∀ a, Q a → Q' a) : Runs L P' Q' x := by
  intro c s hc
  obtain ⟨hc', hend⟩ := h c s hc
  exact ⟨hc', hend.mono hP hQ⟩

theorem lift {m : StateM σ α} (h : ∀ s, Q (m.run s).1) :
    Runs L P Q (ExceptT.lift (StateT.lift m) : ExceptT Fault (OnSession σ) α) :=
  fun _ s hc => ⟨hc, h s⟩

theorem lift_run {P' : FaultKind → Prop} {Q' : α → Prop} {x : ExceptT Fault (OnSession σ) α}
    (h : Runs L P' Q' x) : Runs L P (fun _ => True) (ExceptT.lift x.run) := by
  intro c s hc
  exact ⟨(h c s hc).1, trivial⟩

theorem getCache : Runs L P (fun c => c.lease = L) (getThe TokenCache : ExceptT Fault (OnSession σ) TokenCache) :=
  fun _ _ hc => ⟨hc, hc⟩

theorem setCache {c' : TokenCache} (h : c'.lease = L) :
    Runs L P (fun _ => True) (set c' : ExceptT Fault (OnSession σ) PUnit) :=
  fun _ _ _ => ⟨h, trivial⟩

/-- A degraded fetch: transport failures and unreadable answers give the fallback. -/
theorem degrade {P' : FaultKind → Prop} {x : ExceptT Fault (OnSession σ) α} {fallback : α}
    (h : Runs L P Q x) (hfb : Q fallback)
    (hP : ∀ k, P k → k = .transport ∨ k = .parse ∨ P' k) :
    Runs L P' Q (MarketData.degrade fallback x) := by
  intro c s hc
  obtain ⟨hc', hend⟩ := h c s hc
  unfold MarketData.degrade
  rw [runFrom_tryCatch]
  rcases hr : runFrom x c s with ⟨⟨r, c'⟩, s'⟩
  rw [hr] at hc' hend
  cases r with
  | ok a => exact ⟨hc', hend⟩
  | error f =>
    simp only
    split
    · exact ⟨hc', hfb⟩
    · rename_i hkind
      rcases hP _ hend with ht | hp | hP'
      · simp [ht] at hkind
      · simp [hp] at hkind
      · exact ⟨hc', hP'⟩

theorem mapM {l : List α} {g : α → ExceptT Fault (OnSession σ) β}
    (h : ∀ a ∈ l, Runs L P (fun _ => True) (g a)) : Runs L P (fun _ => True) (l.mapM g) := by
  induction l with
  | nil => exact Runs.pure trivial
  | cons a as ih =>
    rw [List.mapM_cons]
    refine (h a List.mem_cons_self).bind fun b _ => ?_
    refine (ih fun a' ha' => h a' (List.mem_cons_of_mem _ ha')).bind fun bs _ => ?_
    exact Runs.pure trivial

theorem filterMapM {l : List α} {g : α → ExceptT Fault (OnSession σ) (Option β)}
    (h : ∀ a ∈ l, Runs L P (fun _ => True) (g a)) : Runs L P (fun _ => True) (l.filterMapM g) := by
  induction l with
  | nil =>
    rw [List.filterMapM_nil]
    exact Runs.pure trivial
  | cons a as ih =>
    rw [List.filterMapM_cons]
    have hrest := ih fun a' ha' => h a' (List.mem_cons_of_mem _ ha')
    refine (h a List.mem_cons_self).bind fun o _ => ?_
    cases o with
    | none => exact hrest
    | some b => exact hrest.bind fun bs _ => Runs.pure trivial

end Runs

end Runs

/-! ## Reading answers and rows -/

open Market

/-- The faults of reading rows: a row that cannot be read, or a whole number that
overflows. -/
def RowFault (k : FaultKind) : Prop := k = .parse ∨ k = .overflow

theorem clean_ends (v : Json) (field : String) :
    Ends (· = .parse) (fun _ => True) (Field.clean v field) := by
  -- read the failure off the definition: splitting it in the goal makes Lean try to
  -- evaluate the trimmed text
  cases h : Field.clean v field with
  | ok t => trivial
  | error f =>
    unfold Field.clean at h
    split at h
    · cases h
      rfl
    · generalize String.ofList _ = t at h
      dsimp only at h
      split at h
      · cases h
        rfl
      · cases h

theorem readDecimal_ends (v : Json) (field : String) :
    Ends (· = .parse) (fun _ => True) (Field.readDecimal v field) := by
  unfold Field.readDecimal
  refine (clean_ends v field).bind fun t _ => ?_
  split
  · trivial
  · rfl

theorem readWhole_ends (v : Json) (field : String) :
    Ends RowFault (fun _ => True) (Field.readWhole v field) := by
  unfold Field.readWhole
  refine ((clean_ends v field).mono (fun k hk => .inl hk) fun _ h => h).bind fun t _ => ?_
  split
  · trivial
  · split
    · exact .inl rfl
    · split
      · exact .inl rfl
      · split
        · exact .inr rfl
        · split
          · trivial
          · exact .inl rfl

theorem readDecimal_row (v : Json) (field : String) :
    Ends RowFault (fun _ => True) (Field.readDecimal v field) :=
  (readDecimal_ends v field).mono (fun _ hk => .inl hk) fun _ h => h

theorem readTradeDate_ends (v : Json) (field : String) :
    Ends (· = .parse) (fun _ => True) (Field.readTradeDate v field) := by
  unfold Field.readTradeDate
  refine (clean_ends v field).bind fun t _ => ?_
  split
  · trivial
  · rfl

theorem ofRow_ends (row rank : Json) : Ends RowFault (fun _ => True) (Entry.ofRow row rank) := by
  unfold Entry.ofRow
  dsimp only
  split
  · refine Ends.ite (fun _ => .inl rfl) fun _ => ?_
    refine (readDecimal_row _ _).bind fun _ _ => (readDecimal_row _ _).bind fun _ _ => ?_
    exact (readWhole_ends _ _).bind fun _ _ => (readWhole_ends _ _).bind fun _ _ => trivial
  · exact .inl rfl

theorem barOfRow_ends (code row : Json) : Ends RowFault (fun _ => True) (Bar.ofRow code row) := by
  unfold Bar.ofRow
  dsimp only
  split
  · refine Ends.ite (fun _ => trivial) fun _ => ?_
    refine ((readTradeDate_ends _ _).mono (fun _ hk => .inl hk) fun _ h => h).bind fun _ _ => ?_
    refine (readDecimal_row _ _).bind fun _ _ => (readDecimal_row _ _).bind fun _ _ => ?_
    refine (readDecimal_row _ _).bind fun _ _ => ?_
    exact (readDecimal_row _ _).bind fun _ _ => (readWhole_ends _ _).bind fun _ _ => trivial
  · exact .inl rfl

theorem rowsOf_ends (payload : Json) (key : String) (malformed : String → String) :
    Ends (· = .parse) (fun _ => True) (rowsOf payload key malformed) := by
  unfold rowsOf
  refine Ends.ite (fun _ => trivial) fun _ => ?_
  split
  · trivial
  · rfl

theorem sliceTo_int {α : Type} (xs : List α) (k : Int) : ∃ ys, Json.sliceTo xs (.int k) = .ok ys :=
  ⟨_, rfl⟩

theorem smaller_int (a b : Int) : ∃ j : Int, Json.smaller (.int a) (.int b) = .ok (.int j) := by
  simp only [Json.smaller, Pool.lt_int, bind, Except.bind, pure, Except.pure]
  split <;> exact ⟨_, rfl⟩

theorem larger_int (a b : Int) : ∃ j : Int, Json.larger (.int a) (.int b) = .ok (.int j) := by
  simp only [Json.larger, Json.gt, Pool.order_int, bind, Except.bind, pure, Except.pure]
  split <;> exact ⟨_, rfl⟩

theorem rankLimit_int {n : Json} (hn : n = .null ∨ ∃ k : Int, n = .int k) :
    ∃ j : Int, rankLimit n = .ok (.int j) := by
  rcases hn with rfl | ⟨k, rfl⟩
  · exact ⟨_, rfl⟩
  · obtain ⟨i, hi⟩ := smaller_int k maxRankSize
    obtain ⟨j, hj⟩ := larger_int 0 i
    exact ⟨j, by simp only [rankLimit, hi, bind, Except.bind, hj]⟩

/-! ## Tokens and queries -/

/-- A lease that adds to a clock reading: a number that converts to a double. -/
def Leased (L : Json) : Prop := ∃ l y, L.number? = some l ∧ l.toDouble = .ok y

/-- What a session gives a request: an answer with a whole-number status, or a failure of
the wire. -/
def WireOutcome : Http.Outcome → Prop
  | .answer r => ∃ k : Int, r.status = .int k
  | .failure f => f.kind.isWire = true

/-- The faults of a query: a refused credential, a transport failure, an unreadable
answer, or an answer nested too deep to read. -/
def QueryFault (k : FaultKind) : Prop :=
  k = .auth ∨ k = .transport ∨ k = .parse ∨ k = .recursion

theorem Ends.trivial {α : Type} (e : Except Fault α) : Ends (fun _ => True) (fun _ => True) e := by
  cases e <;> exact True.intro

theorem lapse_ok {c : TokenCache} {L : Json} (hc : c.lease = L) (hL : Leased L) (x : Binary64) :
    ∃ t, c.lapse (.double x) = .ok t := by
  obtain ⟨l, y, hl, hy⟩ := hL
  unfold TokenCache.lapse
  rw [hc, hl]
  cases l with
  | whole n =>
    simp only [Number.add, Number.toDouble, bind, Except.bind] at hy ⊢
    rw [hy]
    exact ⟨_, rfl⟩
  | double z => exact ⟨_, rfl⟩

theorem roundFault_kind (f : Fault) : (TokenCache.roundFault f).kind = .auth := by
  unfold TokenCache.roundFault
  split
  · rename_i h
    exact beq_iff_eq.mp h
  · rfl

theorem statusWithin_int {r : Http.Response} {k : Int} (h : r.status = .int k) (lo hi : Int) :
    ∃ b, r.statusWithin lo hi = .ok b := by
  have hle : ∃ b, Json.le (.int lo) (.int k) = .ok b := by
    simp only [Json.le, Pool.order_int, bind, Except.bind]
    split <;> exact ⟨_, rfl⟩
  obtain ⟨b, hb⟩ := hle
  simp only [Http.Response.statusWithin, h, hb, bind, Except.bind]
  cases b with
  | true => exact ⟨_, Pool.lt_int k hi⟩
  | false => exact ⟨_, rfl⟩

theorem ok_int {r : Http.Response} {k : Int} (h : r.status = .int k) : ∃ b, r.ok = .ok b := by
  obtain ⟨b₁, h₁⟩ := statusWithin_int h 400 500
  obtain ⟨b₂, h₂⟩ := statusWithin_int h 500 600
  have htext : ∃ t, r.statusText = .ok t := by
    simp only [Http.Response.statusText, h₁, h₂, bind, Except.bind]
    cases b₁ <;> cases b₂ <;> exact ⟨_, rfl⟩
  obtain ⟨t, ht⟩ := htext
  simp only [Http.Response.ok, ht, bind, Except.bind]
  exact ⟨_, rfl⟩

theorem passOn?_kind {e : Json.ReadFailure} {f : Fault} (h : e.passOn? = some f) :
    f.kind = .recursion := by
  unfold Json.ReadFailure.passOn? at h
  split at h
  · cases h
    rfl
  · cases h

section Token

variable {σ : Type} {L : Json}

theorem issue_runs (issuer : OnSession σ (Except Fault Json)) (clock : StateM σ Number)
    (hiss : Runs L (fun _ => True) (fun _ => True)
      (ExceptT.mk issuer : ExceptT Fault (OnSession σ) Json))
    (hclock : ∀ s, ∃ x, (clock.run s).1 = .double x) (hL : Leased L) :
    Runs L (· = .auth) (fun _ => True) (TokenCache.issue issuer (StateT.lift clock)) := by
  unfold TokenCache.issue
  refine (Runs.lift_run hiss).bind fun r _ => ?_
  extract_lets after
  -- what follows the issuer's answer, once its token is taken
  have hafter : ∀ v, Runs L (· = .auth) (fun _ => True) (after v) := by
    intro v
    simp only [after]
    split
    · exact Runs.throw_bind rfl
    refine (Runs.lift (Q := fun now => ∃ x, now = .double x) hclock).bind fun now hnow => ?_
    refine Runs.getCache.bind fun c hc => ?_
    refine (Runs.setCache (by exact hc)).bind fun _ _ => ?_
    obtain ⟨x, rfl⟩ := hnow
    obtain ⟨t, ht⟩ := lapse_ok hc hL x
    refine (Runs.ofExcept (Q := fun _ => True) (by rw [ht]; exact True.intro)).bind fun _ _ => ?_
    exact (Runs.setCache (by exact hc)).bind fun _ _ => Runs.pure True.intro
  split
  · exact (Runs.pure (Q := fun _ => True) True.intro).bind fun v _ => hafter v
  · exact (Runs.throw (Q := fun _ => True) (roundFault_kind _)).bind fun v _ => hafter v

theorem tokenGet_runs (issuer : OnSession σ (Except Fault Json)) (clock : StateM σ Number)
    (hiss : Runs L (fun _ => True) (fun _ => True)
      (ExceptT.mk issuer : ExceptT Fault (OnSession σ) Json))
    (hclock : ∀ s, ∃ x, (clock.run s).1 = .double x) (hL : Leased L) :
    Runs L (· = .auth) (fun _ => True) (TokenCache.get issuer (StateT.lift clock)) := by
  unfold TokenCache.get
  refine (Runs.lift (Q := fun _ => True) fun _ => True.intro).bind fun now _ => ?_
  refine Runs.getCache.bind fun c _ => ?_
  split
  · exact Runs.pure True.intro
  · exact issue_runs issuer clock hiss hclock hL

theorem issueToken_runs (send : Http.Request → StateM σ Http.Outcome) (c : Client) :
    Runs L (fun _ => True) (fun _ => True) (c.issueToken (onSession send)) := by
  unfold Client.issueToken
  refine (Runs.lift (Q := fun _ => True) fun _ => True.intro).bind fun out _ => ?_
  extract_lets answered
  -- what follows an answer: its status, then its body
  have hanswered : ∀ r, Runs L (fun _ => True) (fun _ => True) (answered r) := by
    intro r
    simp only [answered]
    refine (Runs.ofExcept (Ends.trivial _)).bind fun st _ => ?_
    split
    · exact Runs.throw_bind True.intro
    · split
      · exact Runs.ofExcept (Ends.trivial _)
      · split
        · exact Runs.throw True.intro
        · split <;> exact Runs.throw True.intro
  split
  · exact (Runs.pure (Q := fun _ => True) True.intro).bind fun r _ => hanswered r
  · split
    · exact Runs.throw_bind True.intro
    · split <;> exact Runs.throw_bind True.intro

/-- A query fails only with a refused credential, a transport failure, an unreadable answer
or one nested too deep, on a session whose answers have whole-number statuses and whose
failures are failures of the wire. -/
theorem get_runs (send : Http.Request → StateM σ Http.Outcome) (clock : StateM σ Number)
    (c : Client) (path : String) (params : Json) (trId : String)
    (hsend : ∀ q s, WireOutcome ((send q).run s).1)
    (hclock : ∀ s, ∃ x, (clock.run s).1 = .double x) (hL : Leased L) :
    Runs L QueryFault (fun _ => True)
      (c.get (onSession send) (StateT.lift clock) path params trId) := by
  unfold Client.get
  refine ((tokenGet_runs _ clock (issueToken_runs send c) hclock hL).mono (fun _ hk => .inl hk)
    fun _ h => h).bind fun token _ => ?_
  refine (Runs.lift (Q := WireOutcome) fun s => hsend _ s).bind fun out hout => ?_
  extract_lets answered
  -- an answer with a whole-number status: its status, then its body
  have hanswered : ∀ r : Http.Response, (∃ k : Int, r.status = .int k) →
      Runs L QueryFault (fun _ => True) (answered r) := by
    rintro r ⟨k, hk⟩
    obtain ⟨b, hb⟩ := ok_int hk
    simp only [answered]
    refine (Runs.ofExcept (Q := fun x => x = b) (by rw [hb]; rfl)).bind fun _ hok => ?_
    split
    · exact Runs.throw_bind (.inr (.inl rfl))
    · split
      · exact Runs.pure True.intro
      · exact Runs.throw (.inr (.inr (.inl rfl)))
      · split
        · rename_i hpass
          exact Runs.throw (.inr (.inr (.inr (passOn?_kind hpass))))
        · exact Runs.throw (.inr (.inr (.inl rfl)))
  split
  · rename_i r
    have hr : ∃ k : Int, r.status = .int k := hout
    exact (Runs.pure (Q := fun r : Http.Response => ∃ k : Int, r.status = .int k) hr).bind hanswered
  · -- the session fails only on the wire, and such a failure is a transport failure
    rename_i f
    split
    · split <;> exact Runs.throw_bind (.inr (.inl rfl))
    · rename_i hnot
      cases hk : f.kind <;> simp_all [WireOutcome, FaultKind.isWire]

end Token

/-! ## The feeds -/

/-- The faults that get through a feed's degrading: a refused credential, a whole number
that overflows, or an answer nested too deep. -/
def FeedFault (k : FaultKind) : Prop := k = .auth ∨ k = .overflow ∨ k = .recursion

theorem degraded_fault (k : FaultKind) (hk : QueryFault k ∨ RowFault k) :
    k = .transport ∨ k = .parse ∨ FeedFault k := by
  rcases hk with (rfl | rfl | rfl | rfl) | (rfl | rfl) <;> simp [FeedFault]

section Feeds

variable {σ : Type} {L : Json} (send : Http.Request → StateM σ Http.Outcome)
  (clock : StateM σ Number) (c : Client)

/-- The degraded part of a feed: a query, its rows read off the answer, and what is done
with them. Its faults are those of the query and those of the rows. -/
theorem queryRows_runs {γ : Type} (hsend : ∀ q s, WireOutcome ((send q).run s).1)
    (hclock : ∀ s, ∃ x, (clock.run s).1 = .double x) (hL : Leased L) (path : String)
    (params : Json) (trId key : String) (malformed : String → String)
    {k : List Json → ExceptT Fault (OnSession σ) γ}
    (hk : ∀ rows, Runs L RowFault (fun _ => True) (k rows)) :
    Runs L (fun kind => QueryFault kind ∨ RowFault kind) (fun _ => True)
      (c.get (onSession send) (StateT.lift clock) path params trId >>= fun payload =>
        ExceptT.mk (pure (rowsOf payload key malformed)) >>= k) := by
  refine ((get_runs send clock c _ _ _ hsend hclock hL).mono (fun _ hk => .inl hk)
    fun _ h => h).bind fun payload _ => ?_
  refine (Runs.ofExcept ((rowsOf_ends _ _ _).mono (fun _ hk => .inr (.inl hk))
    fun _ h => h)).bind fun rows _ => ?_
  exact (hk rows).mono (fun _ hk => .inr hk) fun _ h => h

theorem ranking_runs (hsend : ∀ q s, WireOutcome ((send q).run s).1)
    (hclock : ∀ s, ∃ x, (clock.run s).1 = .double x) (hL : Leased L) {n : Json}
    (hn : n = .null ∨ ∃ k : Int, n = .int k) :
    Runs L FeedFault (fun _ => True) (fetchRanking (onSession send) (StateT.lift clock) c n) := by
  obtain ⟨j, hj⟩ := rankLimit_int hn
  unfold fetchRanking
  refine (Runs.ofExcept (Q := fun limit => limit = .int j) (by rw [hj]; rfl)).bind
    fun limit hlimit => ?_
  subst hlimit
  refine Runs.degrade (queryRows_runs send clock c hsend hclock hL _ _ _ _ _ fun rows => ?_)
    True.intro degraded_fault
  -- a whole-number limit cuts the rows, and each row is ranked or fails as a row
  obtain ⟨ys, hys⟩ := sliceTo_int rows j
  refine (Runs.ofExcept (Q := fun _ => True) (by rw [hys]; exact True.intro)).bind fun rows _ => ?_
  refine Runs.mapM fun p _ => ?_
  obtain ⟨row, i⟩ := p
  exact Runs.ofExcept (ofRow_ends _ _)

theorem chart_runs (now : StateM σ DateTime) (hsend : ∀ q s, WireOutcome ((send q).run s).1)
    (hclock : ∀ s, ∃ x, (clock.run s).1 = .double x) (hL : Leased L) (f : ChartFeed)
    (code days : Json)
    (hwindow : ∀ s, ∃ last, f.endDate (now.run s).1 = .ok last ∧
      ∃ span, TradingDay.window last days = .ok span) :
    Runs L FeedFault (fun _ => True)
      (fetchChart (onSession send) (StateT.lift clock) (StateT.lift now) c f code days) := by
  unfold fetchChart
  refine (Runs.lift (Q := fun t => ∃ last, f.endDate t = .ok last ∧
    ∃ span, TradingDay.window last days = .ok span) hwindow).bind fun t ht => ?_
  obtain ⟨last, hlast, hspan⟩ := ht
  refine (Runs.ofExcept (Q := fun x => ∃ span, TradingDay.window x days = .ok span)
    (by rw [hlast]; exact hspan)).bind fun last hspan => ?_
  obtain ⟨span, hspan⟩ := hspan
  refine (Runs.ofExcept (Q := fun _ => True) (by rw [hspan]; trivial)).bind fun span _ => ?_
  obtain ⟨first, last⟩ := span
  refine Runs.degrade (queryRows_runs send clock c hsend hclock hL _ _ _ _ _ fun rows => ?_)
    True.intro degraded_fault
  refine (Runs.filterMapM fun row _ => ?_).bind fun bars _ => Runs.pure True.intro
  exact Runs.ofExcept (barOfRow_ends _ _)

end Feeds

/-- A session that answers every request with status 200 and an empty object. -/
def emptySession (_ : Http.Request) : StateM Unit Http.Outcome :=
  pure (.answer { status := .int 200, body := Json.write true (.obj []) })

end MarketData

end RankAdvisor
