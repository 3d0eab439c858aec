import RankAdvisor.Proofs.ProviderCalls

/-! # How a market data query ends

`Client.issueToken` and `Client.get` on any session, for every outcome of their requests:
what each sends, what it leaves in the cache, and what it ends with.

Asking for a token sends the token request and nothing else, and leaves the cache alone. It
returns the `access_token` member of an object answer whenever that member is not empty,
whatever its type, and otherwise fails with a refused credential or, for a body nested too
deep to read, with that fault.

A query takes a token from the cache first. When that fails, the query fails in the same way,
with a refused credential. Otherwise it sends one request, the query carrying that token,
and sorts the answer: a failure of the wire and an error status (400 to 599) are transport
failures, the second carrying its status. Every other status, a redirection or 600 and above
included, lets the body be read, and an object body is returned.
-/

namespace RankAdvisor

set_option autoImplicit false

namespace MarketData

/-! ## Steps that leave the cache and the session alone -/

section Still

variable {σ α β : Type}

/-- A computation that changes neither the cache nor the session, and ends as `Settles P Q`
allows. -/
def Still (P : Fault → Prop) (Q : α → Prop) (x : ExceptT Fault (OnSession σ) α) : Prop :=
  ∀ c s, ∃ e, runFrom x c s = ((e, c), s) ∧ Settles P Q e

namespace Still

variable {P : Fault → Prop} {Q : α → Prop} {R : β → Prop}

theorem pure {a : α} (h : Q a) : Still P Q (Pure.pure a : ExceptT Fault (OnSession σ) α) :=
  fun _ _ => ⟨_, rfl, Settles.of_ok h⟩

theorem throw {f : Fault} (h : P f) :
    Still P Q (MonadExcept.throw f : ExceptT Fault (OnSession σ) α) :=
  fun _ _ => ⟨_, rfl, Settles.of_error h⟩

theorem ofExcept {e : Except Fault α} (h : Settles P Q e) :
    Still P Q (ExceptT.mk (Pure.pure e) : ExceptT Fault (OnSession σ) α) :=
  fun _ _ => ⟨e, rfl, h⟩

theorem bind {x : ExceptT Fault (OnSession σ) α} {g : α → ExceptT Fault (OnSession σ) β}
    (hx : Still P Q x) (hg : ∀ a, Q a → Still P R (g a)) : Still P R (x >>= g) := by
  intro c s
  obtain ⟨e, hrun, hend⟩ := hx c s
  rw [runFrom_bind, hrun]
  cases e with
  | ok a => exact hg a (Settles.ok_iff.1 hend) c s
  | error f => exact ⟨_, rfl, Settles.of_error (Settles.error_iff.1 hend)⟩

theorem throw_bind {f : Fault} {g : α → ExceptT Fault (OnSession σ) β} (h : P f) :
    Still P R (MonadExcept.throw f >>= g) :=
  (throw (Q := fun _ => False) h).bind fun _ h => h.elim

end Still

theorem runFrom_send_bind (send : Http.Request → StateM σ Http.Outcome) (q : Http.Request)
    (g : Http.Outcome → ExceptT Fault (OnSession σ) α) (c : TokenCache) (s : σ) :
    runFrom (ExceptT.lift ((onSession send).send q) >>= g) c s =
      runFrom (g ((send q).run s).1) c ((send q).run s).2 := by
  rw [runFrom_bind]
  rfl

end Still

/-! ## Issuing a token -/

/-- A token the service granted: the non-empty `access_token` member of an object answer
whose status is not an error, of whatever type. -/
def Granted (out : Http.Outcome) (t : Json) : Prop :=
  ∃ r k fs, out = .answer r ∧ r.status = .int k ∧ ¬ (400 ≤ k ∧ k < 600) ∧
    r.json = .ok (.obj fs) ∧ (Json.obj fs).get? "access_token" = some t ∧ t.isEmptyish = false

/-- The faults of asking for a token: a refused credential, or a body nested too deep. -/
def IssueFault (g : Fault) : Prop := g.kind = .auth ∨ g.kind = .recursion

theorem tokenOf_settles (payload : Json) :
    Settles IssueFault (fun t => ∃ fs, payload = .obj fs ∧
      (Json.obj fs).get? "access_token" = some t ∧ t.isEmptyish = false) (Client.tokenOf payload) := by
  unfold Client.tokenOf
  split
  · rename_i fs
    split
    · rename_i t ht
      split
      · exact Settles.of_error (.inl rfl)
      · rename_i hfull
        exact Settles.of_ok ⟨fs, rfl, ht, by simpa using hfull⟩
    · exact Settles.of_error (.inl rfl)
  · exact Settles.of_error (.inl rfl)

/-! ## Queries -/

/-- What a query returns: the object body of an answer whose status is not an error. -/
def Queried (out : Http.Outcome) (v : Json) : Prop :=
  ∃ r k fs, out = .answer r ∧ r.status = .int k ∧ ¬ (400 ≤ k ∧ k < 600) ∧
    r.json = .ok (.obj fs) ∧ v = .obj fs

/-- The faults a query ends with once sent: a transport failure for a wire failure or an
error status; past the status, a fault passed on from reading the body, an unreadable body,
or one that is not an object. -/
def QueryRefused (out : Http.Outcome) (g : Fault) : Prop :=
  (∃ f, out = .failure f ∧ g.kind = .transport ∧ g.status = none) ∨
  ∃ r k, out = .answer r ∧ r.status = .int k ∧
    (400 ≤ k ∧ k < 600 ∧ g.kind = .transport ∧ g.status = some (.int k) ∨
     ¬ (400 ≤ k ∧ k < 600) ∧
      ((∃ v, r.json = .ok v ∧ (∀ fs, v ≠ .obj fs) ∧ g.kind = .parse ∧ g.status = none) ∨
       ∃ e, r.json = .error e ∧
        (e.passOn? = some g ∨ e.passOn? = none ∧ g.kind = .parse ∧ g.status = none)))

section Session

variable {σ : Type} (send : Http.Request → StateM σ Http.Outcome)

/-- Asking for a token sends the token request alone and keeps the cache; it returns the
token the service granted, or fails with a refused credential or a body nested too deep. -/
theorem issueToken_run (c : Client) (hsend : ∀ q s, WireOutcome ((send q).run s).1)
    (cache : TokenCache) (s : σ) :
    ∃ e, runFrom (c.issueToken (onSession send)) cache s =
        ((e, cache), ((send c.tokenRequest).run s).2) ∧
      Settles IssueFault (Granted ((send c.tokenRequest).run s).1) e := by
  unfold Client.issueToken
  rw [runFrom_send_bind]
  have hout := hsend c.tokenRequest s
  generalize ((send c.tokenRequest).run s).1 = out at hout ⊢
  refine (show Still IssueFault (Granted out) _ from ?_) cache _
  extract_lets answered
  -- an answer with a whole-number status: its status, then its body
  have hanswered : ∀ r k, out = .answer r → r.status = .int k →
      Still IssueFault (Granted out) (answered r) := by
    intro r k hr hk
    obtain ⟨t, ht, hnone⟩ := Http.Response.statusText_of_int hk
    simp only [answered]
    refine (Still.ofExcept (Q := (· = t)) (by rw [ht]; exact Settles.of_ok rfl)).bind fun _ h => ?_
    subst h
    split
    · exact Still.throw_bind (.inl rfl)
    rename_i hnot
    have hfine : ¬ (400 ≤ k ∧ k < 600) := by
      rw [Option.eq_none_iff_forall_ne_some.2 hnot, Option.isNone_none, Bool.true_eq,
        decide_eq_true_iff] at hnone
      omega
    split
    · rename_i payload hjson
      refine Still.ofExcept ((tokenOf_settles payload).mono (fun _ h => h) ?_)
      rintro t ⟨fs, rfl, hget, hfull⟩
      exact ⟨r, k, fs, hr, hk, hfine, hjson, hget, hfull⟩
    · split
      · rename_i g hg
        exact Still.throw (.inr (passOn?_kind hg))
      · split <;> exact Still.throw (.inl rfl)
  cases out with
  | answer r =>
    obtain ⟨k, hk⟩ := hout
    exact (Still.pure rfl).bind fun _ h => h ▸ hanswered r k rfl hk
  | failure f =>
    -- the session fails only on the wire, and such a failure is a refused credential
    have hwire : f.kind.isWire = true := hout
    dsimp only
    rw [if_pos hwire]
    exact Still.throw_bind (.inl rfl)

theorem get_of_token_fault (clock : StateM σ Number) (c : Client) (path : String) (params : Json)
    (trId : String) {cache cache' : TokenCache} {s s' : σ} {f : Fault}
    (htok : runFrom (TokenCache.get (c.issueToken (onSession send)).run (StateT.lift clock)) cache s =
      ((.error f, cache'), s')) :
    runFrom (c.get (onSession send) (StateT.lift clock) path params trId) cache s =
      ((.error f, cache'), s') := by
  unfold Client.get
  rw [runFrom_bind, htok]

/-- A query whose token step gives the token `t` sends the query carrying `t` and nothing
else, keeps the cache the token step left, and sorts the answer. -/
theorem get_of_token (clock : StateM σ Number) (c : Client) (path : String) (params : Json)
    (trId : String) (hsend : ∀ q s, WireOutcome ((send q).run s).1) {cache cache' : TokenCache}
    {s s' : σ} {t : Json}
    (htok : runFrom (TokenCache.get (c.issueToken (onSession send)).run (StateT.lift clock)) cache s =
      ((.ok t, cache'), s')) :
    ∃ e, runFrom (c.get (onSession send) (StateT.lift clock) path params trId) cache s =
        ((e, cache'), ((send (c.queryRequest t path params trId)).run s').2) ∧
      Settles (QueryRefused ((send (c.queryRequest t path params trId)).run s').1)
        (Queried ((send (c.queryRequest t path params trId)).run s').1) e := by
  unfold Client.get
  rw [runFrom_bind, htok]
  dsimp only
  rw [runFrom_send_bind]
  have hout := hsend (c.queryRequest t path params trId) s'
  generalize ((send (c.queryRequest t path params trId)).run s').1 = out at hout ⊢
  refine (show Still (QueryRefused out) (Queried out) _ from ?_) cache' _
  cases out with
  | answer r =>
    obtain ⟨k, hk⟩ := hout
    dsimp only
    refine (Still.pure (Q := (r = ·)) rfl).bind fun _ h => ?_
    subst h
    refine (Still.ofExcept (Q := (decide (k < 400 ∨ 600 ≤ k) = ·))
      (by rw [Http.Response.ok_of_int hk]; exact Settles.of_ok rfl)).bind fun _ h => ?_
    subst h
    split
    · rename_i hbad
      have herr : 400 ≤ k ∧ k < 600 := by
        simp only [Bool.not_eq_true', decide_eq_false_iff_not] at hbad
        omega
      exact Still.throw_bind (.inr ⟨r, k, rfl, hk, .inl ⟨herr.1, herr.2, rfl, congrArg some hk⟩⟩)
    rename_i hfine
    have hfine' : ¬ (400 ≤ k ∧ k < 600) := by
      intro herr
      apply hfine
      simp only [Bool.not_eq_true', decide_eq_false_iff_not]
      omega
    -- the body of an answer whose status is not an error
    split
    · rename_i _ fs hjson
      exact Still.pure ⟨r, k, fs, rfl, hk, hfine', hjson, rfl⟩
    · rename_i _ payload hnot hjson
      exact Still.throw (.inr ⟨r, k, rfl, hk, .inr ⟨hfine', .inl ⟨payload, hjson, hnot, rfl, rfl⟩⟩⟩)
    · rename_i _ e hjson
      split
      · rename_i g hg
        exact Still.throw (.inr ⟨r, k, rfl, hk, .inr ⟨hfine', .inr ⟨e, hjson, .inl hg⟩⟩⟩)
      · rename_i hg
        have hnone : e.passOn? = none := Option.eq_none_iff_forall_ne_some.2 hg
        exact Still.throw (.inr ⟨r, k, rfl, hk, .inr ⟨hfine', .inr ⟨e, hjson, .inr ⟨hnone, rfl, rfl⟩⟩⟩⟩)
  | failure f =>
    obtain ⟨wf, hwf⟩ := FaultKind.eq_wire_of_isWire (show f.kind.isWire = true from hout)
    dsimp only
    simp only [hwf]
    split <;> exact Still.throw_bind (.inl ⟨f, rfl, rfl, rfl⟩)

/-- How the market data client's calls end on a session of wire outcomes: the token request
goes out alone, a failed token step fails the query, and otherwise the query carries the
cached token and ends as `QueryRefused` sorts it. -/
theorem queries_sort_outcomes (clock : StateM σ Number) (c : Client) (path : String)
    (params : Json) (trId : String) (cache : TokenCache) (s : σ)
    (hsend : ∀ q s, WireOutcome ((send q).run s).1)
    (hclock : ∀ s, ∃ x, (clock.run s).1 = .double x) (hL : Leased cache.lease) :
    (∃ e, runFrom (c.issueToken (onSession send)) cache s =
        ((e, cache), ((send c.tokenRequest).run s).2) ∧
      Settles IssueFault (Granted ((send c.tokenRequest).run s).1) e) ∧
    (∀ f cache' s',
      runFrom (TokenCache.get (c.issueToken (onSession send)).run (StateT.lift clock)) cache s =
        ((.error f, cache'), s') →
      runFrom (c.get (onSession send) (StateT.lift clock) path params trId) cache s =
        ((.error f, cache'), s') ∧ f.kind = .auth) ∧
    ∀ t cache' s',
      runFrom (TokenCache.get (c.issueToken (onSession send)).run (StateT.lift clock)) cache s =
        ((.ok t, cache'), s') →
      ∃ e, runFrom (c.get (onSession send) (StateT.lift clock) path params trId) cache s =
          ((e, cache'), ((send (c.queryRequest t path params trId)).run s').2) ∧
        Settles (QueryRefused ((send (c.queryRequest t path params trId)).run s').1)
          (Queried ((send (c.queryRequest t path params trId)).run s').1) e := by
  refine ⟨issueToken_run send c hsend cache s, fun f cache' s' htok => ⟨?_, ?_⟩,
    fun t cache' s' htok => get_of_token send clock c path params trId hsend htok⟩
  · exact get_of_token_fault send clock c path params trId htok
  · -- the token step fails only with a refused credential
    have hruns := tokenGet_runs (c.issueToken (onSession send)).run clock (issueToken_runs send c)
      hclock hL cache s rfl
    rw [htok] at hruns
    exact hruns.2

end Session

def sampleClient : Client := Client.create "https://kis.example.com" (.str "key") (.str "secret")

/-- A session that grants the token `tok` and answers every query with a redirection and
an empty object. -/
def redirectSession (q : Http.Request) : StateM Unit Http.Outcome :=
  let granting := q.method = "POST"
  let payload : Json := if granting then .obj [("access_token", .str "tok")] else .obj []
  pure (.answer { status := .int (if granting then 200 else 302), body := Json.write true payload })

theorem queries_sort_outcomes_redirect :
    (∀ q s, WireOutcome ((redirectSession q).run s).1) ∧ Leased (.num 86400) ∧
    ∃ e, runFrom (sampleClient.issueToken (onSession redirectSession))
        (TokenCache.create (.num 86400)) () = ((e, TokenCache.create (.num 86400)), ()) ∧
      Settles IssueFault (Granted ((redirectSession sampleClient.tokenRequest).run ()).1) e :=
  have hsend : ∀ q s, WireOutcome ((redirectSession q).run s).1 := fun _ _ => ⟨_, rfl⟩
  have hclock : ∀ s, ∃ x, ((pure (.double 0) : StateM Unit Number).run s).1 = .double x :=
    fun _ => ⟨0, rfl⟩
  have hL : Leased (.num 86400) := ⟨_, _, rfl, rfl⟩
  ⟨hsend, hL, (queries_sort_outcomes redirectSession (pure (.double 0)) sampleClient "/p" (.obj [])
    "T" (TokenCache.create (.num 86400)) () hsend hclock hL).1⟩

/-- A session that grants the number 123 as a token. -/
def numberTokenSession (_ : Http.Request) : StateM Unit Http.Outcome :=
  pure (.answer { status := .int 200, body := Json.write true (.obj [("access_token", .int 123)]) })

/-- A query answered with a redirection is not a transport failure: its body is returned.
And a token that is a number is returned as it is. -/
theorem redirect_query_returns_body :
    (match (runFrom (sampleClient.get (onSession redirectSession) (StateT.lift (pure (.double 0)))
        "/p" (.obj []) "T") (TokenCache.create (.int 86400)) ()).1.1 with
      | .ok (.obj []) => true
      | _ => false) = true ∧
    (match (runFrom (sampleClient.issueToken (onSession numberTokenSession))
        (TokenCache.create (.int 86400)) ()).1.1 with
      | .ok (.int 123) => true
      | _ => false) = true :=
  ⟨by decide +kernel, by decide +kernel⟩

end MarketData

end RankAdvisor
