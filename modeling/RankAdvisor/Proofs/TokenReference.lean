import RankAdvisor.MarketData.Token

/-! # The token cache against a reference

What `TokenCache.get` does, once the issuer and the clock are actions of an outside monad
that cannot touch the cache (`get_run`), and a reference written from the cache's contract:
an optional token with its lapse, and the number of tokens issued. A token is served while
its value is not empty and the clock is before its lapse; otherwise the issuer is called
once, a failure or an empty token fails the read and changes nothing, and a token is kept
with its lapse counted from a clock reading taken after the call.

Main statement: `TokenReference.session_cache`. Over any lawful monad, any issuer, clock and
way of moving the clock, any lease that is a double, and any list of reads, clock moves and
invalidations, the cache answers as the reference does and ends as its image.
-/

namespace RankAdvisor

set_option autoImplicit false

namespace TokenCache

def emptyToken : Fault := ⟨.auth, "访问令牌签发失败: 返回的令牌为空", none⟩

section Lawful

variable {n : Type → Type} [Monad n] [LawfulMonad n]

/-! ## Reading the cache through an outside monad -/

theorem run_getThe (c : TokenCache) :
    (getThe TokenCache : ExceptT Fault (StateT TokenCache n) TokenCache).run.run c =
      pure (.ok c, c) := by
  have h : (StateT.get : StateT TokenCache n TokenCache).run c = pure (c, c) := rfl
  simp [getThe, MonadStateOf.get, liftM, monadLift, MonadLift.monadLift, ExceptT.run_lift,
    StateT.run_map, h]

theorem run_set (c c' : TokenCache) :
    (set c' : ExceptT Fault (StateT TokenCache n) PUnit).run.run c = pure (.ok ⟨⟩, c') := by
  have h : (StateT.set c' : StateT TokenCache n PUnit).run c = pure (⟨⟩, c') := rfl
  simp [set, MonadStateOf.set, liftM, monadLift, MonadLift.monadLift, ExceptT.run_lift,
    StateT.run_map, h]

/-- One issue round: a failed or empty answer leaves the cache as it was; otherwise the
count goes up before the lapse is worked out, so a lease that cannot be added to the
clock reading fails the round after the count. -/
theorem issue_run (issuer : n (Except Fault Json)) (clock : n Number) (c : TokenCache) :
    (issue (StateT.lift issuer) (StateT.lift clock)).run.run c = (do
      match ← issuer with
      | .error f => pure (.error (roundFault f), c)
      | .ok v =>
        if v.isEmptyish then pure (.error emptyToken, c)
        else do
          let now ← clock
          pure (match c.lapse now with
            | .ok e => (.ok v, { c with token := some ⟨v, e⟩, issued := c.issued + 1 })
            | .error f => (.error f, { c with issued := c.issued + 1 }))) := by
  simp only [issue, ExceptT.run_bind_lift, StateT.run_bind, StateT.run_lift, bind_assoc,
    pure_bind]
  refine bind_congr fun a => ?_
  cases a with
  | error f =>
    simp only [throw, throwThe, MonadExceptOf.throw, ExceptT.run_bind, ExceptT.run_mk,
      StateT.run_pure, pure_bind]
  | ok v =>
    cases hv : v.isEmptyish with
    | true =>
      simp only [hv, if_true, throw, throwThe, MonadExceptOf.throw, ExceptT.run_bind,
        ExceptT.run_mk, StateT.run_pure, pure_bind, emptyToken]
    | false =>
      simp only [hv, Bool.false_eq_true, if_false, ExceptT.run_bind_lift, StateT.run_bind,
        StateT.run_lift, bind_assoc, pure_bind]
      refine bind_congr fun now => ?_
      -- the count is written back before the lapse can fail
      cases hl : c.lapse now with
      | ok e =>
        simp only [ExceptT.run_bind, StateT.run_bind, run_getThe, pure_bind, run_set,
          ExceptT.run_mk, StateT.run_pure, hl, ExceptT.run_pure]
      | error f =>
        simp only [ExceptT.run_bind, StateT.run_bind, run_getThe, pure_bind, run_set,
          ExceptT.run_mk, StateT.run_pure, hl]

/-- A read: the live token without calling the issuer, or one issue round. -/
theorem get_run (issuer : n (Except Fault Json)) (clock : n Number) (c : TokenCache) :
    (get (StateT.lift issuer) (StateT.lift clock)).run.run c = (do
      let now ← clock
      match c.live? now with
      | some v => pure (.ok v, c)
      | none => (issue (StateT.lift issuer) (StateT.lift clock)).run.run c) := by
  simp only [get, ExceptT.run_bind_lift, StateT.run_bind, StateT.run_lift, bind_assoc, pure_bind]
  refine bind_congr fun now => ?_
  simp only [ExceptT.run_bind, StateT.run_bind, run_getThe, pure_bind]
  cases c.live? now with
  | some v => simp
  | none => rfl

end Lawful

end TokenCache

/-! ## The reference -/

/-- The token cache as its contract describes it: an optional token with its lapse, and
how many tokens were issued. -/
structure TokenReference where
  token : Option (Json × Binary64)
  count : Nat

namespace TokenReference

/-- The cache a reference stands for, under a lease. -/
def cache (lease : Number) (r : TokenReference) : TokenCache :=
  ⟨Json.ofNumber lease, r.token.map fun (v, e) => ⟨v, .double e⟩, r.count⟩

/-- The value served at a clock reading: a cached token whose value is not empty, strictly
before its lapse. -/
def serves (r : TokenReference) (now : Binary64) : Option Json :=
  match r.token with
  | some (v, e) => if !v.isEmptyish && now.lt e then some v else none
  | none => none

/-- What a failing issuer makes of a read: a refused credential passes as it is, anything
else becomes a refused credential naming its cause. -/
def refused (f : Fault) : Fault :=
  if f.kind == .auth then f else ⟨.auth, "访问令牌签发失败: " ++ f.text, none⟩

def dropped (r : TokenReference) : TokenReference := { r with token := none }

section Lawful

variable {n : Type → Type} [Monad n] [LawfulMonad n]

/-- One call of the issuer. A failure or an empty token fails the read and changes nothing;
a token is kept with its lapse counted from a clock reading taken after the call, and
counted. -/
def ask (lease : Binary64) (issuer : n (Except Fault Json)) (clock : n Binary64) :
    StateT TokenReference n (Except Fault Json) := do
  match ← StateT.lift issuer with
  | .error f => pure (.error (refused f))
  | .ok v =>
    if v.isEmptyish then pure (.error TokenCache.emptyToken)
    else do
      let t ← StateT.lift clock
      modify fun r => ⟨some (v, t.add lease), r.count + 1⟩
      pure (.ok v)

/-- A read: the served value without calling the issuer, or one call of it. -/
def read (lease : Binary64) (issuer : n (Except Fault Json)) (clock : n Binary64) :
    StateT TokenReference n (Except Fault Json) := do
  let now ← StateT.lift clock
  match (← get).serves now with
  | some v => pure (.ok v)
  | none => ask lease issuer clock

/-! ## The cache a reference stands for -/

theorem number?_ofNumber (l : Number) : (Json.ofNumber l).number? = some l := by
  cases l <;> rfl

theorem lapse_cache {l : Number} {d : Binary64} (hl : l.toDouble = .ok d) (r : TokenReference)
    (t : Binary64) : (r.cache l).lapse (.double t) = .ok (.double (t.add d)) := by
  have hadd : (Number.double t).add l = .ok (.double (t.add d)) := by
    cases l with
    | whole k =>
      simp only [Number.add, Number.toDouble] at hl ⊢
      simp [hl, bind, Except.bind, pure, Except.pure]
    | double x =>
      obtain rfl : x = d := Except.ok.inj hl
      rfl
  simp only [TokenCache.lapse, cache, number?_ofNumber, hadd]

theorem live?_cache (l : Number) (r : TokenReference) (t : Binary64) :
    (r.cache l).live? (.double t) = r.serves t := by
  unfold TokenCache.live? serves cache
  cases r.token with
  | none => rfl
  | some p => rfl

theorem roundFault_eq_refused (f : Fault) : TokenCache.roundFault f = refused f := rfl

theorem dropped_cache (l : Number) (r : TokenReference) :
    (r.cache l).invalidate = r.dropped.cache l := rfl

theorem read_cache {l : Number} {d : Binary64} (hl : l.toDouble = .ok d)
    (issuer : n (Except Fault Json)) (clock : n Binary64) (r : TokenReference) :
    (TokenCache.get (StateT.lift issuer) (StateT.lift (Number.double <$> clock))).run.run
        (r.cache l) =
      (fun p => (p.1, p.2.cache l)) <$> (read d issuer clock).run r := by
  rw [TokenCache.get_run]
  simp only [read, StateT.run_bind, StateT.run_lift, map_bind, bind_assoc, pure_bind, bind_map_left]
  refine bind_congr fun now => ?_
  simp only [StateT.run_get, pure_bind, live?_cache]
  cases r.serves now with
  | some v => simp
  | none =>
    simp only [TokenCache.issue_run, ask, StateT.run_bind, StateT.run_lift, map_bind, bind_assoc,
      pure_bind]
    refine bind_congr fun a => ?_
    cases a with
    | error f => simp [roundFault_eq_refused]
    | ok v =>
      cases hv : v.isEmptyish with
      | true => simp [hv]
      | false =>
        simp only [hv, Bool.false_eq_true, if_false, StateT.run_bind, StateT.run_lift, map_bind,
          bind_map_left, bind_assoc, pure_bind]
        refine bind_congr fun t => ?_
        -- the lapse is the reference's sum before `cache` is unfolded
        rw [lapse_cache hl]
        simp [cache, StateT.run_modify]

end Lawful

end TokenReference

/-! ## Sessions -/

/-- The steps of a session with the token cache. -/
inductive TokenStep where
  | get
  | advance (seconds : Binary64)
  | invalidate

namespace TokenStep

section Lawful

variable {n : Type → Type} [Monad n] [LawfulMonad n]

/-- A session over a state: a read for each `get`, the outside clock moved for each
`advance`, the token dropped for each `invalidate`; the answers of the reads in order. -/
def session {σ : Type} (read : StateT σ n (Except Fault Json)) (advance : Binary64 → n Unit)
    (drop : σ → σ) : List TokenStep → StateT σ n (List (Option (Except Fault Json)))
  | [] => pure []
  | .get :: steps => do
    let r ← read
    let rs ← session read advance drop steps
    pure (some r :: rs)
  | .advance d :: steps => do
    StateT.lift (advance d)
    let rs ← session read advance drop steps
    pure (none :: rs)
  | .invalidate :: steps => do
    modify drop
    let rs ← session read advance drop steps
    pure (none :: rs)

/-- Two sessions over states related by `f` agree when their reads and drops do: one step
of each kind is matched, and the induction carries it along the list. -/
theorem session_map {ρ σ : Type} (f : ρ → σ) (readρ : StateT ρ n (Except Fault Json))
    (readσ : StateT σ n (Except Fault Json)) (advance : Binary64 → n Unit)
    (dropρ : ρ → ρ) (dropσ : σ → σ)
    (hread : ∀ r, readσ.run (f r) = (fun p => (p.1, f p.2)) <$> readρ.run r)
    (hdrop : ∀ r, dropσ (f r) = f (dropρ r)) (steps : List TokenStep) (r : ρ) :
    (session readσ advance dropσ steps).run (f r) =
      (fun p => (p.1, f p.2)) <$> (session readρ advance dropρ steps).run r := by
  induction steps generalizing r with
  | nil => simp [session]
  | cons step steps ih =>
    cases step with
    | get => simp [session, hread, ih, map_bind]
    | advance d => simp [session, ih, map_bind]
    | invalidate => simp [session, hdrop, ih]

end Lawful

end TokenStep

section Lawful

variable {n : Type → Type} [Monad n] [LawfulMonad n]

/-- A session with the cache, its issuer and clock outside it. -/
def TokenCache.session (issuer : n (Except Fault Json)) (clock : n Binary64)
    (advance : Binary64 → n Unit) (steps : List TokenStep) :
    StateT TokenCache n (List (Option (Except Fault Json))) :=
  TokenStep.session
    (TokenCache.get (StateT.lift issuer) (StateT.lift (Number.double <$> clock))).run
    advance TokenCache.invalidate steps

/-- A session with the reference, under a lease. -/
def TokenReference.session (lease : Binary64) (issuer : n (Except Fault Json))
    (clock : n Binary64) (advance : Binary64 → n Unit) (steps : List TokenStep) :
    StateT TokenReference n (List (Option (Except Fault Json))) :=
  TokenStep.session (TokenReference.read lease issuer clock) advance TokenReference.dropped steps

/-- Over any session, the cache answers as the reference does and ends as its image. -/
theorem TokenReference.session_cache {l : Number} {d : Binary64} (hl : l.toDouble = .ok d)
    (issuer : n (Except Fault Json)) (clock : n Binary64) (advance : Binary64 → n Unit)
    (steps : List TokenStep) (r : TokenReference) :
    (TokenCache.session issuer clock advance steps).run (r.cache l) =
      (fun p => (p.1, p.2.cache l)) <$>
        (TokenReference.session d issuer clock advance steps).run r :=
  TokenStep.session_map (TokenReference.cache l) _ _ advance TokenReference.dropped
    TokenCache.invalidate (TokenReference.read_cache hl issuer clock)
    (TokenReference.dropped_cache l) steps r

end Lawful

end RankAdvisor
