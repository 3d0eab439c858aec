import Mathlib
import RankAdvisor.Proofs.TokenReference

/-! # Callers of the shared token, one step at a time

`TokenCache.get` read as the code runs it on many threads at once. A caller first reads the
token without the lock and checks it against the clock. Under the lock it checks again, then
joins the round in flight or opens one. The leader calls the issuer outside the lock,
bumps the count by a read and a write, reads the clock for the lapse, and under the lock
keeps the token (or, after a failure, only closes the round); only then does it hand the
round's outcome to the callers that joined it.

Every block the lock guards is one step, and so is every read or write outside it. The
issuer's answer is a step of its own, taken by the outside world with any value, and so are
the moves of the clock and `invalidate`. Disabled steps change nothing, so a run is any list
of steps. A caller that is alone and sees no other step ends where `TokenCache.get` ends.
-/

namespace RankAdvisor

namespace TokenCache

set_option autoImplicit false

/-- Where one caller of `get` stands. The leader of round `k` goes from `leading k` to
`publishing k`; a caller that joined round `k` is `following k`. -/
inductive Phase where
  | start
  | peeked (token : Option AccessToken)
  | queued
  | leading (round : Nat)
  | calling (round : Nat)
  | counting (round : Nat) (value : Json)
  | counted (round : Nat) (value : Json) (seen : Nat)
  | stamping (round : Nat) (value : Json)
  | storing (round : Nat) (token : AccessToken)
  | failing (round : Nat) (fault : Fault)
  | publishing (round : Nat) (outcome : Except Fault Json)
  | following (round : Nat)
  | done (outcome : Except Fault Json) (round : Option Nat)

/-- The cache, the clock, the round in flight and the callers; `rounds` holds each round's
published outcome, `calls` counts the issuer calls begun and `answers` what the issuer said. -/
structure Desk where
  cache : TokenCache
  now : Number
  inflight : Option Nat
  rounds : List (Option (Except Fault Json))
  callers : List Phase
  calls : Nat
  answers : List (Except Fault Json)

/-- One step: a caller moves, the issuer answers a caller, the clock moves, or someone
calls `invalidate`. -/
inductive Act where
  | move (caller : Nat)
  | answer (caller : Nat) (outcome : Except Fault Json)
  | tick (reading : Number)
  | drop

namespace Desk

/-- `n` callers that have not started, over a cache and a clock reading. -/
def idle (c : TokenCache) (now : Number) (n : Nat) : Desk :=
  ⟨c, now, none, [], List.replicate n .start, 0, []⟩

def put (s : Desk) (i : Nat) (p : Phase) : Desk := { s with callers := s.callers.set i p }

/-- The value of a token read earlier, if it is live at the clock now. -/
def liveValue (token : Option AccessToken) (now : Number) : Option Json :=
  match token with
  | some t => if t.isLive now then some t.value else none
  | none => none

/-- The step of caller `i`, standing at `p`; `none` while it waits for the issuer or for
its round, and once it is done. -/
def move (s : Desk) (i : Nat) : Phase → Option Desk
  | .start => some (s.put i (.peeked s.cache.token))
  | .peeked token =>
    match liveValue token s.now with
    | some v => some (s.put i (.done (.ok v) none))
    | none => some (s.put i .queued)
  | .queued =>
    match s.cache.live? s.now with
    | some v => some (s.put i (.done (.ok v) none))
    | none =>
      match s.inflight with
      | some k => some (s.put i (.following k))
      | none =>
        let k := s.rounds.length
        some { s.put i (.leading k) with inflight := some k, rounds := s.rounds ++ [none] }
  | .leading k => some { s.put i (.calling k) with calls := s.calls + 1 }
  | .calling _ => none
  | .counting k v => some (s.put i (.counted k v s.cache.issued))
  | .counted k v seen =>
    some { s.put i (.stamping k v) with cache := { s.cache with issued := seen + 1 } }
  | .stamping k v =>
    match s.cache.lapse s.now with
    | .ok e => some (s.put i (.storing k ⟨v, e⟩))
    | .error f => some (s.put i (.failing k f))
  | .storing k t =>
    some { s.put i (.publishing k (.ok t.value)) with
      cache := { s.cache with token := some t }, inflight := none }
  | .failing k f => some { s.put i (.publishing k (.error f)) with inflight := none }
  | .publishing k r => some { s.put i (.done r (some k)) with rounds := s.rounds.set k (some r) }
  | .following k =>
    match s.rounds[k]? with
    | some (some r) => some (s.put i (.done r (some k)))
    | _ => none
  | .done _ _ => none

/-- Where the issuer's answer leaves the leader of round `k`. -/
def received (k : Nat) : Except Fault Json → Phase
  | .error f => .failing k (roundFault f)
  | .ok v => if v.isEmptyish then .failing k emptyToken else .counting k v

/-- One step of the desk, `none` when it is not enabled. -/
def act (s : Desk) : Act → Option Desk
  | .move i => s.callers[i]?.bind (s.move i)
  | .answer i a =>
    match s.callers[i]? with
    | some (.calling k) => some { s.put i (received k a) with answers := s.answers ++ [a] }
    | _ => none
  | .tick t => some { s with now := t }
  | .drop => some { s with cache := s.cache.invalidate }

/-- A run: the steps in order, a disabled one changing nothing. -/
def run : Desk → List Act → Desk
  | s, [] => s
  | s, a :: acts => run ((s.act a).getD s) acts

/-! ## Placing a caller -/

@[simp] theorem put_cache (s : Desk) (i : Nat) (p : Phase) : (s.put i p).cache = s.cache := rfl
@[simp] theorem put_now (s : Desk) (i : Nat) (p : Phase) : (s.put i p).now = s.now := rfl
@[simp] theorem put_inflight (s : Desk) (i : Nat) (p : Phase) :
    (s.put i p).inflight = s.inflight := rfl
@[simp] theorem put_rounds (s : Desk) (i : Nat) (p : Phase) : (s.put i p).rounds = s.rounds := rfl
@[simp] theorem put_calls (s : Desk) (i : Nat) (p : Phase) : (s.put i p).calls = s.calls := rfl
@[simp] theorem put_answers (s : Desk) (i : Nat) (p : Phase) :
    (s.put i p).answers = s.answers := rfl

theorem getElem?_put {s : Desk} {i j : Nat} {p q : Phase} (hp : s.callers[i]? = some p) :
    (s.put i q).callers[j]? = if i = j then some q else s.callers[j]? := by
  obtain ⟨hi, -⟩ := List.getElem?_eq_some_iff.1 hp
  simp only [put, List.getElem?_set, hi, if_true]

theorem countP_put {s : Desk} {i : Nat} {p q : Phase} (hp : s.callers[i]? = some p)
    (f : Phase → Bool) :
    (s.put i q).callers.countP f + (if f p then 1 else 0) =
      s.callers.countP f + (if f q then 1 else 0) := by
  obtain ⟨hi, hpi⟩ := List.getElem?_eq_some_iff.1 hp
  have hle := List.boole_getElem_le_countP (p := f) hi
  rw [put, List.countP_set hi]
  rw [hpi] at hle ⊢
  omega

theorem countP_move {s : Desk} {i : Nat} {p q : Phase} (hp : s.callers[i]? = some p)
    (f : Phase → Bool) {a b : Nat} (ha : (if f p then 1 else 0) = a)
    (hb : (if f q then 1 else 0) = b) :
    (s.put i q).callers.countP f + a = s.callers.countP f + b :=
  ha ▸ hb ▸ countP_put hp f

theorem liveValue_token (c : TokenCache) (now : Number) : liveValue c.token now = c.live? now := by
  unfold liveValue TokenCache.live?
  rfl

@[simp] theorem run_nil (s : Desk) : s.run [] = s := rfl

@[simp] theorem run_cons (s : Desk) (a : Act) (acts : List Act) :
    s.run (a :: acts) = ((s.act a).getD s).run acts := rfl

/-! ## A caller alone -/

@[simp] theorem lapse_count (c : TokenCache) (k : Nat) (now : Number) :
    ({ c with issued := k } : TokenCache).lapse now = c.lapse now := rfl

/-- A lone caller's steps: its moves around the issuer's one answer, more than it needs. -/
def solo (a : Except Fault Json) : List Act :=
  [.move 0, .move 0, .move 0, .move 0, .answer 0 a, .move 0, .move 0, .move 0, .move 0, .move 0]

/-- A caller alone, with an issuer that answers `a` and a clock that reads `now`, ends where
`get` ends, and leaves no round in flight. -/
theorem solo_get (c : TokenCache) (now : Number) (a : Except Fault Json) :
    let out := Id.run
      ((get (StateT.lift (pure a : Id _)) (StateT.lift (pure now : Id _))).run.run c)
    let s := (idle c now 1).run (solo a)
    s.cache = out.2 ∧ s.inflight = none ∧ ∃ k, s.callers = [.done out.1 k] := by
  simp only [get_run, pure_bind]
  cases hlive : c.live? now with
  | some v => simp [solo, idle, act, move, put, liveValue_token, hlive]
  | none =>
    simp only [issue_run, pure_bind]
    cases a with
    | error f => simp [solo, idle, act, move, put, liveValue_token, hlive, received]
    | ok v =>
      cases hv : v.isEmptyish with
      | true => simp [solo, idle, act, move, put, liveValue_token, hlive, received, hv]
      | false =>
        cases hl : c.lapse now with
        | ok e => simp [solo, idle, act, move, put, liveValue_token, hlive, received, hv, hl]
        | error f => simp [solo, idle, act, move, put, liveValue_token, hlive, received, hv, hl]

end Desk

open Desk in
/-- The token cache against its reference: over any lawful monad, issuer and clock, every
session of reads, clock moves and invalidations answers as the reference does, and a lone
read leaves no round in flight. -/
theorem cache_follows_reference {n : Type → Type} [Monad n] [LawfulMonad n] {l : Number}
    {d : Binary64} (hl : l.toDouble = .ok d) :
    (∀ (issuer : n (Except Fault Json)) (clock : n Binary64) (advance : Binary64 → n Unit)
        (steps : List TokenStep) (r : TokenReference),
      (TokenCache.session issuer clock advance steps).run (r.cache l) =
        (fun p => (p.1, p.2.cache l)) <$>
          (TokenReference.session d issuer clock advance steps).run r) ∧
    (∀ (c : TokenCache) (now : Number) (a : Except Fault Json),
      let out := Id.run
        ((get (StateT.lift (pure a : Id _)) (StateT.lift (pure now : Id _))).run.run c)
      let s := (idle c now 1).run (solo a)
      s.cache = out.2 ∧ s.inflight = none ∧ ∃ k, s.callers = [.done out.1 k]) :=
  ⟨TokenReference.session_cache hl, solo_get⟩

/-- A fresh cache under a lease of sixty seconds, an issuer that answers `a` and a clock
that stays at zero: read, invalidate, read. -/
theorem cache_follows_reference_sample :
    (Number.double 60).toDouble = .ok 60 ∧
    (TokenCache.session (n := Id) (pure (.ok (.str "a"))) (pure 0) (fun _ => pure ())
        [.get, .invalidate, .get]).run ((⟨none, 0⟩ : TokenReference).cache (.double 60)) =
      (fun p => (p.1, p.2.cache (.double 60))) <$>
        (TokenReference.session 60 (pure (.ok (.str "a"))) (pure 0) (fun _ => pure ())
          [.get, .invalidate, .get]).run ⟨none, 0⟩ :=
  ⟨rfl, (cache_follows_reference rfl).1 _ _ _ _ _⟩

end TokenCache

end RankAdvisor
