import RankAdvisor.Json.Order

/-! # Retrying transport failures

A call that fails in transport is tried again, up to `maxRetries` more times, after waits
that start at the initial delay and double each time, never above the maximum delay and
never below the initial delay. Any other failure, and a transport failure on the last
attempt, ends the calls. The count of retries is kept as it was given: attempt `k` is the
last once `k ≥ maxRetries + 1`, so a count that is not whole rounds the attempts up, and a
count that cannot have one added fails before the first call.

The waits are those of tenacity's `wait_exponential` with the initial delay as both the
multiplier and the lower bound. The bounds are doubles, the doubled delay keeps the kind of
number the initial delay is, and the wait is the larger of the lower bound (or zero) and the
smaller of the doubled delay and the upper bound, the first of two equal ones kept; the wait
itself is a double. A doubled delay whose factor is beyond doubles counts as the upper bound,
so it is still held below by the lower bound.
-/

namespace RankAdvisor

namespace Number

/-- The larger of two numbers; the first when neither is larger. -/
def larger (a b : Number) : Number := if a.lt b then b else a

/-- The smaller of two numbers; the first when neither is smaller. -/
def smaller (a b : Number) : Number := if b.lt a then b else a

end Number

/-- How often and after what waits a call is tried again. -/
structure RetryPolicy where
  maxRetries : Json := .int 2
  initialDelay : Number := .double (2 : Binary64)
  maxDelay : Number := .double (8 : Binary64)
  deriving Repr, Inhabited

namespace RetryPolicy

/-- A count of attempts too large to be reached. -/
def endless : Nat := 18446744073709551616

/-- How many times a call is made at most when attempt `k` is the last once `k ≥ limit`:
at least once, and the limit rounded up; endless for a limit that is never reached. -/
def attemptsUpTo (limit : Number) : Nat :=
  match limit with
  | .whole n => max 1 n.toNat
  | .double x =>
    match x.truncate? with
    | some t => max 1 (if (Binary64.ofInt t).eqNum x then t.toNat else (t + 1).toNat)
    | none => if x.isNaN || !x.signBit then endless else 1

/-- How many times a call is made at most: once, and once more for each retry. -/
def attempts (p : RetryPolicy) : Except Fault Nat := do
  pure (attemptsUpTo (← Json.plus p.maxRetries (.int 1)))

/-- The wait after the `n`th attempt failed (from 1), given the bounds as doubles: the
initial delay times `2^(n-1)`, or the upper bound when that product cannot be formed, held
between the bounds. -/
def wait (p : RetryPolicy) (lo hi : Binary64) (n : Nat) : Binary64 :=
  let grown : Number :=
    match p.initialDelay.mul (.whole (Nat.pow 2 (n - 1))) with
    | .ok g => g
    | .error _ => .double hi
  match (((Number.whole 0).larger (.double lo)).larger (grown.smaller (.double hi))).toDouble with
  | .ok x => x
  | .error _ => hi

/-- The calls from attempt `n` on, with `left` retries still allowed. -/
def attemptFrom {m : Type → Type} [Monad m] {α : Type} (p : RetryPolicy) (lo hi : Binary64)
    (sleep : Binary64 → m Unit) (call : m (Except Fault α)) : Nat → Nat → ExceptT Fault m α
  | _, 0 => ExceptT.mk call
  | n, left + 1 => do
    match ← ExceptT.lift call with
    | .ok a => pure a
    | .error f =>
      if f.kind == .transport then
        ExceptT.lift (sleep (p.wait lo hi n))
        attemptFrom p lo hi sleep call (n + 1) left
      else throw f

/-- Makes the call, retrying transport failures; the bounds must be numbers a double
can hold. -/
def run {m : Type → Type} [Monad m] {α : Type} (p : RetryPolicy) (sleep : Binary64 → m Unit)
    (call : m (Except Fault α)) : ExceptT Fault m α := do
  let n ← ExceptT.mk (pure p.attempts)
  let lo ← ExceptT.mk (pure p.initialDelay.toDouble)
  let hi ← ExceptT.mk (pure p.maxDelay.toDouble)
  attemptFrom p lo hi sleep call 1 (n - 1)

end RetryPolicy

end RankAdvisor
