import RankAdvisor.Json.Order
import RankAdvisor.Json.Literal

/-! # Bounded worker pools

A pool has a number of workers and a queue. At most `workers + queue` tasks are in flight
(running or waiting); a task submitted beyond that runs at once on the submitting side,
which slows the submitter down instead of refusing the task. The counts are kept as they
were given: a pool checks only that they are ordered as counts must be.

`Pool.inline` says which of `n` tasks submitted together run on the submitting side when
none of the pooled ones finishes before the last is submitted: those beyond the capacity.
`fanOut` runs a function on each item and keeps each item's result or failure, in item
order; one failing item does not affect the others.
-/

namespace RankAdvisor

/-- A pool's name, worker count and queue capacity as they were given, and how many tasks
it takes in flight: none when its free slots, counted down from `workers + queue` one task
at a time, never come to exactly zero (a sum that is not whole, NaN or infinite). -/
structure Pool where
  name : Json
  workers : Json
  queue : Json
  slots : Option Nat
  deriving Repr, Inhabited

namespace Pool

/-- The whole number a count of slots comes to, if it is one. -/
def wholeSlots : Number → Option Nat
  | .whole n => some n.toNat
  | .double x =>
    match x.truncate? with
    | some k => if (Binary64.ofInt k).eqNum x then some k.toNat else none
    | none => none

/-- A pool; it needs at least one worker and a queue that is not negative. -/
def create (name workers queue : Json) : Except Fault Pool := do
  if ← Json.lt workers (.int 1) then
    throw (Fault.badValue s!"max_workers 必须大于 0: {workers.plainText}")
  if ← Json.lt queue (.int 0) then
    throw (Fault.badValue s!"queue_capacity 不能为负数: {queue.plainText}")
  let slots ← Json.plus workers queue
  pure ⟨name, workers, queue, wholeSlots slots⟩

/-- For each of `n` tasks submitted together, whether it runs on the submitting side. -/
def inline (p : Pool) (n : Nat) : List Bool :=
  (List.range n).map fun i => match p.slots with
    | some k => k ≤ i
    | none => false

/-- How many of `n` tasks submitted together run on the submitting side. -/
def callerRuns (p : Pool) (n : Nat) : Nat :=
  match p.slots with
  | some k => n - k
  | none => 0

end Pool

/-- Each item with the result or failure of `f` on it, in item order. -/
def fanOut {m : Type → Type} [Monad m] {α β : Type} (items : List α) (f : α → m (Except Fault β)) :
    m (List (α × Except Fault β)) :=
  items.mapM fun x => do pure (x, ← f x)

end RankAdvisor
