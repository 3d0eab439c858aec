import RankAdvisor.Analysis.Job
import RankAdvisor.Json.Order

/-! # The job table

Jobs by id. `save` writes a job over any job of its id; `finalize` writes a terminal job
only while the job of its id is not terminal yet, so a job moves to a terminal status once
and stays there. Ids are values of any kind, and two ids are one when they are equal
values (`Json.sameValue`: `1`, `1.0` and `true` are one id).
-/

namespace RankAdvisor

/-- Jobs by id, in the order their ids were first saved. -/
structure JobStore where
  jobs : List (Json × Job) := []
  deriving Repr, Inhabited

namespace JobStore

def get (s : JobStore) (id : Json) : Option Job :=
  (s.jobs.find? fun e => Json.sameValue e.1 id).map (·.2)

/-- Writes a job over any job of its id; the id first used keeps its place. -/
def save (s : JobStore) (j : Job) : JobStore :=
  if s.jobs.any fun e => Json.sameValue e.1 j.id then
    { jobs := s.jobs.map fun e => if Json.sameValue e.1 j.id then (e.1, j) else e }
  else { jobs := s.jobs ++ [(j.id, j)] }

/-- Writes a terminal job unless its id already has a terminal job; says whether it was
written. A job still running cannot be finalized. -/
def finalize (s : JobStore) (j : Job) : Except Fault (Bool × JobStore) :=
  if !j.isTerminal then
    let id := j.id.plainText
    .error (Fault.badValue s!"finalize 只接受终态作业: {id} {j.status.word}")
  else match s.get j.id with
    | some cur => if cur.isTerminal then .ok (false, s) else .ok (true, s.save j)
    | none => .ok (true, s.save j)

/-! ## Operations as data -/

/-- A call on the table: the three calls, and the two finalizations that start from the
stored job of an id, or from a new running job when none is stored. -/
inductive Op where
  | save (j : Job)
  | get (id : Json)
  | finalize (j : Job)
  | finalizeDone (id : Json) (records : List Record)
  | finalizeFailed (id : Json) (message : String)

def Op.id : Op → Json
  | .save j | .finalize j => j.id
  | .get id | .finalizeDone id _ | .finalizeFailed id _ => id

/-- What a call answers: nothing for a save, the job found, whether a finalization wrote,
or the failure it raised. -/
inductive Reply where
  | saved
  | found (j : Option Job)
  | written (b : Bool)
  | refused (f : Fault)

/-- The job a finalization of an id starts from. -/
def base (s : JobStore) (id : Json) : Job := (s.get id).getD (Job.running id)

/-- A finalization as a call: a refused one leaves the table as it was. -/
def settle (s : JobStore) (j : Job) : Reply × JobStore :=
  match s.finalize j with
  | .ok (b, s') => (.written b, s')
  | .error f => (.refused f, s)

/-- One call: its answer, and the table after it. -/
def step (s : JobStore) : Op → Reply × JobStore
  | .save j => (.saved, s.save j)
  | .get id => (.found (s.get id), s)
  | .finalize j => s.settle j
  | .finalizeDone id records => s.settle ((s.base id).done records)
  | .finalizeFailed id message => s.settle ((s.base id).failed message)

/-- Calls one after another: each call with its answer, in order. -/
def trace : JobStore → List Op → List (Op × Reply)
  | _, [] => []
  | s, op :: ops => (op, (s.step op).1) :: trace (s.step op).2 ops

def after : JobStore → List Op → JobStore
  | s, [] => s
  | s, op :: ops => after (s.step op).2 ops

end JobStore

end RankAdvisor
