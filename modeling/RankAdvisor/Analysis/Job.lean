import RankAdvisor.Advice.Basic
import RankAdvisor.Calendar.Clock

/-! # Analysis jobs

A job runs the whole analysis once. It starts running and moves once, to done with the
records it produced or to failed with a message; both are terminal. A record is the advice
on one stock for an analysis date, as it is stored.

A job's id and a record's code, name and texts are kept as they were given, whatever
their kind; runs of the service give texts.
-/

namespace RankAdvisor

/-- The advice on one stock for a date, as it is stored. -/
structure Record where
  stockCode : Json
  stockName : Json
  analysisDate : Date
  recommendation : Recommendation
  confidence : Binary64
  summary : Json
  narrative : Json
  createdAt : Option DateTime := none
  deriving Repr, Inhabited

def Record.ofAdvice (code name : Json) (day : Date) (a : Advice) : Record :=
  ⟨code, name, day, a.recommendation, a.confidence, a.summary, a.narrative, none⟩

/-- Where a job stands. -/
inductive JobStatus where
  | running
  | done
  | failed
  deriving DecidableEq, Repr, Inhabited

namespace JobStatus

def word : JobStatus → String
  | .running => "RUNNING"
  | .done => "DONE"
  | .failed => "FAILED"

def ofWord? : String → Option JobStatus
  | "RUNNING" => some .running
  | "DONE" => some .done
  | "FAILED" => some .failed
  | _ => none

end JobStatus

/-- A job: its id, status, the records of a done job, the message of a failed one, whether
it has a finishing time, and when it started, if a clock told. -/
structure Job where
  id : Json
  status : JobStatus
  results : List Record := []
  errorMessage : Option Json := none
  finished : Bool := false
  startedAt : Option DateTime := none
  deriving Repr, Inhabited

namespace Job

def running (id : Json) : Job := { id := id, status := .running }

/-- The job done with its records; it keeps its id and starting time. -/
def done (j : Job) (records : List Record) : Job :=
  { id := j.id, status := .done, results := records, finished := true, startedAt := j.startedAt }

/-- The job failed with a message; it keeps its id and starting time. -/
def failed (j : Job) (message : String) : Job :=
  { id := j.id, status := .failed, errorMessage := some (.str message), finished := true,
    startedAt := j.startedAt }

def isTerminal (j : Job) : Bool := j.status != .running

end Job

end RankAdvisor
