import RankAdvisor.Analysis.JobStore
import RankAdvisor.Collection

/-! # One analysis run

A run ranks the market, collects each ranked stock's chart, asks for advice on every
collected stock and keeps the advice as records:

* an empty ranking ends the run with no records, or fails it when the ranking is strict;
* a run without collected stocks has no records;
* a stock whose advice fails is left out; the others keep the ranking's order;
* records are handed to the repository, if there is one and there are records, and a
  failing repository fails the run.

`Crew.runJob` runs under a job id: the job stored under the id (or a new running one)
becomes done with the records or failed with the failure's text (its kind's name when the
text is empty), is finalized, and the stored job is answered.
-/

namespace RankAdvisor

namespace Analysis

/-- The settings of a run: how many ranked stocks, whether an empty ranking is a failure,
and the chart window in days. -/
structure Plan where
  topN : Json := .int 10
  strictRanking : Bool := false
  windowDays : Json := .int 60
  deriving Repr, Inhabited

/-- The collaborators of a run over a monad `m`: the ranking, the daily chart of a stock
over a number of days, an optional sink for collected datasets, the advice on a dataset,
and an optional repository for records. -/
structure Crew (m : Type → Type) where
  rank : Json → m (Except Fault (List Market.Entry))
  chart : Json → Json → m (Except Fault (List Market.Bar))
  sink : Option (List Market.Dataset → m (Except Fault Unit))
  advise : Market.Dataset → m (Except Fault Advice)
  repository : Option (List Record → m (Except Fault Unit))

/-- The failure of a strict run whose ranking is empty. -/
def emptyRanking : Fault := ⟨.pipeline, "成交量排行为空", none⟩

/-- The records of the datasets whose advice succeeded, in dataset order. -/
def recordsOf (outcomes : List (Market.Dataset × Except Fault Advice)) : List Record :=
  outcomes.filterMap fun (d, r) =>
    match r with
    | .ok a => some (Record.ofAdvice d.code d.name d.analysisDate a)
    | .error _ => none

/-- The text a failed job keeps: the failure's text, or its kind's name when empty. -/
def failureText (f : Fault) : String := if f.text.isEmpty then f.kind.className else f.text

namespace Crew

variable {m : Type → Type} [Monad m]

/-- The records of one run for an analysis date. -/
def runInternal (c : Crew m) (p : Plan) (day : Date) : ExceptT Fault m (List Record) := do
  let entries ← ExceptT.mk (c.rank p.topN)
  if entries.isEmpty then
    if p.strictRanking then throw emptyRanking
    return []
  let datasets ← ExceptT.lift (collect c.chart c.sink p.windowDays entries day)
  if datasets.isEmpty then return []
  let records := recordsOf (← ExceptT.lift (fanOut datasets c.advise))
  if let some save := c.repository then
    if !records.isEmpty then ExceptT.mk (save records)
  pure records

/-- Runs under a job id and answers the stored terminal job. -/
def runJob [MonadStateOf JobStore m] (c : Crew m) (p : Plan) (day : Date) (id : Json) :
    m Job := do
  let job := ((← getThe JobStore).get id).getD (Job.running id)
  let final := match ← (c.runInternal p day).run with
    | .ok records => job.done records
    | .error f => job.failed (failureText f)
  let store ← getThe JobStore
  let store := match store.finalize final with
    | .ok (_, s) => s
    | .error _ => store
  set store
  pure ((store.get id).getD final)

end Crew

end Analysis

end RankAdvisor
