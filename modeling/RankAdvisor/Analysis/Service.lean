import RankAdvisor.Analysis.Pipeline
import RankAdvisor.Store.Row
import RankAdvisor.Config
import RankAdvisor.Pool
import RankAdvisor.Advice.Setup
import RankAdvisor.Advice.Cache
import RankAdvisor.MarketData.Feed

/-! # The analysis service

The service starts runs as jobs and answers questions about them:

* `submit` takes the command `run` (any other is refused), stores a new running job and
  runs it; `runNow` does the same and answers the finished job;
* `poll` gives a job's status, `getJob` the job, `fetch` the records of a done job (none
  while it is not done; an unknown id fails), `wait` the job (an unknown id fails);
* `latest` gives the newest stored records of a day, none without a repository; a
  repository that only takes records cannot answer.

`Setup.check` checks settings in the order the service is assembled: the three worker
pools, the closing time, the market's time zone, the advice provider, the cache lifetime.
-/

namespace RankAdvisor

namespace Analysis

/-- The only command that starts a run. -/
def runCommand : String := "run"

def jobNotFound (id : Json) : Fault :=
  let shown := id.plainText
  ⟨.jobNotFound, s!"分析作业不存在: {shown}", none⟩

/-- The service over a monad `m`: the run's collaborators and settings, a source of new
job ids, and the repository's reading of a day's newest records, if there is one. -/
structure Service (m : Type → Type) where
  crew : Crew m
  plan : Plan
  newId : m Json
  recent : Option (Date → Option Int → m (Except Fault (List Store.AdviceRow)))

namespace Service

variable {m : Type → Type} [Monad m] [MonadStateOf JobStore m]

def storeRunning (id : Json) : m Unit := modifyThe JobStore (·.save (Job.running id))

/-- Starts a run for a command and answers its job id once it has finished. -/
def submit (s : Service m) (day : Date) (command : String) : ExceptT Fault m Json := do
  if command != runCommand then throw (Fault.badValue s!"不支持的命令: {command}")
  let id ← ExceptT.lift s.newId
  ExceptT.lift (storeRunning id)
  let _ ← ExceptT.lift (s.crew.runJob s.plan day id)
  pure id

/-- Runs at once and answers the finished job. -/
def runNow (s : Service m) (day : Date) : m Job := do
  let id ← s.newId
  storeRunning id
  s.crew.runJob s.plan day id

/-- The status of a job. -/
def poll (id : Json) : m (Option JobStatus) := do
  pure (((← getThe JobStore).get id).map (·.status))

/-- A job. -/
def getJob (id : Json) : m (Option Job) := do pure ((← getThe JobStore).get id)

/-- The records of a done job; none while it is not done. -/
def fetch (id : Json) : ExceptT Fault m (Option (List Record)) := do
  match (← getThe JobStore).get id with
  | none => throw (jobNotFound id)
  | some j => pure (if j.status == .done then some j.results else none)

/-- A job, once no run of it is under way. -/
def wait (id : Json) : ExceptT Fault m Job := do
  match (← getThe JobStore).get id with
  | none => throw (jobNotFound id)
  | some j => pure j

/-- The newest stored records of a day; a repository that cannot read them back fails. -/
def latest (s : Service m) (day : Date) (limit : Option Int) : m (Except Fault (List Store.AdviceRow)) :=
  match s.recent with
  | some read => read day limit
  | none => pure (.ok [])

end Service

/-- What an assembled service is set to: ranked stocks, strict ranking, the provider's
name and the job pool's workers, the settings as they were given. -/
structure Setup where
  topN : Json
  strictRanking : Json
  provider : String
  jobWorkers : Json
  deriving Repr

/-- Checks settings in the order the service is assembled from them: the market data
address, the three pools, the closing time, the time zone, the provider and the cache's
lifetime. `topN` overrides the settings' ranked count. -/
def Setup.check (c : Config) (topN : Option Json) : Except Fault Setup := do
  let _ ← Http.baseOf c.kisBaseUrl
  let _ ← Pool.create (.str "collect") c.collectMaxWorkers c.collectQueueCapacity
  let _ ← Pool.create (.str "analysis") c.analysisMaxWorkers c.analysisQueueCapacity
  let jobs ← Pool.create (.str "job") c.jobMaxWorkers c.jobQueueCapacity
  let close ← MarketData.closeTimeOf c.marketCloseTime
  let _ ← MarketData.ChartFeed.create close (← Zone.keyOf c.marketTimezone)
  let p ← Provider.ofConfig c
  let _ ← Duration.hoursOf c.llmCacheTtlHours
  pure ⟨topN.getD c.rankTopN, c.strictRanking, p.name, jobs.workers⟩

end Analysis

end RankAdvisor
