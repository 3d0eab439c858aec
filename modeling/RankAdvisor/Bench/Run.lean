import RankAdvisor.Bench.Session
import RankAdvisor.Analysis.Service

/-! # Whole runs on the bench

A `Rig` puts a whole analysis run on the bench: the market-data client over the scripted
session, the chart settings and the instant the charts end at, the retry policy, the
advice provider, and a keeper for collected datasets and one for records. A keeper is
absent, accepting (it notes each call), failing (it notes each call, then fails), or the
bench's store.

Records kept in the store without a time of their own are stored at the bench's fixed
storing time. Job ids are `job1`, `job2`, … in order of creation. A keeper that only notes
its calls cannot read records back.
-/

namespace RankAdvisor

namespace Bench

/-- How a sink or repository behaves on the bench. -/
inductive Keeper where
  | absent
  | accepting
  | failing
  | store
  deriving DecidableEq, Repr, Inhabited

def sinkDown : Fault := ⟨.runtime, "sink down", none⟩

def repositoryDown : Fault := ⟨.runtime, "repository down", none⟩

/-- The time stored records get when they carry none. -/
def storingTime : DateTime := DateTime.ofDate ⟨2026, 11, 13⟩

/-- A whole run's settings on the bench. -/
structure Rig where
  client : MarketData.Client
  feed : MarketData.ChartFeed
  now : DateTime
  policy : RetryPolicy
  ask : String → Sim (Except Fault Json)
  sink : Keeper
  repository : Keeper
  plan : Analysis.Plan

namespace Rig

def sinkOf : Keeper → Option (List Market.Dataset → Sim (Except Fault Unit))
  | .absent => none
  | .store => some fun ds => do
    let w ← getThe World
    let (r, st) := w.store.saveCollected ds
    set { w with store := st }
    pure r
  | k => some fun ds => do
    modifyThe World fun w => { w with sinkCalls := w.sinkCalls.push (ds.map (·.code)) }
    pure (if k == .failing then .error sinkDown else .ok ())

def repositoryOf : Keeper → Option (List Record → Sim (Except Fault Unit))
  | .absent => none
  | .store => some fun rs => do
    let w ← getThe World
    match w.store.saveAll storingTime rs with
    | .ok (_, st) =>
      set { w with store := st }
      pure (.ok ())
    | .error f => pure (.error f)
  | k => some fun rs => do
    modifyThe World fun w => { w with saved := w.saved.push rs }
    pure (if k == .failing then .error repositoryDown else .ok ())

def crew (r : Rig) : Analysis.Crew Sim where
  rank n := (MarketData.fetchRanking wire clock r.client n).run
  chart code days := (MarketData.fetchChart wire clock (pure r.now) r.client r.feed code days).run
  sink := sinkOf r.sink
  advise d :=
    let key := match Prompt.build d with
      | .ok p => promptCode p
      | .error _ => ""
    (Advisor.analyze r.ask (recordSleepFor key) wallClock r.policy d).run
  repository := repositoryOf r.repository

def newId : Sim Json := do
  let w ← getThe World
  let n := w.jobCount + 1
  set { w with jobCount := n }
  pure (.str s!"job{n}")

/-- The failure of asking a keeper that only notes its calls to read records back. -/
def cannotRead : Fault :=
  Fault.noAttribute "FakeSink" "find_top_n_by_date_order_by_recency"

/-- The newest records of a day a keeper can read back. -/
def recentOf : Keeper → Option (Date → Option Int → Sim (Except Fault (List Store.AdviceRow)))
  | .absent => none
  | .store => some fun day n => do pure (.ok ((← getThe World).store.findTopN day n))
  | _ => some fun _ _ => pure (.error cannotRead)

/-- A setting that must be a number for the rig to run. -/
def numberSetting (v : Json) : Except Fault Number :=
  match v.number? with
  | some x => .ok x
  | none => .error (Fault.wrongType s!"expected a number, got {v.kindName}")

/-- The rig the settings describe, checked as the service is assembled: the store keeps
datasets and records, and the provider talks through its own session. -/
def ofConfig (c : Config) (topN : Option Json) (now : DateTime) : Except Fault Rig := do
  let setup ← Analysis.Setup.check c topN
  let feed ← MarketData.ChartFeed.create (← MarketData.closeTimeOf c.marketCloseTime)
    (← Zone.keyOf c.marketTimezone)
  let p ← Provider.ofConfig c
  let client := MarketData.Client.create (← Http.baseOf c.kisBaseUrl) c.kisAppKey
    c.kisAppSecret c.kisTimeout c.tokenLeaseSeconds
  let policy : RetryPolicy := { maxRetries := c.llmMaxRetries,
                                initialDelay := ← numberSetting c.llmRetryInitialDelay,
                                maxDelay := ← numberSetting c.llmRetryMaxDelay }
  let plan : Analysis.Plan := { topN := setup.topN, strictRanking := !c.strictRanking.isEmptyish,
                                windowDays := c.daysBack }
  pure ⟨client, feed, now, policy, sessionAsk p, .store, .store, plan⟩

def service (r : Rig) : Analysis.Service Sim :=
  ⟨r.crew, r.plan, newId, recentOf r.repository⟩

end Rig

/-- The JSON text a recorded request is ordered by: method, parameters with their names
in order, and address, as one object with its members by name. -/
def callKey (q : Http.Request) : String :=
  let params := match q.params with
    | some (.obj kvs) => Json.obj (kvs.mergeSort fun a b => a.1 ≤ b.1)
    | some p => p
    | none => .null
  Json.write true (.obj [("method", .str q.method), ("params", params), ("url", .str q.url)])

/-- The recorded requests as method, address and parameters, ordered by `callKey`. -/
def sortedCallsView (w : World) : Json :=
  let calls := w.calls.toList.mergeSort fun a b => callKey a ≤ callKey b
  .arr (calls.map fun q =>
    .obj [("method", .str q.method), ("url", .str q.url), ("params", q.params.getD .null)])

end Bench

end RankAdvisor
