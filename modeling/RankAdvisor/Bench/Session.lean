import RankAdvisor.Codec.Value
import RankAdvisor.MarketData.Feed
import RankAdvisor.Advice.Advisor
import RankAdvisor.Advice.Provider
import RankAdvisor.Analysis.JobStore
import RankAdvisor.Store.Basic

/-! # A bench of scripted collaborators

To run the services offline, every collaborator is scripted and kept in one state, the
`Bench.World`:

* the HTTP session answers `POST`s and `GET`s from lists of response descriptions, taken
  in order with the last repeating (an empty list answers `200 {}`), or `GET`s from an
  object keyed by transaction id and stock code, or by transaction id alone; every request
  is recorded;
* a response description is `{status, json | body, reason}` or a failure to raise,
  `{raise: <kind>, message[, status_code]}`;
* the token issuer answers from its own list, then `tok<call number>`;
* the advice provider answers each stock (read from the prompt's code line) from its own
  list, or a shared list, the last item repeating;
* the advice provider may also have an HTTP session of its own, answering from its own
  list and keeping no record;
* two clocks stand still until moved: a seconds counter for tokens and a calendar instant
  for the advice cache; waits are recorded, not waited.

The world also keeps what whole runs leave behind: waits by stock, the notes of sinks and
repositories, the store, the job table and the count of jobs made.

`Bench.Sim` is the state monad over the world; it carries the token cache, the advice cache
and the job table as states of their own, so the services run on it unchanged.
-/

namespace RankAdvisor

namespace Bench

open Codec

/-- Everything the scripted collaborators hold. -/
structure World where
  post : List Json := []
  get : Json := .arr []
  calls : Array Http.Request := #[]
  tokens : TokenCache := TokenCache.create (.int 86400)
  clock : Number := .double (0 : Binary64)
  issuer : List Json := []
  issuerCalls : Nat := 0
  wall : DateTime := DateTime.ofDate ⟨2024, 1, 1⟩
  cache : ResultCache := ResultCache.create ⟨21600000000⟩
  script : Json := .obj []
  scriptCalls : List (String × Nat) := []
  providerCalls : Nat := 0
  sleeps : Array Binary64 := #[]
  askPost : List Json := []
  sleepsByCode : List (String × Array Binary64) := []
  sinkCalls : Array (List Json) := #[]
  saved : Array (List Record) := #[]
  store : Store := {}
  jobs : JobStore := {}
  jobCount : Nat := 0

abbrev Sim := StateM World

instance : MonadStateOf TokenCache Sim where
  get := do pure (← getThe World).tokens
  set t := modifyThe World fun w => { w with tokens := t }
  modifyGet f := modifyGetThe World fun w =>
    let (a, t) := f w.tokens
    (a, { w with tokens := t })

instance : MonadStateOf ResultCache Sim where
  get := do pure (← getThe World).cache
  set c := modifyThe World fun w => { w with cache := c }
  modifyGet f := modifyGetThe World fun w =>
    let (a, c) := f w.cache
    (a, { w with cache := c })

instance : MonadStateOf JobStore Sim where
  get := do pure (← getThe World).jobs
  set j := modifyThe World fun w => { w with jobs := j }
  modifyGet f := modifyGetThe World fun w =>
    let (a, j) := f w.jobs
    (a, { w with jobs := j })

def run {α : Type} (x : Sim α) (w : World) : α × World := (x.run w).run

/-- The next description of a list; the last repeats, and none answers `200 {}`. -/
def popSpec (specs : List Json) : Json × List Json :=
  match specs with
  | [] => (.obj [("json", .obj [])], [])
  | [s] => (s, [s])
  | s :: rest => (s, rest)

/-- The failure a raising description raises. Its message is any value, shown as text,
and a missing key shows it as a literal; transport and request failures keep the status
given with them. A kind the script does not know is itself a missing key. -/
def raising (kind : Json) (spec : Json) : Fault :=
  match (match kind with
    | .str k => FaultKind.scripted? k
    | _ => none) with
  | none => ⟨.missingKey, kind.literal, none⟩
  | some kind =>
    let msg := (spec.get? "message").getD (.str "")
    let text := if kind == .missingKey then msg.literal else msg.plainText
    let status := match kind, spec.get? "status_code" with
      | .transport, some s | .request, some s => if s matches .null then none else some s
      | _, _ => none
    ⟨kind, text, status⟩

/-- The failure a description raises, if it is a raising one. -/
def raised? (spec : Json) : Option Fault := (spec.get? "raise").map (raising · spec)

def outcomeOf (url : String) (spec : Json) : Http.Outcome :=
  match raised? spec with
  | some f => .failure f
  | none =>
    let body := match spec.get? "json" with
      | some v => Json.write true v
      | none => match spec.get? "body" with
        | some (.str b) => b
        | _ => ""
    .answer { status := (spec.get? "status").getD (.int 200), body := body,
              reason := ((spec.get? "reason").getD (.str "")).plainText, url := url }

/-- The description a keyed script gives a `GET`: under the transaction id joined to the
query's stock code by a colon, else under the transaction id alone; a chart without a
description has no rows. -/
def keyedSpec (script : Json) (q : Http.Request) : Json :=
  let trId := (((q.headers.getD []).lookup "tr_id").map Json.plainText).getD ""
  let code := match q.params.bind (·.get? "FID_INPUT_ISCD") with
    | some c => c.plainText
    | none => "None"
  match (script.get? (trId ++ ":" ++ code)).orElse fun _ => script.get? trId with
  | some spec => spec
  | none =>
    if trId == MarketData.chartTrId then .obj [("json", .obj [("output2", .arr [])])]
    else .obj [("json", .obj [])]

def send (q : Http.Request) : Sim Http.Outcome := do
  let w ← getThe World
  let (spec, w) := if q.method == "POST" then
      let (s, rest) := popSpec w.post
      (s, { w with post := rest })
    else match w.get with
      | .arr specs =>
        let (s, rest) := popSpec specs
        (s, { w with get := .arr rest })
      | script => (keyedSpec script q, w)
  set { w with calls := w.calls.push q }
  pure (outcomeOf q.url spec)

def wire : Http.Wire Sim := ⟨send⟩

/-- Sends a request through the advice provider's own session: it answers from its own
list and keeps no record. -/
def sendAsk (q : Http.Request) : Sim Http.Outcome := do
  let w ← getThe World
  let (spec, rest) := popSpec w.askPost
  set { w with askPost := rest }
  pure (outcomeOf q.url spec)

def askWire : Http.Wire Sim := ⟨sendAsk⟩

def clock : Sim Number := do pure (← getThe World).clock

def wallClock : Sim DateTime := do pure (← getThe World).wall

def recordSleep (x : Binary64) : Sim Unit :=
  modifyThe World fun w => { w with sleeps := w.sleeps.push x }

def recordSleepFor (code : String) (x : Binary64) : Sim Unit :=
  modifyThe World fun w =>
    let waits := ((w.sleepsByCode.lookup code).getD #[]).push x
    { w with sleepsByCode :=
        if w.sleepsByCode.any (·.1 == code) then
          w.sleepsByCode.map fun e => if e.1 == code then (code, waits) else e
        else w.sleepsByCode ++ [(code, waits)] }

def codeMark : String := "- 股票代码: "

/-- The stock code a prompt names: the rest of the line after the first code mark. -/
def promptCode (prompt : String) : String :=
  match prompt.splitOn codeMark with
  | _ :: after :: _ => (after.splitOn "\n").headD ""
  | _ => ""

/-- The answer the scripted provider gives when the script has nothing for a stock. -/
def noScript : String := "no script"

/-- The item of a script's answers for the `n`th call (from 0), the last repeating; an
empty list has none. -/
def scriptItem (answers : Json) (n : Nat) : Except Fault Json :=
  match answers with
  | .arr xs =>
    match xs[min n (xs.length - 1)]? with
    | some x => .ok x
    | none => .error ⟨.indexRange, "list index out of range", none⟩
  | .str s =>
    match s.toList[min n (s.length - 1)]? with
    | some c => .ok (.str (String.singleton c))
    | none => .error ⟨.indexRange, "string index out of range", none⟩
  | v => .error (Fault.wrongType s!"object of type {Json.quoteLiteral v.kindName} has no len()")

/-- What one scripted item gives: an object raises the failure it describes, any other
value is the answer. -/
def scriptAnswer (item : Json) : Except Fault Json :=
  match item with
  | .obj _ =>
    match item.get? "raise" with
    | some kind => .error (raising kind item)
    | none => .error (Fault.missingKey "raise")
  | v => .ok v

/-- The scripted provider: the script is one list of answers for every stock, or an
object of lists by stock code with `*` for the others. -/
def scriptedAsk (prompt : String) : Sim (Except Fault Json) := do
  let w ← getThe World
  let code := promptCode prompt
  let n := (w.scriptCalls.lookup code).getD 0
  set { w with scriptCalls := (code, n + 1) :: w.scriptCalls.filter (·.1 != code),
               providerCalls := w.providerCalls + 1 }
  pure <| match w.script with
    | .arr _ => scriptItem w.script n >>= scriptAnswer
    | .obj _ =>
      match (w.script.get? code).orElse fun _ => w.script.get? "*" with
      | some answers => scriptItem answers n >>= scriptAnswer
      | none => .ok (.str noScript)
    | v => .error (Fault.noAttribute v.kindName "get")

/-- A provider over the scripted session, counting its calls. -/
def httpAsk (p : Provider) (prompt : String) : Sim (Except Fault Json) := do
  modifyThe World fun w => { w with providerCalls := w.providerCalls + 1 }
  return (← (p.complete wire (.str prompt)).run).map Json.str

def sessionAsk (p : Provider) (prompt : String) : Sim (Except Fault Json) := do
  return (← (p.complete askWire (.str prompt)).run).map Json.str

def scriptedIssuer : Sim (Except Fault Json) := do
  let w ← getThe World
  let n := w.issuerCalls + 1
  let (r, rest) : Except Fault Json × List Json := match w.issuer with
    | [] => (.ok (.str s!"tok{n}"), [])
    | s :: rest => match raised? s with
      | some f => (.error f, rest)
      | none => (.ok s, rest)
  set { w with issuerCalls := n, issuer := rest }
  pure r

/-- Moves the token clock on by a number of seconds and answers the new reading; a value
that is not a number cannot be added to the reading. -/
def advanceClock (seconds : Json) : Sim (Except Fault Number) := do
  let w ← getThe World
  match seconds.number? with
  | some s =>
    match w.clock.add s with
    | .ok t =>
      set { w with clock := t }
      pure (.ok t)
    | .error f => pure (.error f)
  | none =>
    let reading := (Json.ofNumber w.clock).kindName
    pure (.error (Fault.wrongType
      s!"unsupported operand type(s) for +=: '{reading}' and '{seconds.kindName}'"))

def advanceWall (seconds : Json) : Sim (Except Fault Unit) := do
  let w ← getThe World
  match Duration.secondsOf seconds >>= w.wall.shift with
  | .ok t =>
    set { w with wall := t }
    pure (.ok ())
  | .error f => pure (.error f)

def callsView (w : World) : Json := .arr (w.calls.toList.map Http.Request.toJson)

/-- The recorded requests as method, address and parameters. -/
def shortCallsView (w : World) : Json :=
  .arr (w.calls.toList.map fun q =>
    .obj [("method", .str q.method), ("url", .str q.url), ("params", q.params.getD .null)])

end Bench

end RankAdvisor
