import RankAdvisor.Proofs.RunOutcome
import Mathlib.Data.List.Basic

/-! # What a collection asks for and keeps

A collection fetches the chart of every ranked entry over the window, keeps the entries
whose chart came back with bars, and hands what it kept to the sink. In any monad it is one
fetch per entry in entry order, the datasets of the charts with bars, and one saving of
them when there are any (`collect_eq`).

Run on collaborators that note their calls (`Calls`), every entry's chart is fetched once
with the window, the answer is the dataset of each entry whose fetch gave bars, in entry
order and duplicates kept, and the sink is called once with that answer exactly when there
is a sink and the answer is not empty. The sink's own answer is never looked at.

Main statement: `collect_keeps_charted`.
-/

namespace RankAdvisor

set_option autoImplicit false

open Market

/-! ## In any monad -/

/-- The dataset of an entry whose fetch gave bars; none for a failed fetch or an empty
chart. -/
def datasetOf (day : Date) (e : Entry) : Except Fault (List Bar) → Option Dataset
  | .ok bars => if bars.isEmpty then none else some (Dataset.ofBars e bars day)
  | .error _ => none

/-- Hands datasets to the sink, if there is one and there are datasets; what the sink
answers is dropped. -/
def handOver {m : Type → Type} [Monad m] (sink : Option (List Dataset → m (Except Fault Unit)))
    (datasets : List Dataset) : m Unit :=
  match sink with
  | some save => if datasets.isEmpty then pure () else do let _ ← save datasets
  | none => pure ()

section Unfolded

variable {m : Type → Type} [Monad m] [LawfulMonad m]

/-- A collection, unfolded: the fetches in entry order, the datasets of the charts with
bars, the hand-over. An empty ranking fetches nothing and keeps nothing, so the early
return needs no case of its own. -/
theorem collect_eq (fetch : Json → Json → m (Except Fault (List Bar)))
    (sink : Option (List Dataset → m (Except Fault Unit))) (days : Json) (entries : List Entry)
    (day : Date) :
    collect fetch sink days entries day =
      entries.mapM (fun e => fetch e.code days) >>= fun outcomes =>
        let datasets := (entries.zip outcomes).filterMap fun (e, r) => datasetOf day e r
        handOver sink datasets *> pure datasets := by
  unfold collect
  split
  · next hnil =>
    rw [List.isEmpty_iff.mp hnil]
    cases sink <;> simp [handOver]
  · simp only [fanOut_zip, bind_map_left]
    congr 1
    funext outcomes
    -- the collection's own choice for each entry is `datasetOf`
    rw [List.filterMap_congr (g := fun p => datasetOf day p.1 p.2) fun p _ => by
      obtain ⟨e, r⟩ := p
      cases r <;> rfl]
    generalize (entries.zip outcomes).filterMap (fun p => datasetOf day p.1 p.2) = datasets
    cases sink with
    | none => simp [handOver]
    | some save =>
      cases h : datasets.isEmpty <;> simp [handOver, h, seqRight_eq_bind, bind_pure_comp]

end Unfolded

/-! ## On collaborators that note their calls -/

/-- What a collection asked of its collaborators: each chart fetched, as its code and days,
in order, and each list of datasets handed to the sink. -/
structure Calls where
  fetches : List (Json × Json) := []
  saved : List (List Dataset) := []

theorem bind_id {α β : Type} (v : Id α) (g : α → Id β) : v >>= g = g v := rfl

namespace Calls

/-- A fetch that notes its call and answers the outcome set for its place among the
calls. -/
def fetch (outcome : Nat → Except Fault (List Bar)) (code days : Json) :
    StateM Calls (Except Fault (List Bar)) :=
  modifyGet fun c => (outcome c.fetches.length, { c with fetches := c.fetches ++ [(code, days)] })

/-- A sink that notes the datasets handed to it and answers `answer`. -/
def save (answer : Except Fault Unit) (datasets : List Dataset) :
    StateM Calls (Except Fault Unit) :=
  modifyGet fun c => (answer, { c with saved := c.saved ++ [datasets] })

theorem fetch_run (outcome : Nat → Except Fault (List Bar)) (code days : Json) (c : Calls) :
    (fetch outcome code days).run c =
      (outcome c.fetches.length, { c with fetches := c.fetches ++ [(code, days)] }) := rfl

theorem mapM_fetch (outcome : Nat → Except Fault (List Bar)) (days : Json)
    (entries : List Entry) (c : Calls) :
    (entries.mapM fun e => fetch outcome e.code days).run c =
      ((List.range' c.fetches.length entries.length).map outcome,
        { c with fetches := c.fetches ++ entries.map fun e => (e.code, days) }) := by
  induction entries generalizing c with
  | nil =>
    simp only [List.mapM_nil, List.length_nil, List.range'_zero, List.map_nil, List.append_nil]
    rfl
  | cons e es ih =>
    have hrest := ih { c with fetches := c.fetches ++ [(e.code, days)] }
    simp only [List.length_append, List.length_singleton, List.append_assoc,
      List.singleton_append] at hrest
    simp only [List.mapM_cons, StateT.run_bind, fetch_run, bind_id, hrest, StateT.run_pure,
      List.length_cons, List.range'_succ, List.map_cons]
    rfl

theorem handOver_save (sink : Option (Except Fault Unit)) (datasets : List Dataset) (c : Calls) :
    (handOver (sink.map save) datasets).run c =
      ((), { c with saved := c.saved ++ if sink.isSome ∧ datasets ≠ [] then [datasets] else [] }) := by
  -- a run that saves nothing leaves the notes as they were
  have hkeep : (pure () : StateM Calls Unit).run c = ((), { c with saved := c.saved ++ [] }) := by
    rw [List.append_nil]
    rfl
  cases sink with
  | none => exact hkeep
  | some answer =>
    cases datasets with
    | nil => exact hkeep
    | cons d ds => rfl

end Calls

/-- What an entry at place `i` keeps when the fetches gave `outcome i`: its dataset, when
the chart came back with bars. -/
def chartAt (outcome : Nat → Except Fault (List Bar)) (day : Date) : Entry × Nat → Option Dataset
  | (e, i) =>
    match outcome i with
    | .ok (b :: bs) => some (Dataset.ofBars e (b :: bs) day)
    | _ => none

/-- The datasets of the entries whose fetch gave bars, in entry order, duplicates kept: the
entry at place `i` got `outcome i`. -/
def charted (entries : List Entry) (outcome : Nat → Except Fault (List Bar)) (day : Date) :
    List Dataset :=
  entries.zipIdx.filterMap (chartAt outcome day)

theorem filterMap_zip_range' (outcome : Nat → Except Fault (List Bar)) (day : Date)
    (entries : List Entry) (k : Nat) :
    (entries.zip ((List.range' k entries.length).map outcome)).filterMap
        (fun p => datasetOf day p.1 p.2) =
      (entries.zipIdx k).filterMap (chartAt outcome day) := by
  induction entries generalizing k with
  | nil => rfl
  | cons e es ih =>
    rw [List.length_cons, List.range'_succ, List.map_cons, List.zip_cons_cons, List.zipIdx_cons,
      List.filterMap_cons, List.filterMap_cons, ih (k + 1)]
    -- the entry's own choice: failed and empty fetches keep nothing
    have hhead : datasetOf day e (outcome k) = chartAt outcome day (e, k) := by
      rcases h : outcome k with f | _ | ⟨b, bs⟩ <;> simp [datasetOf, chartAt, h]
    rw [hhead]

/-- A collection's run on collaborators that note their calls, in closed form: the charted
entries, the fetches in entry order, and the one save of a non-empty answer when there is a
sink. -/
theorem collect_run (entries : List Entry) (days : Json) (day : Date)
    (outcome : Nat → Except Fault (List Bar)) (sink : Option (Except Fault Unit)) :
    (collect (Calls.fetch outcome) (sink.map Calls.save) days entries day).run {} =
      (charted entries outcome day,
        { fetches := entries.map (fun e => (e.code, days)),
          saved := if sink.isSome ∧ charted entries outcome day ≠ [] then
            [charted entries outcome day] else [] }) := by
  rw [collect_eq, StateT.run_bind, Calls.mapM_fetch]
  simp only [seqRight_eq_bind, StateT.run_bind, Calls.handOver_save, bind_id, StateT.run_pure,
    List.length_nil, List.nil_append]
  rw [filterMap_zip_range']
  rfl

/-- A collection on collaborators that note their calls: each entry's chart is fetched once,
in entry order, the answer keeps the datasets of the charted entries whatever the sink says,
and the sink sees that answer once when there is a sink and the answer is not empty. -/
theorem collect_keeps_charted (entries : List Entry) (days : Json) (day : Date)
    (outcome : Nat → Except Fault (List Bar)) (sink : Option (Except Fault Unit)) :
    let r := (collect (Calls.fetch outcome) (sink.map Calls.save) days entries day).run {}
    r.1 = charted entries outcome day ∧
      r.2.fetches = entries.map (fun e => (e.code, days)) ∧
      r.2.saved = if sink.isSome ∧ r.1 ≠ [] then [r.1] else [] := by
  intro r
  have hr : r = _ := collect_run entries days day outcome sink
  rw [hr]
  exact ⟨rfl, rfl, rfl⟩

end RankAdvisor
