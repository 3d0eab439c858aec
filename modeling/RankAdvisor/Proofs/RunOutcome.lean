import Mathlib
import RankAdvisor.Proofs.JobLifecycle

/-! # What one run of a job comes to

The collaborators of a run live in any monad: each call may return, fail, keep state of its
own or choose among answers. Lifted so that they also keep a job table they never touch
(`Analysis.Crew.lift`), a run of a job is a function of what its analysis comes to.

* `Analysis.runInternal_run`: the analysis unfolded. A failed ranking fails it; an empty one
  gives no records, or fails a strict run; otherwise the ranked stocks' charts are collected,
  every collected stock is advised in order, and the records of the advice that came back
  are kept, a failing repository failing the run.
* `Analysis.runJob_lift`: the run of a job settles the job it read with that outcome and
  answers the job read back.
* `Analysis.run_settles_job`: for a job that is missing or running, the table ends with the
  job done with the records, or failed with a text that is never empty, and the run answers
  exactly the job stored.
-/

namespace RankAdvisor
set_option autoImplicit false

/-! ## Collaborators that never touch the job table -/

section Lift

variable {n : Type → Type} [Monad n] [LawfulMonad n]

theorem mapM_lift {σ α β : Type} (items : List α) (g : α → n β) (s : σ) :
    (items.mapM fun x => (StateT.lift (g x) : StateT σ n β)).run s =
      (fun r => (r, s)) <$> items.mapM g := by
  induction items with
  | nil => simp
  | cons x xs ih => simp [List.mapM_cons, ih]

theorem fanOut_lift {σ α β : Type} (items : List α) (f : α → n (Except Fault β)) (s : σ) :
    (fanOut items (fun x => (StateT.lift (f x) : StateT σ n _))).run s =
      (fun r => (r, s)) <$> fanOut items f := by
  have h : (fun x => (do pure (x, ← StateT.lift (f x)) : StateT σ n (α × Except Fault β))) =
      fun x => StateT.lift (do pure (x, ← f x)) := by
    funext x
    ext s'
    simp
  unfold fanOut
  rw [h, mapM_lift]

theorem fanOut_zip {α β : Type} (items : List α) (f : α → n (Except Fault β)) :
    fanOut items f = (items.zip ·) <$> items.mapM f := by
  induction items with
  | nil => simp [fanOut]
  | cons x xs ih =>
    unfold fanOut at ih ⊢
    simp only [List.mapM_cons, ih, map_bind, bind_map_left, bind_assoc, pure_bind, map_pure,
      List.zip_cons_cons]

theorem collect_lift {σ : Type} (fetch : Json → Json → n (Except Fault (List Market.Bar)))
    (sink : Option (List Market.Dataset → n (Except Fault Unit))) (days : Json)
    (entries : List Market.Entry) (day : Date) (s : σ) :
    (collect (fun code d => (StateT.lift (fetch code d) : StateT σ n _))
      (sink.map fun save ds => StateT.lift (save ds)) days entries day).run s =
      (fun r => (r, s)) <$> collect fetch sink days entries day := by
  unfold collect
  split
  · simp
  · simp only [StateT.run_bind, fanOut_lift, bind_map_left]
    cases sink with
    | none => simp
    | some save =>
      simp only [Option.map_some, map_bind]
      congr 1
      funext outcomes
      split <;> simp

end Lift

namespace Analysis

/-- Hands the records to the repository, if there is one and there are records; a failing
repository fails the run. -/
def keep {m : Type → Type} [Monad m] (repository : Option (List Record → m (Except Fault Unit)))
    (records : List Record) : m (Except Fault (List Record)) :=
  match repository with
  | some save =>
    if records.isEmpty then pure (.ok records)
    else (fun r => r.map fun _ => records) <$> save records
  | none => pure (.ok records)

/-- The collaborators of a run, as collaborators that also keep a job table they never
touch. -/
def Crew.lift {n : Type → Type} [Monad n] (c : Crew n) : Crew (StateT JobStore n) where
  rank x := StateT.lift (c.rank x)
  chart code days := StateT.lift (c.chart code days)
  sink := c.sink.map fun save ds => StateT.lift (save ds)
  advise d := StateT.lift (c.advise d)
  repository := c.repository.map fun save rs => StateT.lift (save rs)

section Unfolded

variable {m : Type → Type} [Monad m] [LawfulMonad m]

theorem runInternal_run (c : Crew m) (p : Plan) (day : Date) :
    (c.runInternal p day).run =
      c.rank p.topN >>= fun r => match r with
      | .error f => pure (.error f)
      | .ok entries =>
        if entries.isEmpty then pure (if p.strictRanking then .error emptyRanking else .ok [])
        else collect c.chart c.sink p.windowDays entries day >>= fun datasets =>
          if datasets.isEmpty then pure (.ok [])
          else fanOut datasets c.advise >>= fun outcomes => keep c.repository (recordsOf outcomes) := by
  unfold Crew.runInternal
  simp only [ExceptT.run_bind, ExceptT.run_mk]
  congr 1
  funext r
  cases r with
  | error f => rfl
  | ok entries =>
    simp only
    split
    · split <;> simp
    · simp only [ExceptT.run_bind_lift]
      congr 1
      funext datasets
      split
      · rfl
      · simp only [ExceptT.run_bind_lift]
        congr 1
        funext outcomes
        unfold keep
        cases c.repository with
        | none => rfl
        | some save =>
          -- the run keeps the records only after a repository that succeeds
          cases hr : (recordsOf outcomes).isEmpty
          · simp only [Bool.not_false, if_true, Bool.false_eq_true, if_false, ExceptT.run_bind,
              ExceptT.run_mk, map_eq_pure_bind]
            congr 1
            funext r
            cases r <;> rfl
          · simp

end Unfolded

section Lifted

variable {n : Type → Type} [Monad n] [LawfulMonad n]

theorem keep_lift (repository : Option (List Record → n (Except Fault Unit)))
    (records : List Record) (s : JobStore) :
    (keep (repository.map fun save rs => (StateT.lift (save rs) : StateT JobStore n _))
      records).run s = (fun o => (o, s)) <$> keep repository records := by
  unfold keep
  cases repository with
  | none => simp
  | some save =>
    simp only [Option.map_some]
    split <;> simp

theorem runInternal_lift (c : Crew n) (p : Plan) (day : Date) (s : JobStore) :
    (c.lift.runInternal p day).run.run s = (fun o => (o, s)) <$> (c.runInternal p day).run := by
  rw [runInternal_run, runInternal_run]
  simp only [Crew.lift, StateT.run_bind, StateT.run_lift, bind_assoc, pure_bind, map_bind]
  congr 1
  funext r
  cases r with
  | error f => simp
  | ok entries =>
    simp only
    split
    · simp
    · simp only [StateT.run_bind, collect_lift, bind_map_left, map_bind]
      congr 1
      funext datasets
      split
      · simp
      · simp only [StateT.run_bind, fanOut_lift, bind_map_left, map_bind]
        congr 1
        funext outcomes
        exact keep_lift c.repository _ s

theorem runJob_lift (c : Crew n) (p : Plan) (day : Date) (x : Json) (s : JobStore) :
    (c.lift.runJob p day x).run s =
      (fun o => (((s.settle (finalJob (s.base x) o)).2.get x).getD (finalJob (s.base x) o),
        (s.settle (finalJob (s.base x) o)).2)) <$> (c.runInternal p day).run := by
  have hget : ∀ t : JobStore, (getThe JobStore : StateT JobStore n JobStore).run t = pure (t, t) :=
    fun _ => rfl
  simp only [Crew.runJob, StateT.run_bind, hget, pure_bind, runInternal_lift, map_eq_pure_bind,
    bind_assoc, StateT.run_set, StateT.run_pure]
  congr 1
  funext o
  cases o <;>
  · simp only [finalJob, JobStore.base]
    unfold JobStore.settle
    -- the job's own match and settle's read the same finalize answer
    generalize s.finalize _ = r
    cases r <;> rfl

/-- On a table reached by any calls whose job of `a` is missing or running, the run of
the job stores the job it settles under `a` and answers exactly that job. -/
theorem runJob_stores (c : Crew n) (p : Plan) (day : Date) (a : String) (ops : List JobStore.Op)
    (hopen : (JobStore.after {} ops).isOpen (.str a) = true) :
    (c.lift.runJob p day (.str a)).run (JobStore.after {} ops) =
      (fun o => (finalJob ((JobStore.after {} ops).base (.str a)) o,
        (JobStore.after {} ops).save (finalJob ((JobStore.after {} ops).base (.str a)) o))) <$>
        (c.runInternal p day).run := by
  rw [runJob_lift]
  congr 1
  funext o
  have hk := JobStore.keyed_after a ops (JobStore.keyed_empty a)
  have hid : (finalJob ((JobStore.after {} ops).base (.str a)) o).id = .str a :=
    (finalJob_id _ o).trans (JobStore.base_id hk)
  rw [JobStore.settle_terminal _ _ (finalJob_isTerminal _ o), hid, hopen]
  simp [JobStore.get_save_self _ _ a hid]

end Lifted

/-! ## What the job becomes -/

theorem className_ne_empty (k : FaultKind) : k.className ≠ "" := by
  cases k with
  | wire w => cases w <;> decide
  | _ => decide

theorem failureText_ne_empty (f : Fault) : failureText f ≠ "" := by
  unfold failureText
  split
  · exact className_ne_empty f.kind
  · rename_i h
    simpa using h

theorem finalJob_ok (job : Job) (records : List Record) :
    (finalJob job (.ok records)).status = .done ∧ (finalJob job (.ok records)).results = records ∧
      (finalJob job (.ok records)).startedAt = job.startedAt ∧
      (finalJob job (.ok records)).finished = true :=
  ⟨rfl, rfl, rfl, rfl⟩

theorem finalJob_error (job : Job) (f : Fault) :
    (finalJob job (.error f)).status = .failed ∧ (finalJob job (.error f)).results = [] ∧
      (finalJob job (.error f)).errorMessage = some (.str (failureText f)) ∧
      failureText f ≠ "" ∧ (finalJob job (.error f)).startedAt = job.startedAt ∧
      (finalJob job (.error f)).finished = true :=
  ⟨rfl, rfl, rfl, failureText_ne_empty f, rfl, rfl⟩

end Analysis

open JobStore Analysis in
/-- A run of a job, whatever its collaborators do: on a table whose job is missing or
running it stores the job done with the advice's records or failed with a text that is
never empty, and answers exactly that job. -/
theorem run_settles_job {n : Type → Type} [Monad n] [LawfulMonad n] (c : Crew n) (p : Plan)
    (day : Date) :
    (c.runInternal p day).run =
      (c.rank p.topN >>= fun r => match r with
        | .error f => pure (.error f)
        | .ok entries =>
          if entries.isEmpty then pure (if p.strictRanking then .error emptyRanking else .ok [])
          else collect c.chart c.sink p.windowDays entries day >>= fun datasets =>
            if datasets.isEmpty then pure (.ok [])
            else (datasets.zip ·) <$> datasets.mapM c.advise >>= fun outcomes =>
              keep c.repository (recordsOf outcomes)) ∧
    (∀ (a : String) (ops : List Op), (after {} ops).isOpen (.str a) = true →
      (c.lift.runJob p day (.str a)).run (after {} ops) =
        (fun o => (finalJob ((after {} ops).base (.str a)) o,
          (after {} ops).save (finalJob ((after {} ops).base (.str a)) o))) <$>
          (c.runInternal p day).run ∧
      ∀ o, ((after {} ops).save (finalJob ((after {} ops).base (.str a)) o)).get (.str a) =
        some (finalJob ((after {} ops).base (.str a)) o)) ∧
    (∀ job records, (finalJob job (.ok records)).status = .done ∧
      (finalJob job (.ok records)).results = records ∧
      (finalJob job (.ok records)).startedAt = job.startedAt ∧
      (finalJob job (.ok records)).finished = true) ∧
    (∀ job f, (finalJob job (.error f)).status = .failed ∧ (finalJob job (.error f)).results = [] ∧
      (finalJob job (.error f)).errorMessage = some (.str (failureText f)) ∧
      failureText f ≠ "" ∧ (finalJob job (.error f)).startedAt = job.startedAt ∧
      (finalJob job (.error f)).finished = true) := by
  refine ⟨?_, fun a ops hopen => ⟨runJob_stores c p day a ops hopen, fun o => ?_⟩,
    finalJob_ok, finalJob_error⟩
  · simp only [runInternal_run, fanOut_zip]
  · have hk := keyed_after a ops (keyed_empty a)
    exact get_save_self _ _ a ((finalJob_id _ o).trans (base_id hk))

namespace Analysis

def quietCrew : Crew Id where
  rank _ := pure (.ok [])
  chart _ _ := pure (.ok [])
  sink := none
  advise _ := pure (.error (Fault.parse "no advice"))
  repository := none

open JobStore in
theorem run_settles_job_quiet :
    (after {} []).isOpen (.str "job1") = true ∧
      (quietCrew.lift.runJob {} ⟨2024, 3, 20⟩ (.str "job1")).run (after {} []) =
        (fun o => (finalJob ((after {} []).base (.str "job1")) o,
          (after {} []).save (finalJob ((after {} []).base (.str "job1")) o))) <$>
          (quietCrew.runInternal {} ⟨2024, 3, 20⟩).run :=
  ⟨rfl, ((run_settles_job quietCrew {} ⟨2024, 3, 20⟩).2.1 "job1" [] rfl).1⟩

end Analysis

end RankAdvisor
