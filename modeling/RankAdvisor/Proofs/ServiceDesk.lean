import Mathlib
import RankAdvisor.Proofs.JobLifecycle
import RankAdvisor.Analysis.Service
import RankAdvisor.Proofs.PoolSlots

/-! # The service's desk: jobs issued, run in the background, and asked about

The service hands each job it issues to the job pool and registers the job's future; a
callback drops the future once the run is over. Callers ask about jobs at any time, while
the pool's runs take their table calls in between. The desk records what these calls see:
the job table, the run of every issued job, the futures still registered and the waits
blocked on a future. Runs are the three-call runs of `JobRun`, so a run in the pool is one
orchestrated run of its job, interleaved with everything else at its table calls.

A submission can run its job at once (the pool is saturated and the submitter runs it) or
leave it in the pool; both are a schedule of the pool's steps taken between handing the run
over and registering its future, and a run that is over by then is not registered.

* `Desk.Sound`: the table holds jobs of issued ids only, each run fits the job it finds in
  the table, a registered future is one of a run still under way, a run still under way has
  its future registered, and a blocked wait waits on the run of its job. Every call keeps it
  (`Sound.act`), so every desk reached by calls from the empty one is sound (`sound_after`).
* `answers_agree`: on every reachable desk, a submission is refused, changing nothing,
  exactly for a command other than `run`; an issued job is running exactly while its run has
  not finalized, then keeps its terminal job for ever; the records of a job are answered
  once it is done; an unknown id has no status and is not found; a wait answers the
  terminal job that the table holds, whether it finds the future or the table; and the
  futures registered are those of runs still under way.
-/

namespace RankAdvisor
set_option autoImplicit false

namespace JobStore

theorem get_save_of_ne (s : JobStore) (j : Job) {a : String} (hid : j.id = .str a) {y : Json}
    (hy : y ≠ .str a) : (s.save j).get y = s.get y := by
  have hkey : ∀ k, Json.sameValue k y = true → Json.sameValue k j.id = false := by
    intro k hk
    rw [hid]
    cases hs : Json.sameValue k (.str a)
    · rfl
    · rw [(Json.sameValue_str_right a k).mp hs] at hk
      exact absurd ((Json.sameValue_str_left a y).mp hk) hy
  unfold save get
  split
  · rw [find?_rewrite]
    cases hfind : s.jobs.find? (fun e => Json.sameValue e.1 y) with
    | none => rfl
    | some e =>
      have hsame := List.find?_some hfind
      simp [hkey e.1 hsame]
  · rw [List.find?_append]
    cases s.jobs.find? (fun e => Json.sameValue e.1 y) <;>
      simp [hid, Json.sameValue_str_left_false a y hy]

end JobStore

namespace Analysis

open JobStore

/-! ## The service's reads of the table -/

section Reads

variable (x : Json) (s : JobStore)

theorem poll_run :
    (Service.poll (m := StateM JobStore) x).run' s = (s.get x).map (·.status) := rfl

theorem getJob_run : (Service.getJob (m := StateM JobStore) x).run' s = s.get x := rfl

theorem fetch_run : (Service.fetch (m := StateM JobStore) x).run.run' s =
    match s.get x with
    | none => .error (jobNotFound x)
    | some j => .ok (if j.status == JobStatus.done then some j.results else none) := by
  show (match s.get x with
    | none => (throw (jobNotFound x) : ExceptT Fault (StateM JobStore) _)
    | some j => pure (if j.status == JobStatus.done then some j.results else none)).run.run' s = _
  cases s.get x <;> rfl

theorem wait_run : (Service.wait (m := StateM JobStore) x).run.run' s =
    match s.get x with
    | none => .error (jobNotFound x)
    | some j => .ok j := by
  show (match s.get x with
    | none => (throw (jobNotFound x) : ExceptT Fault (StateM JobStore) Job)
    | some j => pure j).run.run' s = _
  cases s.get x <;> rfl

theorem storeRunning_run :
    (Service.storeRunning (m := StateM JobStore) x).run s = ((), s.save (Job.running x)) := rfl

end Reads

/-! ## The desk -/

namespace JobRun

/-- The job a run answered, once it has. -/
def answer? (r : JobRun) : Option Job :=
  match r.stage with
  | .answered job _ => some job
  | _ => none

end JobRun

/-- What the service's desk holds between calls: the job table, the run of every job issued
so far with the job's id, in order of issue, the futures still registered (a job's id and
the place of its run), and the waits blocked on a future. -/
structure Desk where
  store : JobStore := {}
  runs : List (String × JobRun) := []
  futures : List (String × Nat) := []
  waiting : List (String × Nat) := []

/-- A call made of the desk: by a caller of the service, or by the job pool. -/
inductive Call where
  /-- A submission of `command` under the fresh id `a`, whose run's analysis comes to
  `outcome`; the pool takes the steps `sched` before the future is registered. -/
  | submit (command : String) (a : String) (outcome : Except Fault (List Record))
      (sched : List Nat)
  /-- A run at once under the fresh id `a`, with the pool's steps `sched` among its own. -/
  | runNow (a : String) (outcome : Except Fault (List Record)) (sched : List Nat)
  | poll (x : Json)
  | getJob (x : Json)
  | fetch (x : Json)
  | wait (x : Json)
  /-- The `k`-th blocked wait returns. -/
  | resume (k : Nat)
  /-- The next table call of the `i`-th run. -/
  | work (i : Nat)

/-- What a call answers. -/
inductive Answer where
  | issued (a : String)
  | status (s : Option JobStatus)
  | job (j : Option Job)
  | records (r : Option (List Record))
  | refused (f : Fault)
  | blocked
  | worked

/-- The answer of a call that fails with a fault or answers a value. -/
def Answer.ofExcept {α : Type} (k : α → Answer) : Except Fault α → Answer
  | .ok v => k v
  | .error f => .refused f

namespace Desk

def issued (d : Desk) : List String := d.runs.map Prod.fst

/-- The job the `i`-th run answered, once it has: the result of its future. -/
def result? (d : Desk) (i : Nat) : Option Job := d.runs[i]?.bind fun p => p.2.answer?

def futureOf (d : Desk) (x : Json) : Option (String × Nat) :=
  d.futures.find? fun e => x.isText e.1

def release (d : Desk) (a : String) : Desk :=
  { d with futures := d.futures.filter fun e => e.1 != a }

/-- The next table call of the `i`-th run; when the run answers, its future's callback drops
the future. -/
def work (d : Desk) (i : Nat) : Option Desk :=
  match d.runs[i]? with
  | none => none
  | some (a, r) =>
    (r.next (.str a) d.store).map fun p =>
      let d' := { d with store := p.2, runs := d.runs.set i (a, p.1) }
      if p.1.answer?.isSome then d'.release a else d'

/-- The pool's steps in the order a schedule names them; a step that cannot be taken lets
its turn pass. -/
def workAll (d : Desk) : List Nat → Desk
  | [] => d
  | i :: sched => ((d.work i).getD d).workAll sched

/-- Stores a running job under the fresh id `a` and hands its run to the pool. -/
def enter (d : Desk) (a : String) (outcome : Except Fault (List Record)) : Desk :=
  { d with
    store := ((Service.storeRunning (m := StateM JobStore) (.str a)).run d.store).2
    runs := d.runs ++ [(a, ⟨outcome, .ready⟩)] }

/-- Registers the future of the `i`-th run under `a`; the callback of a future already done
drops it at once. -/
def register (d : Desk) (a : String) (i : Nat) : Desk :=
  if (d.result? i).isSome then d else { d with futures := d.futures ++ [(a, i)] }

/-- A call made of the desk, with its answer; none when the call cannot be made now: an id
already issued is not fresh, a run at once returns only once its run has answered, a wait
resumes only once its future is done, and a pool step needs a run that can move. -/
def act (d : Desk) : Call → Option (Desk × Answer)
  | .submit command a outcome sched =>
    if command != runCommand then
      some (d, .refused (Fault.badValue s!"不支持的命令: {command}"))
    else if a ∈ d.issued then none
    else some (((d.enter a outcome).workAll sched).register a d.runs.length, .issued a)
  | .runNow a outcome sched =>
    if a ∈ d.issued then none
    else
      let d' := (d.enter a outcome).workAll sched
      (d'.result? d.runs.length).map fun job => (d', .job (some job))
  | .poll x => some (d, .status ((Service.poll (m := StateM JobStore) x).run' d.store))
  | .getJob x => some (d, .job ((Service.getJob (m := StateM JobStore) x).run' d.store))
  | .fetch x =>
    some (d, .ofExcept .records ((Service.fetch (m := StateM JobStore) x).run.run' d.store))
  | .wait x =>
    match d.futureOf x with
    | some (a, i) =>
      match d.result? i with
      | some job => some (d.release a, .job (some job))
      | none => some ({ d with waiting := d.waiting ++ [(a, i)] }, .blocked)
    | none =>
      some (d, .ofExcept (fun j => .job (some j))
        ((Service.wait (m := StateM JobStore) x).run.run' d.store))
  | .resume k =>
    match d.waiting[k]? with
    | none => none
    | some (a, i) => (d.result? i).map fun job =>
        ({ d.release a with waiting := d.waiting.eraseIdx k }, .job (some job))
  | .work i => (d.work i).map fun d' => (d', .worked)

/-- The desk after calls; a call that cannot be made is passed over. -/
def after (d : Desk) : List Call → Desk
  | [] => d
  | c :: cs => (((d.act c).map Prod.fst).getD d).after cs

end Desk

/-! ## A run against the table -/

/-- How a run of the job `a` stands against the job `o` the table holds for `a`: a run that
has not finalized finds it running and holds a job of `a`, a finalized run finds it
terminal, and an answered run answered it. -/
def RunFits (a : String) (o : Option Job) (r : JobRun) : Prop :=
  match r.stage with
  | .ready => ∃ j, o = some j ∧ j.status = .running
  | .working job => job.id = .str a ∧ ∃ j, o = some j ∧ j.status = .running
  | .finalized _ _ => ∃ t, o = some t ∧ t.isTerminal = true
  | .answered job _ => o = some job ∧ job.isTerminal = true

theorem JobRun.answer?_of_next {x : Json} {s s' : JobStore} {r r' : JobRun}
    (hn : r.next x s = some (r', s')) : r.answer? = none := by
  obtain ⟨o, st⟩ := r
  cases st with
  | answered job w => cases hn
  | _ => rfl

/-- One call of a run of `a` keeps it fitting the table, and leaves the table as it was or
writes a job of `a` over a running one. -/
theorem fits_next {a : String} {s s' : JobStore} {r r' : JobRun} (hk : Keyed a s)
    (h : RunFits a (s.get (.str a)) r) (hn : r.next (.str a) s = some (r', s')) :
    RunFits a (s'.get (.str a)) r' ∧
      (s' = s ∨ ∃ t, t.id = .str a ∧ s' = s.save t ∧ s.isOpen (.str a) = true) := by
  obtain ⟨o, st⟩ := r
  cases st with
  | ready =>
    simp only [JobRun.next, Option.some.injEq, Prod.mk.injEq] at hn
    obtain ⟨rfl, rfl⟩ := hn
    exact ⟨⟨base_id hk, h⟩, .inl rfl⟩
  | working job =>
    obtain ⟨hid, j, hget, hrun⟩ := h
    have hopen : s.isOpen (.str a) = true := by
      rw [isOpen_of_get hget, (isTerminal_eq_false_iff j).mpr hrun]
      rfl
    have hfin : (finalJob job o).id = .str a := (finalJob_id job o).trans hid
    have hterm := finalJob_isTerminal job o
    simp only [JobRun.next, Option.some.injEq, Prod.mk.injEq] at hn
    obtain ⟨rfl, rfl⟩ := hn
    rw [settle_terminal s _ hterm, hfin, if_pos hopen]
    exact ⟨⟨_, get_save_self s _ a hfin, hterm⟩, .inr ⟨_, hfin, rfl, hopen⟩⟩
  | finalized final w =>
    obtain ⟨t, hget, ht⟩ := h
    simp only [JobRun.next, Option.some.injEq, Prod.mk.injEq] at hn
    obtain ⟨rfl, rfl⟩ := hn
    refine ⟨?_, .inl rfl⟩
    show s.get (.str a) = some ((s.get (.str a)).getD final) ∧ _
    rw [hget]
    exact ⟨rfl, ht⟩
  | answered job w => cases hn

theorem RunFits.answered {a : String} {o : Option Job} {r : JobRun} {job : Job}
    (h : RunFits a o r) (hr : r.answer? = some job) : o = some job ∧ job.isTerminal = true := by
  obtain ⟨outcome, st⟩ := r
  cases st with
  | answered j w =>
    cases hr
    exact h
  | _ => cases hr

theorem RunFits.running_iff {a : String} {o : Option Job} {r : JobRun} (h : RunFits a o r) :
    ∃ j, o = some j ∧ (j.status = .running ↔ r.early = true) := by
  obtain ⟨outcome, st⟩ := r
  cases st with
  | ready =>
    obtain ⟨j, hj, hrun⟩ := h
    exact ⟨j, hj, iff_of_true hrun rfl⟩
  | working job =>
    obtain ⟨-, j, hj, hrun⟩ := h
    exact ⟨j, hj, iff_of_true hrun rfl⟩
  | finalized final w =>
    obtain ⟨t, ht, hterm⟩ := h
    exact ⟨t, ht, iff_of_false ((isTerminal_iff t).mp hterm) (by simp [JobRun.early])⟩
  | answered job w =>
    obtain ⟨hj, hterm⟩ := h
    exact ⟨job, hj, iff_of_false ((isTerminal_iff job).mp hterm) (by simp [JobRun.early])⟩

/-! ## Places among the runs -/

theorem getElem?_set_run {runs : List (String × JobRun)} {i : Nat} {a : String} {r : JobRun}
    (hi : runs[i]? = some (a, r)) (r' : JobRun) (k : Nat) :
    (runs.set i (a, r'))[k]? = if k = i then some (a, r') else runs[k]? := by
  have hlt : i < runs.length := (List.getElem?_eq_some_iff.mp hi).1
  rw [List.getElem?_set]
  by_cases hk : k = i
  · subst hk
    simp [hlt]
  · simp [hk, Ne.symm hk]

namespace Desk

theorem mem_issued {d : Desk} {a : String} : a ∈ d.issued ↔ ∃ (k : Nat) (r : JobRun), d.runs[k]? = some (a, r) := by
  unfold issued
  rw [List.mem_map]
  constructor
  · rintro ⟨⟨b, r⟩, hmem, rfl⟩
    obtain ⟨k, hk⟩ := List.mem_iff_getElem?.mp hmem
    exact ⟨k, r, hk⟩
  · rintro ⟨k, r, hk⟩
    exact ⟨(a, r), List.mem_iff_getElem?.mpr ⟨k, hk⟩, rfl⟩

@[simp] theorem enter_store (d : Desk) (a : String) (o : Except Fault (List Record)) :
    (d.enter a o).store = d.store.save (Job.running (.str a)) := rfl

@[simp] theorem enter_runs (d : Desk) (a : String) (o : Except Fault (List Record)) :
    (d.enter a o).runs = d.runs ++ [(a, ⟨o, .ready⟩)] := rfl

@[simp] theorem release_store (d : Desk) (a : String) : (d.release a).store = d.store := rfl

@[simp] theorem release_runs (d : Desk) (a : String) : (d.release a).runs = d.runs := rfl

@[simp] theorem release_waiting (d : Desk) (a : String) : (d.release a).waiting = d.waiting := rfl

theorem work_some {d d' : Desk} {i : Nat} (hw : d.work i = some d') :
    ∃ a r r' s, d.runs[i]? = some (a, r) ∧ r.next (.str a) d.store = some (r', s) ∧
      d' = if r'.answer?.isSome then
        ({ d with store := s, runs := d.runs.set i (a, r') } : Desk).release a
      else { d with store := s, runs := d.runs.set i (a, r') } := by
  unfold work at hw
  split at hw
  · cases hw
  · rename_i a r hi
    cases hn : r.next (.str a) d.store with
    | none => simp [hn] at hw
    | some p =>
      obtain ⟨r', s⟩ := p
      simp only [hn, Option.map_some, Option.some.injEq] at hw
      exact ⟨a, r, r', s, hi, hn, hw.symm⟩

/-! ## Sound desks -/

/-- The table and the runs agree: the table is keyed by its jobs' ids and holds jobs of
issued ids only, an id has one run, and each run fits the job the table holds for it. -/
structure Fits (d : Desk) : Prop where
  keyed : ∀ b, Keyed b d.store
  unissued : ∀ x, (∀ (k : Nat) a r, d.runs[k]? = some (a, r) → x ≠ .str a) → d.store.get x = none
  unique : ∀ (k l : Nat) a r q, d.runs[k]? = some (a, r) → d.runs[l]? = some (a, q) → k = l
  fits : ∀ (k : Nat) a r, d.runs[k]? = some (a, r) → RunFits a (d.store.get (.str a)) r

namespace Fits

variable {d : Desk}

theorem issued_of_get (h : d.Fits) {x : Json} {j : Job} (hget : d.store.get x = some j) :
    ∃ (k : Nat) (a : String) (r : JobRun), d.runs[k]? = some (a, r) ∧ x = .str a := by
  refine Classical.byContradiction fun hne => ?_
  rw [h.unissued x fun k a r hk hxa => hne ⟨k, a, r, hk, hxa⟩] at hget
  cases hget

theorem enter (h : d.Fits) {a : String} (ha : a ∉ d.issued) (o : Except Fault (List Record)) :
    (d.enter a o).Fits := by
  have hfresh : ∀ (k : Nat) r, d.runs[k]? = some (a, r) → False :=
    fun k r hk => ha (mem_issued.mpr ⟨k, r, hk⟩)
  have hid : (Job.running (.str a)).id = .str a := rfl
  refine ⟨fun b => keyed_save (h.keyed b) _, ?_, ?_, ?_⟩
  · intro x hx
    have hxa : x ≠ .str a := hx d.runs.length a ⟨o, .ready⟩ (by simp)
    rw [enter_store, get_save_of_ne _ _ hid hxa]
    exact h.unissued x fun k b r hk => hx k b r (by simp [List.getElem?_append_left (List.getElem?_eq_some_iff.mp hk).1, hk])
  · intro k l b r q hk hl
    simp only [enter_runs] at hk hl
    rcases Pool.getElem?_append_single hk with ⟨rfl, hkr⟩ | ⟨-, hk⟩ <;>
      rcases Pool.getElem?_append_single hl with ⟨rfl, hlq⟩ | ⟨-, hl⟩
    · rfl
    · simp only [Prod.mk.injEq] at hkr
      exact (hfresh l q (hkr.1 ▸ hl)).elim
    · simp only [Prod.mk.injEq] at hlq
      exact (hfresh k r (hlq.1 ▸ hk)).elim
    · exact h.unique k l b r q hk hl
  · intro k b r hk
    simp only [enter_runs, enter_store] at hk ⊢
    rcases Pool.getElem?_append_single hk with ⟨-, hkr⟩ | ⟨-, hk⟩
    · simp only [Prod.mk.injEq] at hkr
      obtain ⟨rfl, rfl⟩ := hkr
      exact ⟨_, get_save_self _ _ b hid, rfl⟩
    · have hba : Json.str b ≠ .str a := fun hba => hfresh k r (by cases hba; exact hk)
      rw [get_save_of_ne _ _ hid hba]
      exact h.fits k b r hk

theorem advance (h : d.Fits) {i : Nat} {a : String} {r r' : JobRun} {s : JobStore}
    (hi : d.runs[i]? = some (a, r)) (hn : r.next (.str a) d.store = some (r', s)) :
    Fits { d with store := s, runs := d.runs.set i (a, r') } := by
  obtain ⟨hfit, hframe⟩ := fits_next (h.keyed a) (h.fits i a r hi) hn
  have hset := getElem?_set_run hi r'
  -- every other job is left as it was
  have hother : ∀ y, y ≠ .str a → s.get y = d.store.get y := by
    intro y hy
    rcases hframe with rfl | ⟨t, ht, rfl, -⟩
    · rfl
    · exact get_save_of_ne _ _ ht hy
  -- the job at every place is the one it was
  have hsame : ∀ (k : Nat) b q, (d.runs.set i (a, r'))[k]? = some (b, q) → ∃ q', d.runs[k]? = some (b, q') := by
    intro k b q hk
    rw [hset] at hk
    split at hk
    · subst k
      simp only [Option.some.injEq, Prod.mk.injEq] at hk
      exact ⟨r, hk.1 ▸ hi⟩
    · exact ⟨q, hk⟩
  refine ⟨fun b => ?_, ?_, ?_, ?_⟩
  · rcases hframe with rfl | ⟨t, -, rfl, -⟩
    · exact h.keyed b
    · exact keyed_save (h.keyed b) t
  · intro x hx
    have hxa : x ≠ .str a := hx i a r' (by rw [hset]; simp)
    show s.get x = none
    rw [hother x hxa]
    refine h.unissued x fun k b q hk => ?_
    by_cases hki : k = i
    · subst hki
      rw [hi, Option.some.injEq, Prod.mk.injEq] at hk
      rw [← hk.1]
      exact hxa
    · exact hx k b q (by rw [hset, if_neg hki]; exact hk)
  · intro k l b q q' hk hl
    obtain ⟨_, hk⟩ := hsame k b q hk
    obtain ⟨_, hl⟩ := hsame l b q' hl
    exact h.unique k l b _ _ hk hl
  · intro k b q hk
    show RunFits b (s.get (.str b)) q
    rw [hset] at hk
    split at hk
    · subst k
      simp only [Option.some.injEq, Prod.mk.injEq] at hk
      obtain ⟨rfl, rfl⟩ := hk
      exact hfit
    · rename_i hki
      have hba : Json.str b ≠ .str a := by
        intro hba
        have hb : b = a := Json.str.inj hba
        rw [hb] at hk
        exact hki (h.unique k i a q r hk hi)
      rw [hother _ hba]
      exact h.fits k b q hk

theorem of_eq (h : d.Fits) {d' : Desk} (hs : d'.store = d.store) (hr : d'.runs = d.runs) :
    d'.Fits := by
  obtain ⟨hkeyed, hunissued, hunique, hfits⟩ := h
  exact ⟨hs ▸ hkeyed, hs ▸ hr ▸ hunissued, hr ▸ hunique, hs ▸ hr ▸ hfits⟩

theorem work (h : d.Fits) {i : Nat} {d' : Desk} (hw : d.work i = some d') : d'.Fits := by
  obtain ⟨a, r, r', s, hi, hn, rfl⟩ := work_some hw
  have hmid := h.advance hi hn
  split
  · exact hmid.of_eq rfl rfl
  · exact hmid

end Fits


/-- A sound desk: its table and runs agree, each registered future is that of its job's
unanswered run, each unanswered run among the first `n` is registered, and a blocked wait
waits on its job's run. -/
structure Sound (d : Desk) (n : Nat) : Prop extends Fits d where
  registered : ∀ a (i : Nat), (a, i) ∈ d.futures → ∃ r, d.runs[i]? = some (a, r) ∧ r.answer? = none
  pending : ∀ (i : Nat) a r, i < n → d.runs[i]? = some (a, r) → r.answer? = none →
    (a, i) ∈ d.futures
  waits : ∀ a (i : Nat), (a, i) ∈ d.waiting → ∃ r, d.runs[i]? = some (a, r)

theorem sound_empty : ({} : Desk).Sound 0 where
  keyed b := keyed_empty b
  unissued _ _ := rfl
  unique _ _ _ _ _ hk := by simp at hk
  fits _ _ _ hk := by simp at hk
  registered _ _ hm := by simp at hm
  pending _ _ _ hlt := absurd hlt (Nat.not_lt_zero _)
  waits _ _ hm := by simp at hm

theorem getElem?_append_of_some {l l' : List (String × JobRun)} {k : Nat} {p : String × JobRun}
    (hk : l[k]? = some p) : (l ++ l')[k]? = some p := by
  rw [List.getElem?_append_left (List.getElem?_eq_some_iff.mp hk).1, hk]

namespace Sound

variable {d : Desk} {n : Nat}

theorem enter (h : d.Sound d.runs.length) {a : String} (ha : a ∉ d.issued)
    (o : Except Fault (List Record)) : (d.enter a o).Sound d.runs.length where
  toFits := h.toFits.enter ha o
  registered b i hm := by
    obtain ⟨r, hi, hr⟩ := h.registered b i hm
    exact ⟨r, getElem?_append_of_some hi, hr⟩
  pending i b r hlt hi hr := by
    rw [enter_runs, List.getElem?_append_left hlt] at hi
    exact h.pending i b r hlt hi hr
  waits b i hm := by
    obtain ⟨r, hi⟩ := h.waits b i hm
    exact ⟨r, getElem?_append_of_some hi⟩

theorem work (h : d.Sound n) {i : Nat} {d' : Desk} (hw : d.work i = some d') : d'.Sound n := by
  obtain ⟨a, r, r', s, hi, hn, rfl⟩ := work_some hw
  have hmid := h.toFits.advance hi hn
  have hset := getElem?_set_run hi r'
  have hpend : r.answer? = none := JobRun.answer?_of_next hn
  -- each place holds the run it held, the run at `i` after its call
  have hat : ∀ (k : Nat) b q, d.runs[k]? = some (b, q) →
      (k = i ∧ b = a ∧ (d.runs.set i (a, r'))[k]? = some (a, r')) ∨
        (k ≠ i ∧ (d.runs.set i (a, r'))[k]? = some (b, q)) := by
    intro k b q hk
    rw [hset]
    by_cases hki : k = i
    · subst hki
      rw [hi, Option.some.injEq, Prod.mk.injEq] at hk
      exact .inl ⟨rfl, hk.1.symm, by simp⟩
    · exact .inr ⟨hki, by rw [if_neg hki]; exact hk⟩
  have hwaits : ∀ b (k : Nat), (b, k) ∈ d.waiting →
      ∃ q, (d.runs.set i (a, r'))[k]? = some (b, q) := by
    intro b k hm
    obtain ⟨q, hk⟩ := h.waits b k hm
    rcases hat k b q hk with ⟨-, rfl, hk'⟩ | ⟨-, hk'⟩
    · exact ⟨r', hk'⟩
    · exact ⟨q, hk'⟩
  split
  · -- the run answers: its future is dropped, and every other future is of another job
    rename_i hans
    refine ⟨hmid.of_eq rfl rfl, ?_, ?_, hwaits⟩
    · intro b k hm
      obtain ⟨hm, hb⟩ := List.mem_filter.mp hm
      obtain ⟨q, hk, hq⟩ := h.registered b k hm
      rcases hat k b q hk with ⟨-, rfl, -⟩ | ⟨-, hk'⟩
      · simp at hb
      · exact ⟨q, hk', hq⟩
    · intro k b q hlt hk hq
      show (b, k) ∈ d.futures.filter fun e => e.1 != a
      rw [release_runs, hset] at hk
      split at hk
      · simp only [Option.some.injEq, Prod.mk.injEq] at hk
        rw [hk.2, hq] at hans
        cases hans
      · rename_i hki
        have hba : b ≠ a := by
          rintro rfl
          exact hki (h.unique k i b q r hk hi)
        exact List.mem_filter.mpr ⟨h.pending k b q hlt hk hq, by simpa using hba⟩
  · -- the run is still under way and keeps its future
    rename_i hans
    have hr' : r'.answer? = none := by simpa using hans
    refine ⟨hmid, ?_, ?_, hwaits⟩
    · intro b k hm
      obtain ⟨q, hk, hq⟩ := h.registered b k hm
      rcases hat k b q hk with ⟨-, rfl, hk'⟩ | ⟨-, hk'⟩
      · exact ⟨r', hk', hr'⟩
      · exact ⟨q, hk', hq⟩
    · intro k b q hlt hk hq
      rw [hset] at hk
      split at hk
      · rename_i hki
        subst hki
        simp only [Option.some.injEq, Prod.mk.injEq] at hk
        rw [← hk.1]
        exact h.pending k a r hlt hi hpend
      · exact h.pending k b q hlt hk hq

theorem extend (h : d.Sound n) (hdone : (d.result? n).isSome) : d.Sound (n + 1) := by
  refine { h with pending := ?_ }
  intro k b q hlt hk hq
  rcases Nat.lt_succ_iff_lt_or_eq.mp hlt with hlt | rfl
  · exact h.pending k b q hlt hk hq
  · simp [result?, hk, hq] at hdone

theorem register (h : d.Sound n) {a : String} (hn : ∃ r, d.runs[n]? = some (a, r)) :
    (d.register a n).Sound (n + 1) := by
  unfold Desk.register
  split
  · exact h.extend ‹_›
  · rename_i hnot
    obtain ⟨r, hr⟩ := hn
    have hq : r.answer? = none := by simpa [result?, hr] using hnot
    refine ⟨h.toFits.of_eq rfl rfl, ?_, ?_, h.waits⟩
    · intro b k hm
      rcases List.mem_append.mp hm with hm | hm
      · exact h.registered b k hm
      · simp only [List.mem_singleton, Prod.mk.injEq] at hm
        obtain ⟨rfl, rfl⟩ := hm
        exact ⟨r, hr, hq⟩
    · intro k b q hlt hk hq'
      rcases Nat.lt_succ_iff_lt_or_eq.mp hlt with hlt | rfl
      · exact List.mem_append_left _ (h.pending k b q hlt hk hq')
      · rw [hr, Option.some.injEq, Prod.mk.injEq] at hk
        rw [← hk.1]
        exact List.mem_append_right _ (List.mem_singleton_self _)

theorem release (h : d.Sound n) {i : Nat} {a : String} {r : JobRun}
    (hi : d.runs[i]? = some (a, r)) (hdone : r.answer? ≠ none) : (d.release a).Sound n := by
  refine ⟨h.toFits.of_eq rfl rfl, ?_, ?_, h.waits⟩
  · intro b k hm
    exact h.registered b k (List.mem_filter.mp hm).1
  · intro k b q hlt hk hq
    rw [release_runs] at hk
    -- the run of `a` has answered, so a run still under way is of another job
    have hba : b ≠ a := by
      rintro rfl
      have hki := h.unique k i b q r hk hi
      subst hki
      rw [hi, Option.some.injEq, Prod.mk.injEq] at hk
      exact hdone (hk.2 ▸ hq)
    exact List.mem_filter.mpr ⟨h.pending k b q hlt hk hq, by simpa using hba⟩

theorem block (h : d.Sound n) {a : String} {i : Nat} (hi : ∃ r, d.runs[i]? = some (a, r)) :
    ({ d with waiting := d.waiting ++ [(a, i)] } : Desk).Sound n := by
  refine ⟨h.toFits.of_eq rfl rfl, h.registered, h.pending, ?_⟩
  intro b k hm
  rcases List.mem_append.mp hm with hm | hm
  · exact h.waits b k hm
  · simp only [List.mem_singleton, Prod.mk.injEq] at hm
    obtain ⟨rfl, rfl⟩ := hm
    exact hi

theorem unblock (h : d.Sound n) (k : Nat) :
    ({ d with waiting := d.waiting.eraseIdx k } : Desk).Sound n :=
  ⟨h.toFits.of_eq rfl rfl, h.registered, h.pending,
    fun b i hm => h.waits b i (List.mem_of_mem_eraseIdx hm)⟩

end Sound

/-! ## Every call keeps the desk sound -/

theorem register_runs (d : Desk) (a : String) (i : Nat) : (d.register a i).runs = d.runs := by
  unfold register
  split <;> rfl

theorem work_issued {d d' : Desk} {i : Nat} (hw : d.work i = some d') : d'.issued = d.issued := by
  obtain ⟨a, r, r', s, hi, hn, rfl⟩ := work_some hw
  have hset := getElem?_set_run hi r'
  have hruns : (d.runs.set i (a, r')).map Prod.fst = d.runs.map Prod.fst := by
    apply List.ext_getElem?
    intro k
    rw [List.getElem?_map, List.getElem?_map, hset]
    split
    · subst k
      rw [hi]
      rfl
    · rfl
  split <;> exact hruns

theorem workAll_issued (d : Desk) (sched : List Nat) : (d.workAll sched).issued = d.issued := by
  induction sched generalizing d with
  | nil => rfl
  | cons i sched ih =>
    rw [workAll, ih]
    cases hw : d.work i with
    | none => rfl
    | some d' => exact work_issued hw

theorem workAll_length (d : Desk) (sched : List Nat) :
    (d.workAll sched).runs.length = d.runs.length := by
  have h := congrArg List.length (workAll_issued d sched)
  simpa [issued] using h

theorem enter_issued (d : Desk) (a : String) (o : Except Fault (List Record)) :
    (d.enter a o).issued = d.issued ++ [a] := by
  simp [issued]

theorem run_of_issued {d : Desk} {k : Nat} {a : String} (hk : d.issued[k]? = some a) :
    ∃ r, d.runs[k]? = some (a, r) := by
  rw [issued, List.getElem?_map] at hk
  obtain ⟨⟨b, r⟩, hp, rfl⟩ := Option.map_eq_some_iff.mp hk
  exact ⟨r, hp⟩

theorem futureOf_some {d : Desk} {x : Json} {b : String} {i : Nat}
    (hf : d.futureOf x = some (b, i)) : (b, i) ∈ d.futures ∧ x = .str b := by
  have htext := List.find?_some hf
  exact ⟨List.mem_of_find?_eq_some hf, (Json.isText_iff b x).mp htext⟩

theorem futureOf_ne_none {d : Desk} {a : String} {i : Nat} (hm : (a, i) ∈ d.futures) :
    d.futureOf (.str a) ≠ none := by
  intro hnone
  have := List.find?_eq_none.mp hnone (a, i) hm
  simp [Json.isText] at this

/-- What a call can do to the desk: nothing; hand over a fresh run and register its future;
run a fresh job at once; block a wait or drop a done future; let a blocked wait return; or
take one pool step. -/
inductive Moved (d : Desk) : Desk → Prop
  | stay : Moved d d
  | submit (a : String) (o : Except Fault (List Record)) (sched : List Nat) :
      a ∉ d.issued → Moved d (((d.enter a o).workAll sched).register a d.runs.length)
  | runNow (a : String) (o : Except Fault (List Record)) (sched : List Nat) :
      a ∉ d.issued → (((d.enter a o).workAll sched).result? d.runs.length).isSome →
      Moved d ((d.enter a o).workAll sched)
  | block (b : String) (i : Nat) : (b, i) ∈ d.futures →
      Moved d { d with waiting := d.waiting ++ [(b, i)] }
  | release (b : String) (i : Nat) (job : Job) : (b, i) ∈ d.futures → d.result? i = some job →
      Moved d (d.release b)
  | resume (k : Nat) (b : String) (i : Nat) (job : Job) : d.waiting[k]? = some (b, i) →
      d.result? i = some job → Moved d { d.release b with waiting := d.waiting.eraseIdx k }
  | work (i : Nat) {d' : Desk} : d.work i = some d' → Moved d d'

theorem act_moved {d d' : Desk} {c : Call} {ans : Answer} (hact : d.act c = some (d', ans)) :
    Moved d d' := by
  cases c with
  | submit command a o sched =>
    simp only [act] at hact
    split at hact
    · obtain ⟨rfl, -⟩ := Prod.mk.inj (Option.some.inj hact)
      exact .stay
    · split at hact
      · cases hact
      · obtain ⟨rfl, -⟩ := Prod.mk.inj (Option.some.inj hact)
        exact .submit a o sched ‹_›
  | runNow a o sched =>
    simp only [act] at hact
    split at hact
    · cases hact
    · obtain ⟨job, hres, hp⟩ := Option.map_eq_some_iff.mp hact
      obtain ⟨rfl, -⟩ := Prod.mk.inj hp
      exact .runNow a o sched ‹_› (by rw [hres]; rfl)
  | poll x | getJob x | fetch x =>
    obtain ⟨rfl, -⟩ := Prod.mk.inj (Option.some.inj hact)
    exact .stay
  | wait x =>
    simp only [act] at hact
    split at hact
    · rename_i b i hf
      have hm := (futureOf_some hf).1
      split at hact
      · rename_i job hres
        obtain ⟨rfl, -⟩ := Prod.mk.inj (Option.some.inj hact)
        exact .release b i job hm hres
      · obtain ⟨rfl, -⟩ := Prod.mk.inj (Option.some.inj hact)
        exact .block b i hm
    · obtain ⟨rfl, -⟩ := Prod.mk.inj (Option.some.inj hact)
      exact .stay
  | resume k =>
    simp only [act] at hact
    split at hact
    · cases hact
    · rename_i b i hk
      obtain ⟨job, hres, hp⟩ := Option.map_eq_some_iff.mp hact
      obtain ⟨rfl, -⟩ := Prod.mk.inj hp
      exact .resume k b i job hk hres
  | work i =>
    obtain ⟨d'', hw, hp⟩ := Option.map_eq_some_iff.mp hact
    obtain ⟨rfl, -⟩ := Prod.mk.inj hp
    exact .work i hw

theorem answer_of_result {d : Desk} {i : Nat} {b : String} {r : JobRun} {job : Job}
    (hi : d.runs[i]? = some (b, r)) (hres : d.result? i = some job) : r.answer? = some job := by
  simpa [result?, hi] using hres

theorem work_length {d d' : Desk} {i : Nat} (hw : d.work i = some d') :
    d'.runs.length = d.runs.length := by
  simpa [issued] using congrArg List.length (work_issued hw)

namespace Sound

variable {d : Desk} {n : Nat}

theorem workAll (h : d.Sound n) (sched : List Nat) : (d.workAll sched).Sound n := by
  induction sched generalizing d with
  | nil => exact h
  | cons i sched ih =>
    rw [Desk.workAll]
    cases hw : d.work i with
    | none => exact ih h
    | some d' => exact ih (h.work hw)

theorem submit (h : d.Sound d.runs.length) {a : String} (ha : a ∉ d.issued)
    (o : Except Fault (List Record)) (sched : List Nat) :
    (((d.enter a o).workAll sched).register a d.runs.length).Sound (d.runs.length + 1) := by
  refine ((h.enter ha o).workAll sched).register ?_
  apply run_of_issued
  rw [workAll_issued, enter_issued, show d.runs.length = d.issued.length by simp [issued]]
  exact List.getElem?_concat_length

theorem runNow (h : d.Sound d.runs.length) {a : String} (ha : a ∉ d.issued)
    (o : Except Fault (List Record)) (sched : List Nat)
    (hdone : (((d.enter a o).workAll sched).result? d.runs.length).isSome) :
    ((d.enter a o).workAll sched).Sound (d.runs.length + 1) :=
  ((h.enter ha o).workAll sched).extend hdone

/-- Every call keeps a desk sound. -/
theorem moved (h : d.Sound d.runs.length) {d' : Desk} (hm : Moved d d') :
    d'.Sound d'.runs.length := by
  cases hm with
  | stay => exact h
  | submit a o sched ha =>
    rw [register_runs, workAll_length, enter_runs, List.length_append, List.length_singleton]
    exact h.submit ha o sched
  | runNow a o sched ha hdone =>
    rw [workAll_length, enter_runs, List.length_append, List.length_singleton]
    exact h.runNow ha o sched hdone
  | block b i hm =>
    obtain ⟨r, hi, -⟩ := h.registered b i hm
    exact h.block ⟨r, hi⟩
  | release b i job hm hres =>
    obtain ⟨r, hi, -⟩ := h.registered b i hm
    exact h.release hi (by simp [answer_of_result hi hres])
  | resume k b i job hk hres =>
    obtain ⟨r, hi⟩ := h.waits b i (List.mem_of_getElem? hk)
    exact (h.release hi (by simp [answer_of_result hi hres])).unblock k
  | work i hw =>
    rw [work_length hw]
    exact h.work hw

theorem act (h : d.Sound d.runs.length) {c : Call} {d' : Desk} {ans : Answer}
    (hact : d.act c = some (d', ans)) : d'.Sound d'.runs.length :=
  h.moved (act_moved hact)

theorem after (h : d.Sound d.runs.length) (calls : List Call) :
    (d.after calls).Sound (d.after calls).runs.length := by
  induction calls generalizing d with
  | nil => exact h
  | cons c calls ih =>
    rw [Desk.after]
    cases hact : d.act c with
    | none => exact ih h
    | some p => exact ih (h.act hact)

end Sound

/-- Every desk reached by calls from the empty one is sound. -/
theorem sound_after (calls : List Call) :
    (({} : Desk).after calls).Sound (({} : Desk).after calls).runs.length :=
  sound_empty.after calls

/-! ## A terminal job stays -/

theorem register_store (d : Desk) (a : String) (i : Nat) : (d.register a i).store = d.store := by
  unfold register
  split <;> rfl

namespace Fits

variable {d : Desk}

theorem work_keeps (h : d.Fits) {i : Nat} {d' : Desk} (hw : d.work i = some d') {a : String}
    {t : Job} (ht : t.isTerminal = true) (hget : d.store.get (.str a) = some t) :
    d'.store.get (.str a) = some t := by
  obtain ⟨b, r, r', s, hi, hn, rfl⟩ := work_some hw
  obtain ⟨-, hframe⟩ := fits_next (h.keyed b) (h.fits i b r hi) hn
  have hs : s.get (.str a) = some t := by
    rcases hframe with rfl | ⟨t', ht', rfl, hopen⟩
    · exact hget
    · by_cases hab : Json.str a = .str b
      · -- a run writes over a running job only
        rw [← hab, isOpen_of_get hget, ht] at hopen
        cases hopen
      · rw [get_save_of_ne _ _ ht' hab]
        exact hget
  split
  · exact hs
  · exact hs

theorem workAll_keeps (h : d.Fits) (sched : List Nat) {a : String} {t : Job}
    (ht : t.isTerminal = true) (hget : d.store.get (.str a) = some t) :
    (d.workAll sched).store.get (.str a) = some t := by
  induction sched generalizing d with
  | nil => exact hget
  | cons i sched ih =>
    rw [workAll]
    cases hw : d.work i with
    | none => exact ih h hget
    | some d' => exact ih (h.work hw) (h.work_keeps hw ht hget)

theorem enter_keeps (h : d.Fits) {b : String} (hb : b ∉ d.issued) (o : Except Fault (List Record))
    {a : String} {j : Job} (hget : d.store.get (.str a) = some j) :
    (d.enter b o).store.get (.str a) = some j := by
  obtain ⟨k, a', r, hk, hx⟩ := h.issued_of_get hget
  have hab : Json.str a ≠ .str b := by
    intro hab
    have hba : b = a' := Json.str.inj (hab.symm.trans hx)
    exact hb (mem_issued.mpr ⟨k, r, hba ▸ hk⟩)
  rw [enter_store, get_save_of_ne _ _ rfl hab]
  exact hget

end Fits

namespace Sound

variable {d : Desk}

theorem moved_keeps (h : d.Sound d.runs.length) {d' : Desk} (hm : Moved d d') {a : String}
    {t : Job} (ht : t.isTerminal = true) (hget : d.store.get (.str a) = some t) :
    d'.store.get (.str a) = some t := by
  cases hm with
  | stay => exact hget
  | submit b o sched hb =>
    rw [register_store]
    exact (h.toFits.enter hb o).workAll_keeps sched ht (h.toFits.enter_keeps hb o hget)
  | runNow b o sched hb _ =>
    exact (h.toFits.enter hb o).workAll_keeps sched ht (h.toFits.enter_keeps hb o hget)
  | block | release | resume => exact hget
  | work i hw => exact h.toFits.work_keeps hw ht hget

/-- Once the job of an id is terminal, it stays so along any calls. -/
theorem after_keeps (h : d.Sound d.runs.length) (calls : List Call) {a : String} {t : Job}
    (ht : t.isTerminal = true) (hget : d.store.get (.str a) = some t) :
    (d.after calls).store.get (.str a) = some t := by
  induction calls generalizing d with
  | nil => exact hget
  | cons c calls ih =>
    rw [Desk.after]
    cases hact : d.act c with
    | none => exact ih h hget
    | some p => exact ih (h.act hact) (h.moved_keeps (act_moved hact) ht hget)

end Sound

/-! ## What the desk answers -/

theorem act_poll (d : Desk) (x : Json) :
    d.act (.poll x) = some (d, .status ((d.store.get x).map (·.status))) := rfl

theorem act_getJob (d : Desk) (x : Json) : d.act (.getJob x) = some (d, .job (d.store.get x)) :=
  rfl

theorem act_fetch (d : Desk) (x : Json) :
    d.act (.fetch x) = some (d, match d.store.get x with
      | none => .refused (jobNotFound x)
      | some j => .records (if j.status = .done then some j.results else none)) := by
  simp only [act, fetch_run]
  cases d.store.get x with
  | none => rfl
  | some j => simp [Answer.ofExcept]

theorem act_wait_unregistered (d : Desk) (x : Json) (hf : d.futureOf x = none) :
    d.act (.wait x) = some (d, match d.store.get x with
      | none => .refused (jobNotFound x)
      | some j => .job (some j)) := by
  simp only [act, hf, wait_run]
  cases d.store.get x <;> rfl

theorem submit_refused_iff (d : Desk) (command a : String) (o : Except Fault (List Record))
    (sched : List Nat) :
    d.act (.submit command a o sched) =
        some (d, .refused (Fault.badValue s!"不支持的命令: {command}")) ↔
      command ≠ runCommand := by
  by_cases hc : command = runCommand
  · subst hc
    simp only [act, bne_self_eq_false, Bool.false_eq_true, if_false, ne_eq, not_true_eq_false,
      iff_false]
    split <;> simp
  · simp [act, hc]

theorem register_issued (d : Desk) (a : String) (i : Nat) : (d.register a i).issued = d.issued := by
  rw [issued, register_runs]
  rfl

theorem submit_issues (d : Desk) {a : String} (ha : a ∉ d.issued) (o : Except Fault (List Record))
    (sched : List Nat) :
    ∃ d', d.act (.submit runCommand a o sched) = some (d', .issued a) ∧ a ∈ d'.issued := by
  refine ⟨((d.enter a o).workAll sched).register a d.runs.length, by simp [act, ha], ?_⟩
  rw [register_issued, workAll_issued, enter_issued]
  exact List.mem_append_right _ (List.mem_singleton_self a)

namespace Fits

variable {d : Desk}

theorem issued_job (h : d.Fits) {a : String} {r : JobRun} (hr : (a, r) ∈ d.runs) :
    ∃ j, d.store.get (.str a) = some j ∧ (j.status = .running ↔ r.early = true) := by
  obtain ⟨k, hk⟩ := List.mem_iff_getElem?.mp hr
  exact (h.fits k a r hk).running_iff

theorem unknown (h : d.Fits) {x : Json} (hx : ∀ a ∈ d.issued, x ≠ .str a) : d.store.get x = none :=
  h.unissued x fun k a r hk => hx a (mem_issued.mpr ⟨k, r, hk⟩)

end Fits

namespace Sound

variable {d : Desk} {n : Nat}

theorem futureOf_unknown (h : d.Sound n) {x : Json} (hx : ∀ a ∈ d.issued, x ≠ .str a) :
    d.futureOf x = none := by
  cases hf : d.futureOf x with
  | none => rfl
  | some p =>
    obtain ⟨b, i⟩ := p
    obtain ⟨hm, rfl⟩ := futureOf_some hf
    obtain ⟨r, hi, -⟩ := h.registered b i hm
    exact absurd rfl (hx b (mem_issued.mpr ⟨i, r, hi⟩))

/-- A wait on an issued job blocks on its future while its run is under way; otherwise it
answers the terminal job the table holds. -/
theorem wait_issued (h : d.Sound d.runs.length) {a : String} (ha : a ∈ d.issued) {d' : Desk}
    {ans : Answer} (hact : d.act (.wait (.str a)) = some (d', ans)) :
    d'.store = d.store ∧ (ans = .blocked ∨
      ∃ j, ans = .job (some j) ∧ j.isTerminal = true ∧ d.store.get (.str a) = some j) := by
  cases hf : d.futureOf (.str a) with
  | some p =>
    obtain ⟨b, i⟩ := p
    obtain ⟨hm, -⟩ := futureOf_some hf
    obtain ⟨r, hi, hr⟩ := h.registered b i hm
    have hres : d.result? i = none := by simp [result?, hi, hr]
    simp only [Desk.act, hf, hres, Option.some.injEq, Prod.mk.injEq] at hact
    obtain ⟨rfl, rfl⟩ := hact
    exact ⟨rfl, .inl rfl⟩
  | none =>
    obtain ⟨k, r, hk⟩ := mem_issued.mp ha
    cases hr : r.answer? with
    | none =>
      -- a run still under way has its future registered
      exact absurd hf (futureOf_ne_none (h.pending k a r (List.getElem?_eq_some_iff.mp hk).1 hk hr))
    | some job =>
      obtain ⟨hget, hterm⟩ := (h.fits k a r hk).answered hr
      rw [act_wait_unregistered d _ hf, hget, Option.some.injEq, Prod.mk.injEq] at hact
      obtain ⟨rfl, rfl⟩ := hact
      exact ⟨rfl, .inr ⟨job, rfl, hterm, hget⟩⟩

theorem resume_answers (h : d.Sound d.runs.length) {k : Nat} {a : String} {i : Nat}
    (hk : d.waiting[k]? = some (a, i)) {d' : Desk} {ans : Answer}
    (hact : d.act (.resume k) = some (d', ans)) :
    d'.store = d.store ∧
      ∃ j, ans = .job (some j) ∧ j.isTerminal = true ∧ d.store.get (.str a) = some j := by
  simp only [Desk.act, hk] at hact
  obtain ⟨job, hres, hp⟩ := Option.map_eq_some_iff.mp hact
  obtain ⟨rfl, rfl⟩ := Prod.mk.inj hp
  obtain ⟨r, hi⟩ := h.waits a i (List.mem_of_getElem? hk)
  obtain ⟨hget, hterm⟩ := (h.fits i a r hi).answered (answer_of_result hi hres)
  exact ⟨rfl, job, rfl, hterm, hget⟩

end Sound

/-! ## The service's answers on every reachable desk -/

/-- Along any interleaving of callers and pool steps from the empty desk, submissions issue
fresh ids, an issued job is running exactly until its run finalizes and terminal after,
unknown ids are not found, and waits answer the terminal job. -/
theorem answers_agree (calls : List Call) :
    let d := ({} : Desk).after calls
    (∀ (command a : String) (o : Except Fault (List Record)) (sched : List Nat),
      d.act (.submit command a o sched) =
          some (d, .refused (Fault.badValue s!"不支持的命令: {command}")) ↔
        command ≠ runCommand) ∧
    (∀ (a : String) (o : Except Fault (List Record)) (sched : List Nat), a ∉ d.issued →
      ∃ d', d.act (.submit runCommand a o sched) = some (d', .issued a) ∧ a ∈ d'.issued) ∧
    (∀ a r, (a, r) ∈ d.runs → ∃ j,
      d.act (.poll (.str a)) = some (d, .status (some j.status)) ∧
      d.act (.getJob (.str a)) = some (d, .job (some j)) ∧
      d.act (.fetch (.str a)) =
        some (d, .records (if j.status = .done then some j.results else none)) ∧
      (j.status = .running ↔ r.early = true) ∧
      (j.isTerminal = true → ∀ more : List Call,
        (d.after more).act (.poll (.str a)) = some (d.after more, .status (some j.status)) ∧
        (d.after more).act (.getJob (.str a)) = some (d.after more, .job (some j)))) ∧
    (∀ x : Json, (∀ a ∈ d.issued, x ≠ .str a) →
      d.act (.poll x) = some (d, .status none) ∧
      d.act (.fetch x) = some (d, .refused (jobNotFound x)) ∧
      d.act (.wait x) = some (d, .refused (jobNotFound x))) ∧
    (∀ (a : String) (d' : Desk) (ans : Answer), a ∈ d.issued →
      d.act (.wait (.str a)) = some (d', ans) →
      d'.store = d.store ∧ (ans = .blocked ∨ ∃ j, ans = .job (some j) ∧ j.isTerminal = true ∧
        d.act (.getJob (.str a)) = some (d, .job (some j)))) ∧
    (∀ (k : Nat) (a : String) (i : Nat) (d' : Desk) (ans : Answer),
      d.waiting[k]? = some (a, i) → d.act (.resume k) = some (d', ans) →
      d'.store = d.store ∧ ∃ j, ans = .job (some j) ∧ j.isTerminal = true ∧
        d.act (.getJob (.str a)) = some (d, .job (some j))) ∧
    (∀ (a : String) (i : Nat), (a, i) ∈ d.futures ↔
      ∃ r, d.runs[i]? = some (a, r) ∧ r.answer? = none) := by
  intro d
  have h : d.Sound d.runs.length := sound_after calls
  refine ⟨submit_refused_iff d, fun a o sched ha => submit_issues d ha o sched, ?_, ?_, ?_, ?_, ?_⟩
  · intro a r hr
    obtain ⟨j, hget, hrun⟩ := h.toFits.issued_job hr
    refine ⟨j, by rw [act_poll, hget]; rfl, by rw [act_getJob, hget], by rw [act_fetch, hget], hrun, ?_⟩
    intro ht more
    have hkeep := h.after_keeps more ht hget
    exact ⟨by rw [act_poll, hkeep]; rfl, by rw [act_getJob, hkeep]⟩
  · intro x hx
    have hget := h.toFits.unknown hx
    refine ⟨by rw [act_poll, hget]; rfl, by rw [act_fetch, hget], ?_⟩
    rw [act_wait_unregistered d x (h.futureOf_unknown hx), hget]
  · intro a d' ans ha hact
    obtain ⟨hs, hans⟩ := h.wait_issued ha hact
    refine ⟨hs, hans.imp_right ?_⟩
    rintro ⟨j, rfl, ht, hget⟩
    exact ⟨j, rfl, ht, by rw [act_getJob, hget]⟩
  · intro k a i d' ans hk hact
    obtain ⟨hs, j, rfl, ht, hget⟩ := h.resume_answers hk hact
    exact ⟨hs, j, rfl, ht, by rw [act_getJob, hget]⟩
  · intro a i
    constructor
    · exact h.registered a i
    · rintro ⟨r, hi, hr⟩
      exact h.pending i a r (List.getElem?_eq_some_iff.mp hi).1 hi hr

-- A job left in the pool: a wait blocks on its future, the run takes its three calls, and
-- the wait returns, leaving no future registered and no wait blocked.
example : ((({} : Desk).after [.submit runCommand "a" (.ok []) [], .wait (.str "a"), .work 0,
    .work 0, .work 0]).act (.resume 0)).map (fun p => (p.1.futures.length, p.1.waiting.length)) =
      some (0, 0) := by
  decide

-- A job the submitter runs itself: it is done when the submission returns.
example : ((({} : Desk).after [.submit runCommand "a" (.ok []) [0, 0, 0]]).act
    (.poll (.str "a"))).map (fun p => match p.2 with | .status s => s | _ => none) =
      some (some .done) := by
  decide

end Desk

end Analysis

end RankAdvisor
