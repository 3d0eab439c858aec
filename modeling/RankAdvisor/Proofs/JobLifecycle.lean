import RankAdvisor.Analysis.Pipeline

/-! # The life of a job in the job table

A job id is a text. Seen from one id `x`, the table's calls do little: a call about another
id leaves the job of `x` as it was, a save of `x` replaces it, a finalization of `x` writes a
terminal job exactly when the stored one is missing or still running, and refuses a running
job without touching the table.

* `JobStore.finalize_refused`, `JobStore.finalize_written`: the two rules of one finalization.
* `JobStore.reads_settle`: along any run in which every save of `x` stores a running job and
  comes before the first finalization of `x` that writes, the reads of `x` find nothing or a
  running job, then one terminal job for ever, and at most one finalization of `x` writes.
* `JobStore.runs_agree`: any number of orchestrated runs of one job, interleaved at their
  table calls, answer one terminal job, the one stored, written by exactly one of them.
-/

namespace RankAdvisor
set_option autoImplicit false

/-! ## Text ids -/

theorem Json.sameValue_str_right (a : String) (k : Json) :
    Json.sameValue k (.str a) = true ↔ k = .str a := by
  cases k <;> simp [Json.sameValue, Json.number?]

theorem Json.sameValue_str_left (a : String) (k : Json) :
    Json.sameValue (.str a) k = true ↔ k = .str a := by
  cases k with
  | str b =>
    simp only [Json.sameValue, beq_iff_eq, Json.str.injEq]
    exact eq_comm
  | _ => simp [Json.sameValue, Json.number?]

theorem Json.sameValue_str_right_false (a : String) (k : Json) (h : k ≠ .str a) :
    Json.sameValue k (.str a) = false := by
  cases hk : Json.sameValue k (.str a)
  · rfl
  · exact absurd ((Json.sameValue_str_right a k).mp hk) h

theorem Json.sameValue_str_left_false (a : String) (k : Json) (h : k ≠ .str a) :
    Json.sameValue (.str a) k = false := by
  cases hk : Json.sameValue (.str a) k
  · rfl
  · exact absurd ((Json.sameValue_str_left a k).mp hk) h

def Json.isText (a : String) : Json → Bool
  | .str b => b == a
  | _ => false

theorem Json.isText_iff (a : String) (v : Json) : v.isText a = true ↔ v = .str a := by
  cases v <;> simp [Json.isText]

namespace JobStore

/-! ## Saving, seen from a text id -/

theorem find?_rewrite (l : List (Json × Job)) (j : Job) (x : Json) :
    (l.map fun e => if Json.sameValue e.1 j.id then (e.1, j) else e).find?
        (fun e => Json.sameValue e.1 x) =
      (l.find? fun e => Json.sameValue e.1 x).map
        fun e => if Json.sameValue e.1 j.id then (e.1, j) else e := by
  rw [List.find?_map]
  congr 2
  funext e
  simp only [Function.comp]
  split <;> rfl

theorem get_save_self (s : JobStore) (j : Job) (a : String) (hid : j.id = .str a) :
    (s.save j).get (.str a) = some j := by
  unfold save get
  split
  · rename_i hany
    obtain ⟨e, he, hsame⟩ := List.any_eq_true.mp hany
    rw [hid] at hsame
    obtain ⟨e', hfind⟩ : ∃ e', s.jobs.find? (fun e => Json.sameValue e.1 (.str a)) = some e' :=
      Option.isSome_iff_exists.mp (List.find?_isSome.mpr ⟨e, he, hsame⟩)
    have hkey := List.find?_some hfind
    rw [find?_rewrite, hfind, hid]
    simp [hkey]
  · rename_i hany
    have hnone : s.jobs.find? (fun e => Json.sameValue e.1 (.str a)) = none := by
      rw [List.find?_eq_none]
      intro e he hsame
      rw [← hid] at hsame
      exact hany (List.any_eq_true.mpr ⟨e, he, hsame⟩)
    rw [List.find?_append, hnone, hid]
    simp [(Json.sameValue_str_right a (.str a)).mpr rfl]

theorem get_save_other (s : JobStore) (j : Job) (a : String) (hid : j.id ≠ .str a) :
    (s.save j).get (.str a) = s.get (.str a) := by
  have hkey : ∀ k, Json.sameValue k (.str a) = true → Json.sameValue k j.id = false := by
    intro k hk
    rw [(Json.sameValue_str_right a k).mp hk]
    exact Json.sameValue_str_left_false a j.id hid
  unfold save get
  split
  · rw [find?_rewrite]
    cases hfind : s.jobs.find? (fun e => Json.sameValue e.1 (.str a)) with
    | none => rfl
    | some e =>
      have hsame := List.find?_some hfind
      simp [hkey e.1 hsame]
  · rw [List.find?_append]
    cases s.jobs.find? (fun e => Json.sameValue e.1 (.str a)) <;>
      simp [Json.sameValue_str_right_false a j.id hid]

/-! ## Tables keyed by their jobs' ids -/

/-- The entries of a table under the text id `a` are exactly those whose job has id `a`. -/
def Keyed (a : String) (s : JobStore) : Prop :=
  ∀ e ∈ s.jobs, e.1 = .str a ↔ e.2.id = .str a

theorem keyed_empty (a : String) : Keyed a {} := by
  intro e he
  cases he

theorem keyed_save {a : String} {s : JobStore} (hk : Keyed a s) (j : Job) :
    Keyed a (s.save j) := by
  intro e he
  unfold save at he
  split at he
  · obtain ⟨e₀, he₀, rfl⟩ := List.mem_map.mp he
    split
    · rename_i hsame
      constructor
      · intro h
        exact (Json.sameValue_str_left a j.id).mp (h ▸ hsame)
      · intro h
        exact (Json.sameValue_str_right a e₀.1).mp (h ▸ hsame)
    · exact hk e₀ he₀
  · rcases List.mem_append.mp he with he | he
    · exact hk e he
    · rw [List.mem_singleton.mp he]

theorem get_id {a : String} {s : JobStore} (hk : Keyed a s) {j : Job}
    (hget : s.get (.str a) = some j) : j.id = .str a := by
  unfold get at hget
  obtain ⟨e, hfind, rfl⟩ := Option.map_eq_some_iff.mp hget
  have hsame := List.find?_some hfind
  exact (hk e (List.mem_of_find?_eq_some hfind)).mp ((Json.sameValue_str_right a e.1).mp hsame)

theorem get_id_other {a : String} {s : JobStore} (hk : Keyed a s) {y : Json} (hy : y ≠ .str a)
    {j : Job} (hget : s.get y = some j) : j.id ≠ .str a := by
  unfold get at hget
  obtain ⟨e, hfind, rfl⟩ := Option.map_eq_some_iff.mp hget
  intro hid
  have hkey := (hk e (List.mem_of_find?_eq_some hfind)).mpr hid
  have hsame := List.find?_some hfind
  rw [hkey] at hsame
  exact hy ((Json.sameValue_str_left a y).mp hsame)

theorem base_id {a : String} {s : JobStore} (hk : Keyed a s) : (s.base (.str a)).id = .str a := by
  unfold base
  cases hget : s.get (.str a) with
  | none => rfl
  | some j => exact get_id hk hget

theorem base_id_other {a : String} {s : JobStore} (hk : Keyed a s) {y : Json}
    (hy : y ≠ .str a) : (s.base y).id ≠ .str a := by
  unfold base
  cases hget : s.get y with
  | none => exact hy
  | some j => exact get_id_other hk hy hget

/-! ## One finalization -/

/-- Whether the job stored under an id leaves room for a terminal one: none is stored, or
a running one. -/
def isOpen (s : JobStore) (id : Json) : Bool :=
  match s.get id with
  | some cur => !cur.isTerminal
  | none => true

theorem isTerminal_iff (j : Job) : j.isTerminal = true ↔ j.status ≠ .running := by
  unfold Job.isTerminal
  cases j.status <;> simp

theorem isTerminal_eq_false_iff (j : Job) : j.isTerminal = false ↔ j.status = .running := by
  unfold Job.isTerminal
  cases j.status <;> simp

theorem settle_refused (s : JobStore) (j : Job) (h : j.status = .running) :
    ∃ f, f.kind = .badValue ∧ s.settle j = (.refused f, s) := by
  have hnt : j.isTerminal = false := by simp [Job.isTerminal, h]
  unfold settle finalize
  simp only [hnt, Bool.not_false, if_true]
  exact ⟨_, rfl, rfl⟩

theorem settle_terminal (s : JobStore) (j : Job) (h : j.isTerminal = true) :
    s.settle j = if s.isOpen j.id then (.written true, s.save j) else (.written false, s) := by
  unfold settle finalize isOpen
  simp only [h, Bool.not_true, Bool.false_eq_true, if_false]
  cases s.get j.id with
  | none => rfl
  | some cur => cases hc : cur.isTerminal <;> simp [hc]

theorem finalize_refused (s : JobStore) (j : Job) (h : j.status = .running) :
    ∃ f, f.kind = .badValue ∧ s.step (.finalize j) = (.refused f, s) :=
  settle_refused s j h

theorem finalize_written (s : JobStore) (j : Job) (h : j.status ≠ .running) :
    s.step (.finalize j) =
      if s.isOpen j.id then (.written true, s.save j) else (.written false, s) :=
  settle_terminal s j ((isTerminal_iff j).mpr h)

/-! ## One call, seen from one id -/

/-- The job a call writes, if it writes one. -/
def Op.written (s : JobStore) : Op → Job
  | .save j | .finalize j => j
  | .get id => Job.running id
  | .finalizeDone id records => (s.base id).done records
  | .finalizeFailed id message => (s.base id).failed message

theorem written_id {a : String} {s : JobStore} (hk : Keyed a s) (op : Op) :
    (op.written s).id = .str a ↔ op.id = .str a := by
  cases op with
  | save j | finalize j | get id => exact Iff.rfl
  | finalizeDone id records | finalizeFailed id message =>
    show (s.base id).id = .str a ↔ id = .str a
    by_cases hid : id = .str a
    · subst hid
      exact ⟨fun _ => rfl, fun _ => base_id hk⟩
    · exact ⟨fun h => absurd h (base_id_other hk hid), fun h => absurd h hid⟩

theorem step_store (s : JobStore) (op : Op) :
    (s.step op).2 = s ∨ (s.step op).2 = s.save (op.written s) := by
  have hsettle : ∀ j, (s.settle j).2 = s ∨ (s.settle j).2 = s.save j := by
    intro j
    cases ht : j.isTerminal
    · obtain ⟨f, -, h⟩ := settle_refused s j ((isTerminal_eq_false_iff j).mp ht)
      rw [h]
      exact .inl rfl
    · rw [settle_terminal s j ht]
      split
      · exact .inr rfl
      · exact .inl rfl
  cases op with
  | save j => exact .inr rfl
  | get id => exact .inl rfl
  | finalize j => exact hsettle j
  | finalizeDone id records => exact hsettle _
  | finalizeFailed id message => exact hsettle _

theorem keyed_step {a : String} {s : JobStore} (hk : Keyed a s) (op : Op) :
    Keyed a (s.step op).2 := by
  rcases step_store s op with h | h <;> rw [h]
  · exact hk
  · exact keyed_save hk _

theorem get_step_other {a : String} {s : JobStore} (hk : Keyed a s) {op : Op}
    (hop : op.id ≠ .str a) : (s.step op).2.get (.str a) = s.get (.str a) := by
  rcases step_store s op with h | h <;> rw [h]
  exact get_save_other s _ a (fun hw => hop ((written_id hk op).mp hw))

/-- A finalization is answered by settling the job it writes. -/
def Op.isFinalization : Op → Bool
  | .finalize _ | .finalizeDone _ _ | .finalizeFailed _ _ => true
  | _ => false

def Reply.wrote : Reply → Bool
  | .written b => b
  | _ => false

def Op.savesTo (a : String) : Op → Bool
  | .save j => j.id.isText a
  | _ => false

/-- Whether an answered call is a finalization of `a` that wrote. -/
def won (a : String) (c : Op × Reply) : Bool :=
  c.1.isFinalization && c.1.id.isText a && c.2.wrote

/-- The job a read of `a` found, when the call is a read of `a`. -/
def seenAt (a : String) : Op × Reply → Option (Option Job)
  | (.get id, .found o) => if id.isText a then some o else none
  | _ => none

theorem step_finalization (s : JobStore) {op : Op} (h : op.isFinalization = true) :
    s.step op = s.settle (op.written s) := by
  cases op <;> first | rfl | cases h

theorem seenAt_finalization (a : String) {op : Op} (h : op.isFinalization = true) (r : Reply) :
    seenAt a (op, r) = none := by
  cases op <;> first | rfl | cases h

/-- Seen from the text id `a`, a call is about another id and leaves the job of `a` alone,
or reads it, or saves a job of `a`, or settles the job of `a` it writes. -/
theorem step_view {a : String} {s : JobStore} (hk : Keyed a s) (op : Op) :
    (op.id ≠ .str a ∧ (s.step op).2.get (.str a) = s.get (.str a) ∧
        seenAt a (op, (s.step op).1) = none ∧ won a (op, (s.step op).1) = false) ∨
      (op = .get (.str a) ∧ s.step op = (.found (s.get (.str a)), s)) ∨
      (∃ j, op = .save j ∧ j.id = .str a ∧ s.step op = (.saved, s.save j)) ∨
      (op.isFinalization = true ∧ (op.written s).id = .str a ∧
        s.step op = s.settle (op.written s) ∧ seenAt a (op, (s.step op).1) = none ∧
        won a (op, (s.step op).1) = (s.step op).1.wrote) := by
  by_cases hid : op.id = .str a
  · have hw := (written_id hk op).mpr hid
    have htext : op.id.isText a = true := (Json.isText_iff a op.id).mpr hid
    cases op with
    | get id => exact .inr (.inl ⟨by rw [show id = .str a from hid], by rw [show id = .str a from hid]; rfl⟩)
    | save j => exact .inr (.inr (.inl ⟨j, rfl, hid, rfl⟩))
    | finalize _ | finalizeDone _ _ | finalizeFailed _ _ =>
      refine .inr (.inr (.inr ⟨rfl, hw, step_finalization s rfl, seenAt_finalization a rfl _, ?_⟩))
      simp [won, Op.isFinalization, htext]
  · have hnot : op.id.isText a = false := by
      cases h : op.id.isText a
      · rfl
      · exact absurd ((Json.isText_iff a op.id).mp h) hid
    refine .inl ⟨hid, get_step_other hk hid, ?_, by simp [won, hnot]⟩
    cases op with
    | get id => simp only [step, seenAt]; simp [show id.isText a = false from hnot]
    | _ => rfl

theorem settle_view {a : String} (s : JobStore) (w : Job) (hw : w.id = .str a) :
    ((s.settle w).2 = s ∧ (s.settle w).1.wrote = false) ∨
      (w.isTerminal = true ∧ s.isOpen (.str a) = true ∧ s.settle w = (.written true, s.save w)) ∨
      (s.isOpen (.str a) = false ∧ s.settle w = (.written false, s)) := by
  cases ht : w.isTerminal
  · obtain ⟨f, -, h⟩ := settle_refused s w ((isTerminal_eq_false_iff w).mp ht)
    exact .inl ⟨by rw [h], by rw [h]; rfl⟩
  · rw [settle_terminal s w ht, hw]
    cases ho : s.isOpen (.str a)
    · exact .inr (.inr ⟨rfl, rfl⟩)
    · exact .inr (.inl ⟨rfl, rfl, rfl⟩)

theorem isOpen_of_get {s : JobStore} {x : Json} {j : Job} (h : s.get x = some j) :
    s.isOpen x = !j.isTerminal := by
  simp [isOpen, h]

/-! ## Runs of calls -/

/-- What the reads of `a` found along a trace, in order. -/
def seen (a : String) (tr : List (Op × Reply)) : List (Option Job) := tr.filterMap (seenAt a)

/-- How many finalizations of `a` wrote along a trace. -/
def wins (a : String) (tr : List (Op × Reply)) : Nat := tr.countP (won a)

/-- Every save of `a` among the calls stores a running job. -/
def SavesRunning (a : String) (ops : List Op) : Prop :=
  ∀ j, Op.save j ∈ ops → j.id = .str a → j.status = .running

/-- No save of `a` comes after a finalization of `a` that wrote. -/
def SavesFirst (a : String) : List (Op × Reply) → Prop
  | [] => True
  | c :: tr => (won a c = true → ∀ d ∈ tr, d.1.savesTo a = false) ∧ SavesFirst a tr

/-- Reads that find nothing or a running job, then one terminal job for ever. -/
def Settles (obs : List (Option Job)) : Prop :=
  ∃ pre post t, obs = pre ++ post ∧ (∀ o ∈ pre, ∀ j, o = some j → j.status = .running) ∧
    t.isTerminal = true ∧ ∀ o ∈ post, o = some t

theorem trace_cons (s : JobStore) (op : Op) (ops : List Op) :
    trace s (op :: ops) = (op, (s.step op).1) :: trace (s.step op).2 ops := rfl

theorem seen_cons (a : String) (c : Op × Reply) (tr : List (Op × Reply)) :
    seen a (c :: tr) = ((seenAt a c).toList ++ seen a tr) := by
  unfold seen
  cases h : seenAt a c <;> simp [h]

theorem wins_cons (a : String) (c : Op × Reply) (tr : List (Op × Reply)) :
    wins a (c :: tr) = wins a tr + if won a c then 1 else 0 := by
  unfold wins
  rw [List.countP_cons]

/-- Once the job of `a` is terminal and no save of `a` follows, every read finds that job
and no finalization of `a` writes. -/
theorem closed_run {a : String} {t : Job} (ht : t.isTerminal = true) :
    ∀ (ops : List Op) {s : JobStore}, Keyed a s → s.get (.str a) = some t →
      (∀ d ∈ trace s ops, d.1.savesTo a = false) →
      (∀ o ∈ seen a (trace s ops), o = some t) ∧ wins a (trace s ops) = 0
  | [], _, _, _, _ => by simp [trace, seen, wins]
  | op :: ops, s, hk, hget, hsave => by
    have hclosed : s.isOpen (.str a) = false := by simp [isOpen_of_get hget, ht]
    -- the job of `a` is still `t` after `op`, which neither reads another job nor writes
    have hstep : (s.step op).2.get (.str a) = some t ∧
        (∀ o, seenAt a (op, (s.step op).1) = some o → o = some t) ∧
        won a (op, (s.step op).1) = false := by
      rcases step_view hk op with ⟨-, hget', hseen, hwon⟩ | ⟨rfl, hs⟩ | ⟨j, rfl, hj, -⟩ |
          ⟨hfin, hw, hs, -, hwon⟩
      · exact ⟨hget'.trans hget, by simp [hseen], hwon⟩
      · rw [hs]
        refine ⟨hget, ?_, rfl⟩
        intro o ho
        simp only [seenAt, Json.isText, beq_self_eq_true, if_true, Option.some.injEq] at ho
        rw [← ho, hget]
      · have := hsave _ List.mem_cons_self
        simp [Op.savesTo, (Json.isText_iff a j.id).mpr hj] at this
      · rw [hwon, hs]
        rcases settle_view s _ hw with ⟨h1, h2⟩ | ⟨-, ho, -⟩ | ⟨-, h⟩
        · exact ⟨by rw [h1, hget], by simp [seenAt_finalization a hfin], h2⟩
        · rw [hclosed] at ho
          cases ho
        · rw [h]
          exact ⟨hget, by simp [seenAt_finalization a hfin], rfl⟩
    obtain ⟨hget', hseen, hwon⟩ := hstep
    obtain ⟨ih₁, ih₂⟩ := closed_run ht ops (keyed_step hk op) hget'
      (fun d hd => hsave d (List.mem_cons_of_mem _ hd))
    refine ⟨?_, by rw [trace_cons, wins_cons, ih₂, hwon]; rfl⟩
    intro o ho
    rw [trace_cons, seen_cons] at ho
    rcases List.mem_append.mp ho with ho | ho
    · cases hs : seenAt a (op, (s.step op).1) with
      | none => simp [hs] at ho
      | some o' =>
        simp only [hs, Option.toList_some, List.mem_singleton] at ho
        rw [ho]
        exact hseen o' hs
    · exact ih₁ o ho

theorem Settles.cons {o : Option Job} {obs : List (Option Job)}
    (ho : ∀ j, o = some j → j.status = .running) (h : Settles obs) : Settles (o :: obs) := by
  obtain ⟨pre, post, t, rfl, hpre, ht, hpost⟩ := h
  refine ⟨o :: pre, post, t, rfl, ?_, ht, hpost⟩
  intro o' ho'
  rcases List.mem_cons.mp ho' with rfl | ho'
  · exact ho
  · exact hpre o' ho'

theorem Settles.of_terminal {obs : List (Option Job)} {t : Job} (ht : t.isTerminal = true)
    (h : ∀ o ∈ obs, o = some t) : Settles obs :=
  ⟨[], obs, t, rfl, by simp, ht, h⟩

theorem running_of_isOpen {s : JobStore} {x : Json} (h : s.isOpen x = true) :
    ∀ j, s.get x = some j → j.status = .running := by
  intro j hj
  rw [isOpen_of_get hj] at h
  exact (isTerminal_eq_false_iff j).mp (by simpa using h)

/-- From a table with room for a terminal job of `a`, along calls whose saves of `a` store
running jobs and come before the first finalization of `a` that writes, the reads of `a`
settle and at most one finalization of `a` writes. -/
theorem open_run {a : String} :
    ∀ (ops : List Op) {s : JobStore}, Keyed a s → s.isOpen (.str a) = true →
      SavesRunning a ops → SavesFirst a (trace s ops) →
      Settles (seen a (trace s ops)) ∧ wins a (trace s ops) ≤ 1
  | [], _, _, _, _, _ =>
    ⟨Settles.of_terminal (t := (Job.running (.str a)).done []) rfl (by simp [trace, seen]),
      by simp [trace, wins]⟩
  | op :: ops, s, hk, hopen, hrun, hfirst => by
    rw [trace_cons] at hfirst ⊢
    obtain ⟨hfirst₁, hfirst₂⟩ := hfirst
    have hrun' : SavesRunning a ops := fun j hj => hrun j (List.mem_cons_of_mem _ hj)
    have hk' := keyed_step hk op
    rw [seen_cons, wins_cons]
    rcases step_view hk op with ⟨-, hget', hseen, hwon⟩ | ⟨rfl, hs⟩ | ⟨j, rfl, hj, hs⟩ |
        ⟨hfin, hw, hs, hseen, hwon⟩
    · -- another id: the job of `a` stays as it was
      have hopen' : (s.step op).2.isOpen (.str a) = true := by rw [isOpen, hget']; exact hopen
      obtain ⟨hset, hle⟩ := open_run ops hk' hopen' hrun' hfirst₂
      rw [hseen, hwon]
      exact ⟨hset, hle⟩
    · -- a read of `a`: it finds nothing or a running job
      simp only [hs] at hk' hfirst₂ ⊢
      obtain ⟨hset, hle⟩ := open_run ops hk' hopen hrun' hfirst₂
      simp only [seenAt, Json.isText, beq_self_eq_true, if_true, Option.toList_some,
        List.singleton_append, won, Op.isFinalization, Bool.false_and]
      exact ⟨hset.cons (running_of_isOpen hopen), hle⟩
    · -- a save of `a` stores a running job
      have hrunning := hrun j List.mem_cons_self hj
      simp only [hs] at hk' hfirst₂ ⊢
      have hopen' : (s.save j).isOpen (.str a) = true := by
        rw [isOpen_of_get (get_save_self s j a hj), (isTerminal_eq_false_iff j).mpr hrunning]
        rfl
      obtain ⟨hset, hle⟩ := open_run ops hk' hopen' hrun' hfirst₂
      simp only [seenAt, won, Op.isFinalization, Bool.false_and, Option.toList_none,
        List.nil_append]
      exact ⟨hset, hle⟩
    · rw [hseen, hwon]
      simp only [Option.toList_none, List.nil_append]
      rw [hs] at hk' hfirst₁ hfirst₂ ⊢
      rcases settle_view s _ hw with ⟨h1, h2⟩ | ⟨ht, -, h⟩ | ⟨ho, -⟩
      · -- refused: the table is as it was
        rw [h1] at hk' hfirst₂ ⊢
        obtain ⟨hset, hle⟩ := open_run ops hk' hopen hrun' hfirst₂
        rw [h2]
        exact ⟨hset, hle⟩
      · -- the finalization that writes: from here on the job of `a` is the written one
        rw [h] at hk' hfirst₁ hfirst₂ ⊢
        have hid : op.id.isText a = true := (Json.isText_iff a op.id).mpr ((written_id hk op).mp hw)
        obtain ⟨hall, hzero⟩ := closed_run ht ops hk' (get_save_self s _ a hw)
          (hfirst₁ (by simp [won, hfin, hid, Reply.wrote]))
        exact ⟨Settles.of_terminal ht hall, by simp [hzero, Reply.wrote]⟩
      · rw [hopen] at ho
        cases ho

/-- Along any run from the empty table in which every save of `a` stores a running job and
comes before the first finalization of `a` that writes, the reads of `a` find nothing or a
running job, then one terminal job for ever, and at most one finalization of `a` writes. -/
theorem reads_settle (a : String) (ops : List Op) (hrun : SavesRunning a ops)
    (hfirst : SavesFirst a (trace {} ops)) :
    Settles (seen a (trace {} ops)) ∧ wins a (trace {} ops) ≤ 1 :=
  open_run ops (keyed_empty a) rfl hrun hfirst

theorem keyed_after (a : String) : ∀ (ops : List Op) {s : JobStore}, Keyed a s →
    Keyed a (after s ops)
  | [], _, hk => hk
  | op :: ops, _, hk => keyed_after a ops (keyed_step hk op)

end JobStore

/-! ## Runs of one job, interleaved

An orchestrated run of a job calls the table three times: it reads the stored job, finalizes
the job its analysis comes to, and reads the job back. Runs of one job on several threads
interleave at these calls. -/

namespace Analysis

open JobStore

/-- The job a run finalizes: the job it read, done with the records of an analysis that
succeeded, or failed with the text of the failure. -/
def finalJob (job : Job) : Except Fault (List Record) → Job
  | .ok records => job.done records
  | .error f => job.failed (failureText f)

theorem finalJob_id (job : Job) (o : Except Fault (List Record)) :
    (finalJob job o).id = job.id := by
  cases o <;> rfl

theorem finalJob_isTerminal (job : Job) (o : Except Fault (List Record)) :
    (finalJob job o).isTerminal = true := by
  cases o <;> rfl

/-- Where one run of a job stands between its calls on the table: not started, holding the
job it read while its analysis runs, finalized (and whether that wrote), or answered. -/
inductive Stage where
  | ready
  | working (job : Job)
  | finalized (final : Job) (wrote : Bool)
  | answered (job : Job) (wrote : Bool)

/-- One run of a job: what its analysis comes to, and where it stands. -/
structure JobRun where
  outcome : Except Fault (List Record)
  stage : Stage

namespace JobRun

/-- The next call of a run of the job with id `x`; an answered run makes none. -/
def next (x : Json) (s : JobStore) (r : JobRun) : Option (JobRun × JobStore) :=
  match r.stage with
  | .ready => some (⟨r.outcome, .working (s.base x)⟩, s)
  | .working job =>
    let final := finalJob job r.outcome
    some (⟨r.outcome, .finalized final (s.settle final).1.wrote⟩, (s.settle final).2)
  | .finalized final wrote => some (⟨r.outcome, .answered ((s.get x).getD final) wrote⟩, s)
  | .answered _ _ => none

def wrote (r : JobRun) : Bool :=
  match r.stage with
  | .finalized _ w | .answered _ w => w
  | _ => false

def early (r : JobRun) : Bool :=
  match r.stage with
  | .ready | .working _ => true
  | _ => false

end JobRun

/-- Runs of the job with id `x` advanced in the order a schedule names them; a name past
the runs, or of a run that has answered, lets its turn pass. -/
def interleave (x : Json) : JobStore → List JobRun → List Nat → JobStore × List JobRun
  | s, rs, [] => (s, rs)
  | s, rs, i :: sched =>
    match rs[i]?.bind (JobRun.next x s) with
    | some (r, s') => interleave x s' (rs.set i r) sched
    | none => interleave x s rs sched

/-- A run that nothing interleaves with is the orchestrated run of the job, when its
analysis leaves the table alone: three turns take it from the read to the answer. -/
theorem interleave_alone (c : Crew (StateM JobStore)) (p : Plan) (day : Date) (x : Json)
    (s : JobStore) (o : Except Fault (List Record))
    (h : (c.runInternal p day).run.run s = (o, s)) :
    interleave x s [⟨o, .ready⟩] [0, 0, 0] =
      (((c.runJob p day x).run s).2,
        [⟨o, .answered ((c.runJob p day x).run s).1 (s.settle (finalJob (s.base x) o)).1.wrote⟩]) := by
  have hrun : (c.runJob p day x).run s =
      (((s.settle (finalJob (s.base x) o)).2.get x).getD (finalJob (s.base x) o),
        (s.settle (finalJob (s.base x) o)).2) := by
    have hget : ∀ t : JobStore, StateT.run (getThe JobStore : StateM JobStore JobStore) t = (t, t) :=
      fun _ => rfl
    have hbind : ∀ {α β : Type} (v : Id α) (g : α → Id β), v >>= g = g v := fun _ _ => rfl
    have hmap : ∀ {α β : Type} (g : α → β) (v : Id α), g <$> v = g v := fun _ _ => rfl
    have hpure : ∀ {α : Type} (v : α), (pure v : Id α) = v := fun _ => rfl
    cases o <;>
    · simp only [Crew.runJob, bind_pure_comp, StateT.run_bind, hget, StateT.run_map, StateT.run_set,
        hpure, hmap, hbind, h, finalJob, base]
      unfold settle
      -- the job's own match and settle's read the same finalize answer
      generalize s.finalize _ = r
      cases r <;> rfl
  rw [hrun]
  rfl

/-- Runs of the job `a` agree: every run holding a job holds a job of `a`, and either the
table leaves room for a terminal job of `a` and no run has finalized, or the job of `a` is
terminal, every run that answered answered it, and exactly one run wrote. -/
structure Agreeing (a : String) (s : JobStore) (rs : List JobRun) : Prop where
  keyed : Keyed a s
  holds : ∀ r ∈ rs, ∀ job, r.stage = .working job → job.id = .str a
  settled : (s.isOpen (.str a) = true ∧ ∀ r ∈ rs, r.early = true) ∨
    ∃ t, t.isTerminal = true ∧ s.get (.str a) = some t ∧
      (∀ r ∈ rs, ∀ j w, r.stage = .answered j w → j = t) ∧ rs.countP JobRun.wrote = 1

namespace Agreeing

variable {a : String} {s : JobStore} {rs : List JobRun}

theorem start (hk : Keyed a s) (hopen : s.isOpen (.str a) = true)
    (outcomes : List (Except Fault (List Record))) :
    Agreeing a s (outcomes.map fun o => ⟨o, .ready⟩) where
  keyed := hk
  holds := by
    intro r hr job hjob
    obtain ⟨o, -, rfl⟩ := List.mem_map.mp hr
    cases hjob
  settled := by
    refine .inl ⟨hopen, ?_⟩
    intro r hr
    obtain ⟨o, -, rfl⟩ := List.mem_map.mp hr
    rfl

theorem wrote_of_early {r : JobRun} (h : r.early = true) : r.wrote = false := by
  unfold JobRun.early at h
  unfold JobRun.wrote
  split at h <;> simp_all

theorem next (h : Agreeing a s rs) {i : Nat} (hi : i < rs.length) {r' : JobRun}
    {s' : JobStore} (hn : rs[i].next (.str a) s = some (r', s')) : Agreeing a s' (rs.set i r') := by
  have hmem : rs[i] ∈ rs := List.getElem_mem hi
  have hset : ∀ r ∈ rs.set i r', r ∈ rs ∨ r = r' := fun r hr => List.mem_or_eq_of_mem_set hr
  have hcount : (rs.set i r').countP JobRun.wrote =
      rs.countP JobRun.wrote - (if rs[i].wrote then 1 else 0) + (if r'.wrote then 1 else 0) :=
    List.countP_set hi
  cases hst : rs[i].stage with
  | ready =>
    simp only [JobRun.next, hst, Option.some.injEq, Prod.mk.injEq] at hn
    obtain ⟨rfl, rfl⟩ := hn
    refine ⟨h.keyed, ?_, ?_⟩
    · intro r hr job hjob
      rcases hset r hr with hr | rfl
      · exact h.holds r hr job hjob
      · rw [← Stage.working.inj hjob]
        exact base_id h.keyed
    · rcases h.settled with ⟨hopen, hearly⟩ | ⟨t, ht, hget, hans, hone⟩
      · refine .inl ⟨hopen, fun r hr => ?_⟩
        rcases hset r hr with hr | rfl
        · exact hearly r hr
        · rfl
      · refine .inr ⟨t, ht, hget, fun r hr j w hjw => ?_, ?_⟩
        · rcases hset r hr with hr | rfl
          · exact hans r hr j w hjw
          · cases hjw
        · rw [hcount, hone]
          simp [JobRun.wrote, hst]
  | working job =>
    have hterm := finalJob_isTerminal job rs[i].outcome
    have hid : (finalJob job rs[i].outcome).id = .str a :=
      (finalJob_id job _).trans (h.holds rs[i] hmem job hst)
    simp only [JobRun.next, hst, Option.some.injEq, Prod.mk.injEq] at hn
    obtain ⟨rfl, rfl⟩ := hn
    rw [settle_terminal s _ hterm, hid] at hcount ⊢
    rcases h.settled with ⟨hopen, hearly⟩ | ⟨t, ht, hget, hans, hone⟩
    · -- the first finalization: it writes, and the job of `a` is terminal from now on
      simp only [hopen, if_true] at hcount ⊢
      have hzero : rs.countP JobRun.wrote = 0 :=
        List.countP_eq_zero.mpr fun r hr => by simp [wrote_of_early (hearly r hr)]
      refine ⟨keyed_save h.keyed _, ?_, .inr ⟨_, hterm, get_save_self s _ a hid, ?_, ?_⟩⟩
      · intro r hr job' hjob
        rcases List.mem_or_eq_of_mem_set hr with hr | rfl
        · exact h.holds r hr job' hjob
        · cases hjob
      · intro r hr j w hjw
        rcases List.mem_or_eq_of_mem_set hr with hr | rfl
        · have := hearly r hr
          simp [JobRun.early, hjw] at this
        · cases hjw
      · rw [hcount, hzero]
        simp [JobRun.wrote, hst, Reply.wrote]
    · -- a later finalization is turned away
      have hclosed : s.isOpen (.str a) = false := by simp [isOpen_of_get hget, ht]
      simp only [hclosed, Bool.false_eq_true, if_false] at hcount ⊢
      refine ⟨h.keyed, ?_, .inr ⟨t, ht, hget, ?_, ?_⟩⟩
      · intro r hr job' hjob
        rcases List.mem_or_eq_of_mem_set hr with hr | rfl
        · exact h.holds r hr job' hjob
        · cases hjob
      · intro r hr j w hjw
        rcases List.mem_or_eq_of_mem_set hr with hr | rfl
        · exact hans r hr j w hjw
        · cases hjw
      · rw [hcount, hone]
        simp [JobRun.wrote, hst, Reply.wrote]
  | finalized final w =>
    simp only [JobRun.next, hst, Option.some.injEq, Prod.mk.injEq] at hn
    obtain ⟨rfl, rfl⟩ := hn
    rcases h.settled with ⟨-, hearly⟩ | ⟨t, ht, hget, hans, hone⟩
    · have := hearly rs[i] hmem
      simp [JobRun.early, hst] at this
    · refine ⟨h.keyed, ?_, .inr ⟨t, ht, hget, ?_, ?_⟩⟩
      · intro r hr job' hjob
        rcases hset r hr with hr | rfl
        · exact h.holds r hr job' hjob
        · cases hjob
      · intro r hr j w' hjw
        rcases hset r hr with hr | rfl
        · exact hans r hr j w' hjw
        · rw [← (Stage.answered.inj hjw).1, hget]
          rfl
      · rw [hcount, hone]
        cases w <;> simp [JobRun.wrote, hst]
  | answered j w => simp [JobRun.next, hst] at hn

/-- Every schedule keeps the runs agreeing. -/
theorem along (h : Agreeing a s rs) (sched : List Nat) :
    Agreeing a (interleave (.str a) s rs sched).1 (interleave (.str a) s rs sched).2 := by
  induction sched generalizing s rs with
  | nil => exact h
  | cons i sched ih =>
    unfold interleave
    split
    · rename_i r s' hn
      obtain ⟨r₀, hr₀, hnext⟩ := Option.bind_eq_some_iff.mp hn
      obtain ⟨hi, rfl⟩ := List.getElem?_eq_some_iff.mp hr₀
      exact ih (h.next hi hnext)
    · exact ih h

end Agreeing

/-- Runs of the job `a` agree on one terminal job: at most one of them wrote, and every run
that answered answered the job stored for `a`, which is terminal and which exactly one of
them wrote. -/
def Agreed (a : String) (c : JobStore × List JobRun) : Prop :=
  c.2.countP JobRun.wrote ≤ 1 ∧
    ∀ r ∈ c.2, ∀ j w, r.stage = .answered j w →
      j.isTerminal = true ∧ c.1.get (.str a) = some j ∧ c.2.countP JobRun.wrote = 1

theorem runs_agree (a : String) (ops : List Op) (outcomes : List (Except Fault (List Record)))
    (sched : List Nat) (hopen : (after {} ops).isOpen (.str a) = true) :
    Agreed a (interleave (.str a) (after {} ops) (outcomes.map fun o => ⟨o, .ready⟩) sched) := by
  have h := (Agreeing.start (keyed_after a ops (keyed_empty a)) hopen outcomes).along sched
  rcases h.settled with ⟨-, hearly⟩ | ⟨t, ht, hget, hans, hone⟩
  · refine ⟨?_, ?_⟩
    · rw [List.countP_eq_zero.mpr fun r hr => by simp [Agreeing.wrote_of_early (hearly r hr)]]
      omega
    · intro r hr j w hjw
      have := hearly r hr
      simp [JobRun.early, hjw] at this
  · refine ⟨by omega, ?_⟩
    intro r hr j w hjw
    rw [hans r hr j w hjw]
    exact ⟨ht, hget, hone⟩

end Analysis

open JobStore Analysis in
/-- The life of a job in the table: a finalization writes only over a missing or running
job, reads find the job running and then terminal for ever, at most one finalization writes,
and interleaved runs of one job agree. -/
theorem job_settles_once (a : String) :
    (∀ (s : JobStore) (j : Job), j.status = .running →
      ∃ f, f.kind = .badValue ∧ s.step (.finalize j) = (.refused f, s)) ∧
    (∀ (s : JobStore) (j : Job), j.status ≠ .running →
      s.step (.finalize j) =
        if s.isOpen j.id then (.written true, s.save j) else (.written false, s)) ∧
    (∀ ops, SavesRunning a ops → SavesFirst a (trace {} ops) →
      Settles (seen a (trace {} ops)) ∧ wins a (trace {} ops) ≤ 1) ∧
    (∀ ops (outcomes : List (Except Fault (List Record))) sched,
      (after {} ops).isOpen (.str a) = true →
      Agreed a (interleave (.str a) (after {} ops) (outcomes.map fun o => ⟨o, .ready⟩) sched)) :=
  ⟨finalize_refused, finalize_written, reads_settle a, runs_agree a⟩

namespace JobStore

/-- A job saved running, read, finalized done, read again, and finalized failed. -/
def sampleCalls : List Op :=
  [.save (Job.running (.str "job1")), .get (.str "job1"), .finalizeDone (.str "job1") [],
    .get (.str "job1"), .finalizeFailed (.str "job1") "late", .get (.str "job1")]

theorem job_settles_once_sample :
    SavesRunning "job1" sampleCalls ∧ SavesFirst "job1" (trace {} sampleCalls) ∧
      Settles (seen "job1" (trace {} sampleCalls)) ∧ wins "job1" (trace {} sampleCalls) ≤ 1 := by
  have hrun : SavesRunning "job1" sampleCalls := by
    intro j hj _
    simp [sampleCalls] at hj
    rw [hj]
    rfl
  have hfirst : SavesFirst "job1" (trace {} sampleCalls) := by
    simp [sampleCalls, trace, step, SavesFirst, Op.savesTo, won]
  exact ⟨hrun, hfirst, (job_settles_once "job1").2.2.1 sampleCalls hrun hfirst⟩

end JobStore

end RankAdvisor
