import RankAdvisor.Pool

/-! # The slots of a bounded pool

A pool of capacity `C`, its workers plus its queue, at work one event at a time: a
submission, a worker finishing a task, and the future of a finished task taking its
outcome. A submission takes a free slot of the pool's semaphore and hands its task to the
workers; when no slot is free the task runs at once on the submitting side and the
submission returns a future that is already done. A worker gives the slot back as soon as
the task's function returns or raises, before the task's future is done.

What every run keeps (`Balanced`): the free slots and the tasks holding one add up to `C`.
Hence no release ever goes above the semaphore's bound, a submission runs on the submitting
side exactly when every slot is held, and it never does once every future handed out is
done. Submitted together with none of them finishing, the tasks past the first `C` are the
ones that run on the submitting side (`Pool.inline`).

Main statement: `Pool.slots_balance`.
-/

namespace RankAdvisor

set_option autoImplicit false

namespace Pool

/-! ## Events -/

/-- Where a task handed to the workers stands. -/
inductive Task where
  /-- Queued or running, holding a slot. -/
  | holding
  /-- Its function has returned or raised and its slot is given back; its future is not
  done yet. -/
  | finished (out : Except Fault Json)
  /-- Its future is done with its outcome. -/
  | done (out : Except Fault Json)

namespace Task

def isHolding : Task → Bool
  | .holding => true
  | _ => false

def isDone : Task → Bool
  | .done _ => true
  | _ => false

end Task

/-- What a submission returns. -/
inductive Ticket where
  /-- A future already done with the outcome of the task, run on the submitting side. -/
  | inline (out : Except Fault Json)
  /-- The future of the `i`-th task handed to the workers. -/
  | pooled (i : Nat)

/-- A pool at work: its capacity, the free slots of its semaphore, the tasks handed to its
workers in order, the submissions and the submissions run on the submitting side. -/
structure Flight where
  capacity : Nat
  free : Nat
  tasks : List Task
  submitted : Nat
  callerRuns : Nat

/-- What can happen next: a submission of a task whose function gives `out`; a worker
finishing the `i`-th task with outcome `out`; the `i`-th task's future taking its outcome. -/
inductive Event where
  | submit (out : Except Fault Json)
  | finish (i : Nat) (out : Except Fault Json)
  | complete (i : Nat)

def Event.isSubmit : Event → Bool
  | .submit _ => true
  | _ => false

/-- What an event gives back. -/
inductive Reply where
  /-- A submission's future. -/
  | ticket (t : Ticket)
  /-- A worker gave its slot back. -/
  | released
  /-- The semaphore refused a slot given back above its bound. -/
  | refused (f : Fault)
  /-- A future took its outcome. -/
  | completed

namespace Reply

def isTicket : Reply → Bool
  | .ticket _ => true
  | _ => false

def isInline : Reply → Bool
  | .ticket (.inline _) => true
  | _ => false

def isRefused : Reply → Bool
  | .refused _ => true
  | _ => false

end Reply

theorem getElem?_append_single {α : Type} {l : List α} {x y : α} {k : Nat}
    (hk : (l ++ [x])[k]? = some y) : (k = l.length ∧ y = x) ∨ (k < l.length ∧ l[k]? = some y) := by
  by_cases hkn : k = l.length
  · subst hkn
    rw [List.getElem?_concat_length, Option.some.injEq] at hk
    exact .inl ⟨rfl, hk.symm⟩
  · have hklt : k < l.length := by
      have := (List.getElem?_eq_some_iff.mp hk).1
      simp only [List.length_append, List.length_singleton] at this
      omega
    rw [List.getElem?_append_left hklt] at hk
    exact .inr ⟨hklt, hk⟩

namespace Flight

/-- A pool of capacity `C` before its first submission. -/
def idle (C : Nat) : Flight := ⟨C, C, [], 0, 0⟩

/-- The failure of a bounded semaphore released above the count it started with. -/
def overRelease : Fault := Fault.badValue "Semaphore released too many times"

/-- A slot given back; the semaphore refuses to go above the capacity. -/
def release (s : Flight) : Except Fault Flight :=
  if s.free < s.capacity then .ok { s with free := s.free + 1 } else .error overRelease

/-- A submission: counted, then either a slot is taken and the task handed to the workers,
or no slot is free and the task runs on the submitting side, its future done at once. -/
def submit (s : Flight) (out : Except Fault Json) : Flight × Reply :=
  if s.free = 0 then
    ({ s with submitted := s.submitted + 1, callerRuns := s.callerRuns + 1 }, .ticket (.inline out))
  else
    ({ s with submitted := s.submitted + 1, free := s.free - 1, tasks := s.tasks ++ [.holding] },
      .ticket (.pooled s.tasks.length))

/-- One event, when it can happen: a worker finishes only a task holding a slot, and only a
finished task's future takes its outcome. A refused release leaves the slot taken and the
refusal in the future. -/
def act (s : Flight) : Event → Option (Flight × Reply)
  | .submit out => some (s.submit out)
  | .finish i out =>
    match s.tasks[i]? with
    | some .holding =>
      match s.release with
      | .ok s' => some ({ s' with tasks := s.tasks.set i (.finished out) }, .released)
      | .error f => some ({ s with tasks := s.tasks.set i (.finished (.error f)) }, .refused f)
    | _ => none
  | .complete i =>
    match s.tasks[i]? with
    | some (.finished out) => some ({ s with tasks := s.tasks.set i (.done out) }, .completed)
    | _ => none

/-- A run of events, those that cannot happen passed over, with the replies in order. -/
def run (s : Flight) : List Event → Flight × List Reply
  | [] => (s, [])
  | e :: es =>
    match s.act e with
    | some (s', r) => let (t, rs) := run s' es; (t, r :: rs)
    | none => run s es

/-! ## What one event does -/

theorem run_cons_some {s s' : Flight} {e : Event} {r : Reply} (h : s.act e = some (s', r))
    (es : List Event) : s.run (e :: es) = ((s'.run es).1, r :: (s'.run es).2) := by
  simp [run, h]

theorem run_cons_none {s : Flight} {e : Event} (h : s.act e = none) (es : List Event) :
    s.run (e :: es) = s.run es := by
  simp [run, h]

theorem run_submit (s : Flight) (out : Except Fault Json) (es : List Event) :
    s.run (.submit out :: es) =
      (((s.submit out).1.run es).1, (s.submit out).2 :: ((s.submit out).1.run es).2) :=
  @run_cons_some s (s.submit out).1 (.submit out) (s.submit out).2 rfl es

theorem submit_of_full {s : Flight} (h : s.free = 0) (out : Except Fault Json) :
    s.submit out =
      ({ s with submitted := s.submitted + 1, callerRuns := s.callerRuns + 1 },
        .ticket (.inline out)) := by
  simp [submit, h]

theorem submit_of_free {s : Flight} (h : s.free ≠ 0) (out : Except Fault Json) :
    s.submit out =
      ({ s with submitted := s.submitted + 1, free := s.free - 1, tasks := s.tasks ++ [.holding] },
        .ticket (.pooled s.tasks.length)) := by
  simp [submit, h]

theorem submit_inline_iff (s : Flight) (out : Except Fault Json) :
    (s.submit out).2.isInline ↔ s.free = 0 := by
  by_cases h : s.free = 0
  · simp [submit_of_full h, Reply.isInline, h]
  · simp [submit_of_free h, Reply.isInline, h]

/-- What an event that can happen does: a submission; a worker finishing a task that holds
a slot, the slot given back below the bound and refused at it; a finished task's future
taking its outcome. -/
theorem act_cases {s s' : Flight} {e : Event} {r : Reply} (h : s.act e = some (s', r)) :
    (∃ out, e = .submit out ∧ s.submit out = (s', r)) ∨
    (∃ i out, e = .finish i out ∧ s.tasks[i]? = some .holding ∧
      ((s.free < s.capacity ∧
          s' = { s with free := s.free + 1, tasks := s.tasks.set i (.finished out) } ∧
          r = .released) ∨
        (s.capacity ≤ s.free ∧
          s' = { s with tasks := s.tasks.set i (.finished (.error overRelease)) } ∧
          r = .refused overRelease))) ∨
    (∃ i out, e = .complete i ∧ s.tasks[i]? = some (.finished out) ∧
      s' = { s with tasks := s.tasks.set i (.done out) } ∧ r = .completed) := by
  cases e with
  | submit out =>
    simp only [act, Option.some.injEq] at h
    exact .inl ⟨out, rfl, h⟩
  | finish i out =>
    simp only [act] at h
    split at h
    · next hi =>
      by_cases hlt : s.free < s.capacity
      · simp only [release, hlt, if_true, Option.some.injEq, Prod.mk.injEq] at h
        exact .inr (.inl ⟨i, out, rfl, hi, .inl ⟨hlt, h.1.symm, h.2.symm⟩⟩)
      · simp only [release, hlt, if_false, Option.some.injEq, Prod.mk.injEq] at h
        exact .inr (.inl ⟨i, out, rfl, hi, .inr ⟨Nat.le_of_not_lt hlt, h.1.symm, h.2.symm⟩⟩)
    · cases h
  | complete i =>
    simp only [act] at h
    split at h
    · next out hi =>
      simp only [Option.some.injEq, Prod.mk.injEq] at h
      exact .inr (.inr ⟨i, out, rfl, hi, h.1.symm, h.2.symm⟩)
    · cases h

theorem act_counters {s s' : Flight} {e : Event} {r : Reply} (h : s.act e = some (s', r)) :
    s'.submitted = s.submitted + r.isTicket.toNat ∧
      s'.callerRuns = s.callerRuns + r.isInline.toNat := by
  rcases act_cases h with ⟨out, rfl, hs⟩ | ⟨i, out, rfl, -, ⟨-, rfl, rfl⟩ | ⟨-, rfl, rfl⟩⟩ |
    ⟨i, out, rfl, -, rfl, rfl⟩
  · by_cases hf : s.free = 0
    · rw [submit_of_full hf] at hs
      cases hs
      simp [Reply.isTicket, Reply.isInline]
    · rw [submit_of_free hf] at hs
      cases hs
      simp [Reply.isTicket, Reply.isInline]
  all_goals simp [Reply.isTicket, Reply.isInline]

/-! ## The balance of slots -/

/-- The free slots and the tasks holding one add up to the capacity. -/
def Balanced (s : Flight) : Prop := s.free + s.tasks.countP Task.isHolding = s.capacity

theorem balanced_idle (C : Nat) : (idle C).Balanced := by
  simp [Balanced, idle]

theorem countP_cons_toNat {α : Type} (p : α → Bool) (a : α) (l : List α) :
    (a :: l).countP p = l.countP p + (p a).toNat := by
  rw [List.countP_cons]
  cases p a <;> rfl

theorem countP_set {l : List Task} {i : Nat} {a b : Task} (h : l[i]? = some a) :
    (l.set i b).countP Task.isHolding + a.isHolding.toNat =
      l.countP Task.isHolding + b.isHolding.toNat := by
  induction l generalizing i with
  | nil => simp at h
  | cons x l ih =>
    cases i with
    | zero =>
      simp only [List.getElem?_cons_zero, Option.some.injEq] at h
      subst h
      rw [List.set_cons_zero, countP_cons_toNat, countP_cons_toNat]
      omega
    | succ i =>
      have := ih (by simpa using h)
      rw [List.set_cons_succ, countP_cons_toNat, countP_cons_toNat]
      omega

/-- Each event that can happen keeps the balance, and no release is refused: a task that
finishes holds a slot, so the free slots are below the capacity. -/
theorem Balanced.act {s s' : Flight} (hb : s.Balanced) {e : Event} {r : Reply}
    (h : s.act e = some (s', r)) : s'.Balanced ∧ r.isRefused = false := by
  unfold Balanced at hb
  rcases act_cases h with ⟨out, rfl, hs⟩ | ⟨i, out, rfl, hi, ⟨-, rfl, rfl⟩ | ⟨hge, -, -⟩⟩ |
    ⟨i, out, rfl, hi, rfl, rfl⟩
  · by_cases hf : s.free = 0
    · rw [submit_of_full hf] at hs
      cases hs
      exact ⟨hb, rfl⟩
    · rw [submit_of_free hf] at hs
      cases hs
      refine ⟨?_, rfl⟩
      show s.free - 1 + (s.tasks ++ [Task.holding]).countP Task.isHolding = s.capacity
      rw [List.countP_append]
      simp only [List.countP_singleton, Task.isHolding, if_true]
      omega
  · have := @countP_set s.tasks i .holding (.finished out) hi
    simp only [Task.isHolding, Bool.toNat_true, Bool.toNat_false] at this
    exact ⟨by simp only [Balanced]; omega, rfl⟩
  · -- a refusal needs every slot free, yet this task holds one
    have hpos : 0 < s.tasks.countP Task.isHolding :=
      List.countP_pos_iff.2 ⟨.holding, List.mem_of_getElem? hi, rfl⟩
    omega
  · have := @countP_set s.tasks i (.finished out) (.done out) hi
    simp only [Task.isHolding, Bool.toNat_false] at this
    exact ⟨by simp only [Balanced]; omega, rfl⟩

/-- Every run from a balanced pool stays balanced and has no release refused. -/
theorem Balanced.run {s : Flight} (hb : s.Balanced) (es : List Event) :
    (s.run es).1.Balanced ∧ ∀ r ∈ (s.run es).2, r.isRefused = false := by
  induction es generalizing s with
  | nil => exact ⟨hb, by simp [Flight.run]⟩
  | cons e es ih =>
    cases h : s.act e with
    | none =>
      rw [run_cons_none h]
      exact ih hb
    | some p =>
      obtain ⟨s', r⟩ := p
      obtain ⟨hb', hr⟩ := hb.act h
      obtain ⟨hrun, hrs⟩ := ih hb'
      rw [run_cons_some h]
      refine ⟨hrun, ?_⟩
      intro x hx
      rcases List.mem_cons.1 hx with rfl | hx
      · exact hr
      · exact hrs x hx

theorem run_counters (s : Flight) (es : List Event) :
    (s.run es).1.submitted = s.submitted + (s.run es).2.countP Reply.isTicket ∧
      (s.run es).1.callerRuns = s.callerRuns + (s.run es).2.countP Reply.isInline := by
  induction es generalizing s with
  | nil => simp [Flight.run]
  | cons e es ih =>
    cases h : s.act e with
    | none =>
      rw [run_cons_none h]
      exact ih s
    | some p =>
      obtain ⟨s', r⟩ := p
      obtain ⟨hsub, hcall⟩ := act_counters h
      obtain ⟨ih1, ih2⟩ := ih s'
      rw [run_cons_some h, countP_cons_toNat, countP_cons_toNat, ih1, ih2, hsub, hcall]
      omega

theorem act_capacity {s s' : Flight} {e : Event} {r : Reply} (h : s.act e = some (s', r)) :
    s'.capacity = s.capacity := by
  rcases act_cases h with ⟨out, rfl, hs⟩ | ⟨i, out, rfl, -, ⟨-, rfl, rfl⟩ | ⟨-, rfl, rfl⟩⟩ |
    ⟨i, out, rfl, -, rfl, rfl⟩
  · by_cases hf : s.free = 0
    · rw [submit_of_full hf] at hs
      cases hs
      rfl
    · rw [submit_of_free hf] at hs
      cases hs
      rfl
  all_goals rfl

theorem run_capacity (s : Flight) (es : List Event) : (s.run es).1.capacity = s.capacity := by
  induction es generalizing s with
  | nil => rfl
  | cons e es ih =>
    cases h : s.act e with
    | none =>
      rw [run_cons_none h]
      exact ih s
    | some p =>
      obtain ⟨s', r⟩ := p
      rw [run_cons_some h, ih s', act_capacity h]

theorem submit_isTicket (s : Flight) (out : Except Fault Json) : (s.submit out).2.isTicket := by
  by_cases hf : s.free = 0
  · rw [submit_of_full hf]; rfl
  · rw [submit_of_free hf]; rfl

theorem run_tickets (s : Flight) (es : List Event) :
    (s.run es).2.countP Reply.isTicket = es.countP Event.isSubmit := by
  induction es generalizing s with
  | nil => simp [Flight.run]
  | cons e es ih =>
    cases h : s.act e with
    | none =>
      rw [run_cons_none h, ih s]
      cases e with
      | submit out => simp [act] at h
      | finish i out => simp [Event.isSubmit]
      | complete i => simp [Event.isSubmit]
    | some p =>
      obtain ⟨s', r⟩ := p
      rw [run_cons_some h, List.countP_cons, List.countP_cons, ih s']
      rcases act_cases h with ⟨out, rfl, hs⟩ | ⟨i, out, rfl, -, ⟨-, -, rfl⟩ | ⟨-, -, rfl⟩⟩ |
        ⟨i, out, rfl, -, -, rfl⟩
      · have hr : r.isTicket = true := by
          have hsnd : (s.submit out).2 = r := congrArg Prod.snd hs
          rw [← hsnd]
          exact submit_isTicket s out
        simp [hr, Event.isSubmit]
      all_goals simp [Reply.isTicket, Event.isSubmit]

theorem Balanced.inline_iff {s : Flight} (hb : s.Balanced) (out : Except Fault Json) :
    (s.submit out).2.isInline ↔ s.tasks.countP Task.isHolding = s.capacity := by
  rw [submit_inline_iff]
  unfold Balanced at hb
  omega

/-- Once every task handed to the workers is done, a submission to a pool with a slot gets
one: a slot is given back before its task's future is done. -/
theorem Balanced.pooled_of_done {s : Flight} (hb : s.Balanced) (hC : 0 < s.capacity)
    (hdone : ∀ t ∈ s.tasks, t.isDone) (out : Except Fault Json) :
    (s.submit out).2 = .ticket (.pooled s.tasks.length) := by
  have hnone : s.tasks.countP Task.isHolding = 0 := by
    rw [List.countP_eq_zero]
    intro t ht
    have := hdone t ht
    cases t <;> simp_all [Task.isDone, Task.isHolding]
  have hfree : s.free ≠ 0 := by
    unfold Balanced at hb
    omega
  simp [submit, hfree]

/-! ## Submissions while no task finishes -/

/-- `n` submissions in a row from a pool with `k` tasks all holding their slots: the
`j`-th runs on the submitting side exactly when the slots taken reach the capacity. -/
theorem run_burst (s : Flight) (outs : List (Except Fault Json)) :
    (s.run (outs.map .submit)).2.map Reply.isInline =
      (List.range outs.length).map fun j => decide (s.free ≤ j) := by
  induction outs generalizing s with
  | nil => simp [Flight.run]
  | cons out outs ih =>
    rw [List.map_cons, run_submit,
      List.map_cons, ih, List.length_cons, List.range_succ_eq_map, List.map_cons, List.map_map]
    have hhead : (s.submit out).2.isInline = decide (s.free ≤ 0) := by
      rw [Bool.eq_iff_iff, submit_inline_iff]
      simp
    -- with no task finishing, each submission leaves one slot fewer, down to none
    have hfree : (s.submit out).1.free = s.free - 1 := by
      by_cases hf : s.free = 0
      · rw [submit_of_full hf]
        simp [hf]
      · rw [submit_of_free hf]
    rw [hhead, hfree]
    refine congrArg _ (List.map_congr_left fun j _ => ?_)
    simp only [Function.comp_apply, decide_eq_decide]
    omega

end Flight

/-! ## The pool as it is created -/

theorem compare_mul_pos (a b : Int) {c : Int} (hc : 0 < c) :
    compare (a * c) (b * c) = compare a b := by
  rcases Int.lt_trichotomy a b with hab | rfl | hab
  · rw [Int.compare_eq_lt.2 hab, Int.compare_eq_lt.2 (Int.mul_lt_mul_of_pos_right hab hc)]
  · simp
  · rw [Int.compare_eq_gt.2 hab, Int.compare_eq_gt.2 (Int.mul_lt_mul_of_pos_right hab hc)]

theorem natCast_pow_two_pos (n : Nat) : (0 : Int) < ((Nat.pow 2 n : Nat) : Int) :=
  Int.ofNat_lt.2 (Nat.pos_of_ne_zero (by simp))

theorem compare?_whole (a b : Int) : Number.compare? (.whole a) (.whole b) = some (compare a b) := by
  unfold Number.compare? Number.place?
  simp only [bind, Option.bind, pure, Binary64.Place.compare]
  congr 1
  apply compare_mul_pos
  apply natCast_pow_two_pos

theorem order_int (op : String) (a b : Int) :
    Json.order? op (.int a) (.int b) = .ok (some (compare a b)) := by
  simp only [Json.order?, Json.number?, compare?_whole]

theorem lt_int (a b : Int) : Json.lt (.int a) (.int b) = .ok (decide (a < b)) := by
  simp only [Json.lt, order_int, bind, Except.bind, pure, Except.pure]
  congr 1
  rcases Int.lt_trichotomy a b with hab | rfl | hab
  · simp [Int.compare_eq_lt.2 hab, hab]
  · simp
  · simp [Int.compare_eq_gt.2 hab, Int.not_lt.2 (Int.le_of_lt hab)]

theorem create_int (name : Json) (w q : Int) :
    create name (.int w) (.int q) =
      if w < 1 then .error (Fault.badValue s!"max_workers 必须大于 0: {(Json.int w).plainText}")
      else if q < 0 then
        .error (Fault.badValue s!"queue_capacity 不能为负数: {(Json.int q).plainText}")
      else .ok ⟨name, .int w, .int q, some (w + q).toNat⟩ := by
  simp only [create, lt_int, bind, Except.bind, pure, Except.pure]
  by_cases hw : w < 1
  · simp [hw, throw, throwThe, MonadExceptOf.throw]
  · by_cases hq : q < 0
    · simp [hw, hq, throw, throwThe, MonadExceptOf.throw]
    · simp [hw, hq, Json.plus, Json.number?, Number.add, wholeSlots]

theorem countP_range_ge (k n : Nat) : (List.range n).countP (fun j => decide (k ≤ j)) = n - k := by
  induction n with
  | zero => simp
  | succ n ih =>
    rw [List.range_succ, List.countP_append, ih]
    by_cases h : k ≤ n
    · simp [h]
      omega
    · simp [h]
      omega

theorem run_burst_inline {p : Pool} {C : Nat} (hp : p.slots = some C)
    (outs : List (Except Fault Json)) :
    ((Flight.idle C).run (outs.map .submit)).2.map Reply.isInline = p.inline outs.length ∧
      ((Flight.idle C).run (outs.map .submit)).1.callerRuns = p.callerRuns outs.length := by
  have hburst := Flight.run_burst (Flight.idle C) outs
  have hmap : p.inline outs.length = (List.range outs.length).map fun j => decide (C ≤ j) := by
    simp [inline, hp]
  refine ⟨by rw [hburst, hmap]; rfl, ?_⟩
  -- the inline submissions are counted once each, from a pool that counted none
  have hcount := (Flight.run_counters (Flight.idle C) (outs.map .submit)).2
  have hviaMap : ∀ l : List Reply, l.countP Reply.isInline = (l.map Reply.isInline).countP id :=
    fun l => by rw [List.countP_map]; rfl
  rw [hcount, hviaMap, hburst, List.countP_map]
  simp only [callerRuns, hp, Flight.idle, Nat.zero_add, Function.comp_def, id]
  exact countP_range_ge C outs.length

/-- The slots of a bounded pool: every run from the created pool keeps the free slots and the
held tasks at the capacity, so no release exceeds the bound and a submission runs on the
submitting side exactly when every slot is held. -/
theorem slots_balance (name : Json) (w q : Int) :
    ((w < 1 ∨ q < 0) → ∃ msg, create name (.int w) (.int q) = .error (Fault.badValue msg)) ∧
    (1 ≤ w → 0 ≤ q →
      let C := (w + q).toNat
      ∃ p, create name (.int w) (.int q) = .ok p ∧ p.slots = some C ∧
        (∀ es : List Event,
          let s := (Flight.idle C).run es
          s.1.free + s.1.tasks.countP Task.isHolding = C ∧
          s.1.tasks.countP Task.isHolding ≤ C ∧
          (∀ r ∈ s.2, r.isRefused = false) ∧
          s.1.submitted = es.countP Event.isSubmit ∧
          s.1.callerRuns = s.2.countP Reply.isInline ∧
          (∀ out, ((s.1.submit out).2.isInline ↔ s.1.tasks.countP Task.isHolding = C) ∧
            ((s.1.submit out).2.isInline → (s.1.submit out).2 = .ticket (.inline out))) ∧
          ((∀ t ∈ s.1.tasks, t.isDone) →
            ∀ out, (s.1.submit out).2 = .ticket (.pooled s.1.tasks.length))) ∧
        ∀ outs : List (Except Fault Json),
          ((Flight.idle C).run (outs.map .submit)).2.map Reply.isInline = p.inline outs.length ∧
          ((Flight.idle C).run (outs.map .submit)).1.callerRuns = p.callerRuns outs.length) := by
  refine ⟨fun hbad => ?_, fun hw hq => ?_⟩
  · rw [create_int]
    by_cases hw : w < 1
    · exact ⟨_, by rw [if_pos hw]⟩
    · have hq : q < 0 := hbad.resolve_left hw
      exact ⟨_, by rw [if_neg hw, if_pos hq]⟩
  · have hC : 0 < (w + q).toNat := by omega
    refine ⟨_, by rw [create_int, if_neg (by omega), if_neg (by omega)], rfl, fun es => ?_,
      run_burst_inline rfl⟩
    obtain ⟨hbal, hrefused⟩ := (Flight.balanced_idle (w + q).toNat).run es
    obtain ⟨hsub, hcall⟩ := Flight.run_counters (Flight.idle (w + q).toNat) es
    have hcap : ((Flight.idle (w + q).toNat).run es).1.capacity = (w + q).toNat :=
      Flight.run_capacity _ es
    unfold Flight.Balanced at hbal
    refine ⟨by rw [hbal, hcap], by omega, hrefused,
      by rw [← Flight.run_tickets _ es]; simpa [Flight.idle] using hsub,
      by simpa [Flight.idle] using hcall, fun out => ⟨?_, ?_⟩, fun hdone out => ?_⟩
    · have hiff := Flight.Balanced.inline_iff hbal out
      rwa [hcap] at hiff
    · intro hin
      rw [Flight.submit_inline_iff] at hin
      rw [Flight.submit_of_full hin]
    · exact Flight.Balanced.pooled_of_done hbal (by omega) hdone out

/-- A pool of one worker and a queue of one, its first two tasks holding their slots: the
third submission runs on the submitting side. -/
theorem slots_balance_saturated :
    ∃ p, create (.str "test") (.int 1) (.int 1) = .ok p ∧ p.slots = some 2 ∧
      (((Flight.idle 2).run [.submit (.ok .null), .submit (.ok .null)]).1.submit
        (.ok (.str "inline"))).2 = .ticket (.inline (.ok (.str "inline"))) := by
  obtain ⟨p, hp, hslots, hruns, -⟩ := (slots_balance (.str "test") 1 1).2 (by decide) (by decide)
  refine ⟨p, hp, hslots, ?_⟩
  obtain ⟨-, -, -, -, -, hsubmit, -⟩ := hruns [.submit (.ok .null), .submit (.ok .null)]
  exact (hsubmit (.ok (.str "inline"))).2 ((hsubmit _).1.2 (by decide))

end Pool

end RankAdvisor
