import RankAdvisor.Proofs.PoolSlots
import RankAdvisor.Proofs.RunOutcome

/-! # Fanning out over a bounded pool

A fan-out submits every item to a pool in item order, then takes the futures one at a time
as they are done, in whatever order they finish, and puts each outcome at its item's
place. On the pool of `Pool.Flight` a submission runs on the submitting side when no slot is
free, and a task handed to the workers finishes and completes whenever a worker gets to it.
A fan-out is then a run of moves (`Gather.Move`): the next item's submission, anything else
the pool does (other callers' submissions, workers finishing tasks, futures taking their
outcomes), and the gathering loop taking the done future of one item.

What every run keeps (`Gather.Sound`): an item's future holds what the call on it returned
once it returned (at once when it ran on the submitting side, in its task otherwise), no
two items share a task, and every place filled holds its own item and what the call on that
item returned. Once the loop has taken every future, each place is filled and every future
is done; for a call that answers `f x` on the item `x`, the places hold exactly what
`fanOut` gives.

Main statement: `Pool.fanOut_gathers_in_order`.
-/

namespace RankAdvisor

set_option autoImplicit false

namespace Pool

namespace Flight

/-! ## Futures -/

/-- The outcome of a future that is done: one run on the submitting side at once, a pooled
one once its task's future is done. -/
def result? (s : Flight) : Ticket → Option (Except Fault Json)
  | .inline out => some out
  | .pooled k =>
    match s.tasks[k]? with
    | some (.done out) => some out
    | _ => none

/-- A future against what the call behind it has returned: one run on the submitting side
holds it; a pooled task holds a slot while the call has not returned, and what it returned
afterwards. -/
def Fits (s : Flight) : Ticket → Option (Except Fault Json) → Prop
  | .inline out, r => r = some out
  | .pooled k, none => s.tasks[k]? = some .holding
  | .pooled k, some out => s.tasks[k]? = some (.finished out) ∨ s.tasks[k]? = some (.done out)

theorem Fits.task_lt {s : Flight} {t : Ticket} {r : Option (Except Fault Json)} (h : s.Fits t r)
    {k : Nat} (hk : t = .pooled k) : k < s.tasks.length := by
  subst hk
  cases r with
  | none => exact (List.getElem?_eq_some_iff.mp h).1
  | some out =>
    rcases h with h | h
    · exact (List.getElem?_eq_some_iff.mp h).1
    · exact (List.getElem?_eq_some_iff.mp h).1

theorem fits_frame {s s' : Flight} {t : Ticket} {r : Option (Except Fault Json)}
    (hsame : ∀ k, t = .pooled k → s'.tasks[k]? = s.tasks[k]?) (h : s.Fits t r) :
    s'.Fits t r ∧ s'.result? t = s.result? t := by
  cases t with
  | inline out => exact ⟨h, rfl⟩
  | pooled k =>
    have hk := hsame k rfl
    refine ⟨?_, by simp only [result?, hk]⟩
    cases r with
    | none => simpa only [Fits, hk] using h
    | some out => simpa only [Fits, hk] using h

theorem Fits.result {s : Flight} {t : Ticket} {r : Option (Except Fault Json)} (h : s.Fits t r)
    {out : Except Fault Json} (hres : s.result? t = some out) : r = some out := by
  cases t with
  | inline o =>
    simp only [result?, Option.some.injEq] at hres
    rw [← hres]
    exact h
  | pooled k =>
    cases r with
    | none =>
      simp only [Fits] at h
      simp [result?, h] at hres
    | some o =>
      rcases h with h | h
      · simp [result?, h] at hres
      · simp only [result?, h, Option.some.injEq] at hres
        rw [hres]

theorem getElem?_of_extend {l l' : List Task} {k : Nat} (hext : l' = l ∨ l' = l ++ [.holding])
    (hk : k < l.length) : l'[k]? = l[k]? := by
  rcases hext with rfl | rfl
  · rfl
  · exact List.getElem?_append_left hk

theorem submit_cases (s : Flight) (out : Except Fault Json) :
    ((s.submit out).2 = .ticket (.inline out) ∧ (s.submit out).1.tasks = s.tasks) ∨
      ((s.submit out).2 = .ticket (.pooled s.tasks.length) ∧
        (s.submit out).1.tasks = s.tasks ++ [.holding]) := by
  by_cases hf : s.free = 0
  · exact .inl (by rw [submit_of_full hf]; exact ⟨rfl, rfl⟩)
  · exact .inr (by rw [submit_of_free hf]; exact ⟨rfl, rfl⟩)

theorem Balanced.finish {s s' : Flight} (hb : s.Balanced) {i : Nat} {out : Except Fault Json}
    {r : Reply} (h : s.act (.finish i out) = some (s', r)) :
    s.tasks[i]? = some .holding ∧ s'.tasks = s.tasks.set i (.finished out) := by
  have hnot := (hb.act h).2
  rcases act_cases h with ⟨_, he, -⟩ | ⟨i', out', he, hi, ⟨-, rfl, -⟩ | ⟨-, -, rfl⟩⟩ |
    ⟨_, _, he, -⟩
  · cases he
  · cases he
    exact ⟨hi, rfl⟩
  · cases hnot
  · cases he

theorem act_complete {s s' : Flight} {i : Nat} {r : Reply} (h : s.act (.complete i) = some (s', r)) :
    ∃ out, s.tasks[i]? = some (.finished out) ∧ s'.tasks = s.tasks.set i (.done out) := by
  rcases act_cases h with ⟨_, he, -⟩ | ⟨_, _, he, -⟩ | ⟨i', out, he, hi, rfl, -⟩
  · cases he
  · cases he
  · cases he
    exact ⟨out, hi, rfl⟩

end Flight

/-! ## A fan-out at work -/

/-- A fan-out on a pool: the pool, the items, the futures of the items submitted so far in
item order, what the call on each item returned once it has, the outcome gathered at each
place once its future was taken, and how many futures the loop has taken. -/
structure Gather (α : Type) where
  flight : Flight
  items : List α
  tickets : List Ticket
  returned : List (Option (Except Fault Json))
  slots : List (Option (α × Except Fault Json))
  received : Nat

namespace Gather

variable {α : Type}

/-- What can happen next: the fan-out submits its next item, whose call gives `out` if it
runs on the submitting side; anything else happens on the pool; the loop takes the future
of the item at place `j`. -/
inductive Move where
  | submit (out : Except Fault Json)
  | pool (e : Event)
  | take (j : Nat)

/-- A fan-out about to submit its items to a pool in any state. -/
def start (s : Flight) (items : List α) : Gather α :=
  ⟨s, items, [], items.map fun _ => none, items.map fun _ => none, 0⟩

/-- What the call on an item has returned once its submission returns: the outcome of a
call run on the submitting side, nothing yet for a task handed to the workers. -/
def Ticket.called : Ticket → Option (Except Fault Json)
  | .inline out => some out
  | .pooled _ => none

def Ticket.isTask (i : Nat) : Ticket → Bool
  | .inline _ => false
  | .pooled k => k == i

/-- The place of the item whose task is `i`, if one is. -/
def ownerOf (tickets : List Ticket) (i : Nat) : Option Nat := tickets.findIdx? (Ticket.isTask i)

/-- What the calls have returned after an event on the pool: a worker finishing an item's
task notes what the call returned. -/
def noteReturn (g : Gather α) : Event → List (Option (Except Fault Json))
  | .finish i out =>
    match ownerOf g.tickets i with
    | some j => g.returned.set j (some out)
    | none => g.returned
  | _ => g.returned

/-- One move, when it can happen. The next item is submitted only while some remain; the
loop starts once every item is submitted and takes each place once, when its future is
done. -/
def act (g : Gather α) : Move → Option (Gather α)
  | .submit out =>
    if g.tickets.length < g.items.length then
      match g.flight.submit out with
      | (f, .ticket t) =>
        some { g with
          flight := f
          tickets := g.tickets ++ [t]
          returned := g.returned.set g.tickets.length (Ticket.called t) }
      | _ => none
    else none
  | .pool e =>
    (g.flight.act e).map fun p => { g with flight := p.1, returned := g.noteReturn e }
  | .take j =>
    if g.items.length ≤ g.tickets.length then
      match g.slots[j]?, g.items[j]?, g.tickets[j]?.bind g.flight.result? with
      | some none, some x, some out =>
        some { g with slots := g.slots.set j (some (x, out)), received := g.received + 1 }
      | _, _, _ => none
    else none

/-- A run of moves, those that cannot happen passed over. -/
def run (g : Gather α) : List Move → Gather α
  | [] => g
  | m :: ms =>
    match g.act m with
    | some g' => run g' ms
    | none => run g ms

/-! ## What every run keeps -/

/-- The invariant of a fan-out: a balanced pool, each submitted item's future fitting what its
call returned, no task shared, and each filled place holding its item and that outcome. -/
structure Sound (g : Gather α) : Prop where
  balanced : g.flight.Balanced
  submitted : g.tickets.length ≤ g.items.length
  returned_length : g.returned.length = g.items.length
  slots_length : g.slots.length = g.items.length
  fits : ∀ (j : Nat) t r, g.tickets[j]? = some t → g.returned[j]? = some r → g.flight.Fits t r
  waiting : ∀ j : Nat, g.tickets.length ≤ j → j < g.items.length → g.returned[j]? = some none
  distinct : ∀ j j' k : Nat, g.tickets[j]? = some (.pooled k) → g.tickets[j']? = some (.pooled k) →
    j = j'
  slot : ∀ (j : Nat) x out, g.slots[j]? = some (some (x, out)) →
    g.items[j]? = some x ∧ g.returned[j]? = some (some out) ∧
      ∃ t, g.tickets[j]? = some t ∧ g.flight.result? t = some out
  received : g.received = g.slots.countP Option.isSome

theorem sound_start {s : Flight} (hb : s.Balanced) (items : List α) : (start s items).Sound where
  balanced := hb
  submitted := Nat.zero_le _
  returned_length := List.length_map _
  slots_length := List.length_map _
  fits := by simp [start]
  waiting := by
    intro j _ hj
    have hj' : j < items.length := hj
    simp only [start, List.getElem?_map, List.getElem?_eq_getElem hj', Option.map_some]
  distinct := by simp [start]
  slot := by
    intro j x out hs
    simp only [start, List.getElem?_map] at hs
    cases hj : items[j]? with
    | none =>
      rw [hj] at hs
      cases hs
    | some y =>
      rw [hj, Option.map_some] at hs
      cases hs
  received := by
    -- no place is filled before the loop starts
    refine (List.countP_eq_zero.mpr fun o ho => ?_).symm
    obtain ⟨_, -, rfl⟩ := List.mem_map.mp ho
    exact Bool.false_ne_true

theorem ownerOf_some {ts : List Ticket} {i j : Nat} (h : ownerOf ts i = some j) :
    ts[j]? = some (.pooled i) := by
  obtain ⟨hj, hp, -⟩ := List.findIdx?_eq_some_iff_getElem.mp h
  rw [List.getElem?_eq_getElem hj]
  cases ht : ts[j] with
  | inline o => simp [ht, Ticket.isTask] at hp
  | pooled k =>
    simp only [ht, Ticket.isTask, beq_iff_eq] at hp
    rw [hp]

theorem ownerOf_none {ts : List Ticket} {i : Nat} (h : ownerOf ts i = none) (j : Nat) :
    ts[j]? ≠ some (.pooled i) := by
  intro hj
  have := List.findIdx?_eq_none_iff.mp h _ (List.mem_of_getElem? hj)
  simp [Ticket.isTask] at this

section Steps

variable {g g' : Gather α}

theorem Sound.fits_at (h : g.Sound) {j : Nat} {t : Ticket} (hj : g.tickets[j]? = some t) :
    ∃ r, g.returned[j]? = some r ∧ g.flight.Fits t r := by
  have hlt : j < g.returned.length := by
    rw [h.returned_length]
    exact Nat.lt_of_lt_of_le (List.getElem?_eq_some_iff.mp hj).1 h.submitted
  exact ⟨_, List.getElem?_eq_getElem hlt, h.fits j t _ hj (List.getElem?_eq_getElem hlt)⟩

theorem Sound.submit (h : g.Sound) {out : Except Fault Json} (ha : g.act (.submit out) = some g') :
    g'.Sound := by
  simp only [act] at ha
  split at ha
  · rename_i hlt
    split at ha
    · rename_i f t hsub
      cases ha
      have hbal : f.Balanced :=
        (h.balanced.act (show g.flight.act (.submit out) = some (f, .ticket t) by
          simp [Flight.act, hsub])).1
      -- the new future, and the pool's tasks before it
      obtain ⟨hext, hnew, hfresh⟩ :
          (f.tasks = g.flight.tasks ∨ f.tasks = g.flight.tasks ++ [.holding]) ∧
            f.Fits t (Ticket.called t) ∧ ∀ k, t = .pooled k → g.flight.tasks.length ≤ k := by
        rcases Flight.submit_cases g.flight out with ⟨hr, htasks⟩ | ⟨hr, htasks⟩
        · rw [hsub] at hr htasks
          obtain rfl : t = .inline out := by simpa using hr
          exact ⟨.inl htasks, rfl, fun k hk => by cases hk⟩
        · rw [hsub] at hr htasks
          obtain rfl : t = .pooled g.flight.tasks.length := by simpa using hr
          refine ⟨.inr htasks, ?_, fun k hk => by cases hk; exact Nat.le_refl _⟩
          show f.tasks[g.flight.tasks.length]? = some .holding
          rw [htasks, List.getElem?_concat_length]
      have hsame : ∀ k, k < g.flight.tasks.length → f.tasks[k]? = g.flight.tasks[k]? :=
        fun k hk => Flight.getElem?_of_extend hext hk
      have hretlt : g.tickets.length < g.returned.length := by
        rw [h.returned_length]
        exact hlt
      refine ⟨hbal, ?_, ?_, h.slots_length, ?_, ?_, ?_, ?_, h.received⟩
      · show (g.tickets ++ [t]).length ≤ g.items.length
        simp only [List.length_append, List.length_singleton]
        omega
      · show (g.returned.set g.tickets.length _).length = g.items.length
        rw [List.length_set, h.returned_length]
      · intro j t' r hj hr
        rcases getElem?_append_single hj with ⟨rfl, rfl⟩ | ⟨hjlt, hj⟩
        · rw [List.getElem?_set_self hretlt, Option.some.injEq] at hr
          rw [← hr]
          exact hnew
        · rw [List.getElem?_set_ne (Nat.ne_of_gt hjlt)] at hr
          have hfit := h.fits j t' r hj hr
          exact (Flight.fits_frame (fun k hk => hsame k (hfit.task_lt hk)) hfit).1
      · intro j hj hjl
        have hjn : g.tickets.length ≠ j := by
          simp only [List.length_append, List.length_singleton] at hj
          omega
        show (g.returned.set g.tickets.length _)[j]? = some none
        rw [List.getElem?_set_ne hjn]
        exact h.waiting j (by simp only [List.length_append, List.length_singleton] at hj; omega) hjl
      · -- the new task is newer than every task an earlier item holds
        have hold : ∀ j k, j < g.tickets.length → g.tickets[j]? = some (.pooled k) →
            k < g.flight.tasks.length := fun j k _ hj => by
          obtain ⟨r, -, hfit⟩ := h.fits_at hj
          exact hfit.task_lt rfl
        intro j j' k hj hj'
        rcases getElem?_append_single hj with ⟨rfl, rfl⟩ | ⟨hjlt, hj⟩ <;>
          rcases getElem?_append_single hj' with ⟨rfl, ht⟩ | ⟨hjlt', hj'⟩
        · rfl
        · have := hfresh k rfl
          have := hold j' k hjlt' hj'
          omega
        · have := hfresh k ht.symm
          have := hold j k hjlt hj
          omega
        · exact h.distinct j j' k hj hj'
      · intro j x o hs
        obtain ⟨hx, hret, t', ht', hres⟩ := h.slot j x o hs
        have hjlt : j < g.tickets.length := (List.getElem?_eq_some_iff.mp ht').1
        obtain ⟨r, hr, hfit⟩ := h.fits_at ht'
        refine ⟨hx, ?_, t', ?_, ?_⟩
        · show (g.returned.set g.tickets.length _)[j]? = _
          rw [List.getElem?_set_ne (Nat.ne_of_gt hjlt)]
          exact hret
        · show (g.tickets ++ [t])[j]? = _
          rw [List.getElem?_append_left hjlt]
          exact ht'
        · rw [(Flight.fits_frame (fun k hk => hsame k (hfit.task_lt hk)) hfit).2]
          exact hres
    · cases ha
  · cases ha

/-- An event on the pool keeps the fan-out sound when it keeps the pool balanced, changes
the record of returns only at submitted places, keeps every future fitting what its call
returned, and keeps every done future done with its outcome and its record. -/
theorem Sound.update (h : g.Sound) {f : Flight} {ret : List (Option (Except Fault Json))}
    (hbal : f.Balanced) (hlen : ret.length = g.returned.length)
    (hwait : ∀ j : Nat, g.tickets.length ≤ j → ret[j]? = g.returned[j]?)
    (hfits : ∀ (j : Nat) t r, g.tickets[j]? = some t → ret[j]? = some r → f.Fits t r)
    (hdone : ∀ (j : Nat) t o, g.tickets[j]? = some t → g.flight.result? t = some o →
      f.result? t = some o ∧ ret[j]? = g.returned[j]?) :
    ({ g with flight := f, returned := ret } : Gather α).Sound where
  balanced := hbal
  submitted := h.submitted
  returned_length := hlen.trans h.returned_length
  slots_length := h.slots_length
  fits := hfits
  waiting j hj hjl := (hwait j hj).trans (h.waiting j hj hjl)
  distinct := h.distinct
  slot j x o hs := by
    obtain ⟨hx, hret, t, ht, hres⟩ := h.slot j x o hs
    obtain ⟨hres', hsame⟩ := hdone j t o ht hres
    exact ⟨hx, hsame.trans hret, t, ht, hres'⟩
  received := h.received

theorem fits_of_set {s f : Flight} {i : Nat} {x : Task} (htasks : f.tasks = s.tasks.set i x)
    {t : Ticket} (hti : t ≠ .pooled i) {r : Option (Except Fault Json)} (hfit : s.Fits t r) :
    f.Fits t r ∧ f.result? t = s.result? t :=
  Flight.fits_frame (fun k hk => by
    have hki : i ≠ k := fun hik => hti (hik ▸ hk)
    rw [htasks, List.getElem?_set_ne hki]) hfit

theorem Sound.pool_submit (h : g.Sound) {out : Except Fault Json} {f : Flight} {rep : Reply}
    (hact : g.flight.act (.submit out) = some (f, rep)) :
    ({ g with flight := f, returned := g.returned } : Gather α).Sound := by
  have hf : f = (g.flight.submit out).1 := by
    simp only [Flight.act, Option.some.injEq] at hact
    rw [hact]
  have hext : f.tasks = g.flight.tasks ∨ f.tasks = g.flight.tasks ++ [.holding] := by
    rw [hf]
    rcases Flight.submit_cases g.flight out with ⟨-, htasks⟩ | ⟨-, htasks⟩
    · exact .inl htasks
    · exact .inr htasks
  have hframe : ∀ {t r}, g.flight.Fits t r → f.Fits t r ∧ f.result? t = g.flight.result? t :=
    fun hfit => Flight.fits_frame (fun k hk => Flight.getElem?_of_extend hext (hfit.task_lt hk)) hfit
  refine h.update (h.balanced.act hact).1 rfl (fun _ _ => rfl) ?_ ?_
  · intro j t r hj hr
    exact (hframe (h.fits j t r hj hr)).1
  · intro j t o hj hres
    obtain ⟨r, -, hfit⟩ := h.fits_at hj
    exact ⟨(hframe hfit).2.trans hres, rfl⟩

theorem Sound.pool_finish (h : g.Sound) {i : Nat} {out : Except Fault Json} {f : Flight}
    {rep : Reply} (hact : g.flight.act (.finish i out) = some (f, rep)) :
    ({ g with flight := f, returned := g.noteReturn (.finish i out) } : Gather α).Sound := by
  obtain ⟨hi, htasks⟩ := h.balanced.finish hact
  have hbal : f.Balanced := (h.balanced.act hact).1
  -- no future of task `i` is done: the task still held its slot
  have hnotdone : g.flight.result? (.pooled i) = none := by simp [Flight.result?, hi]
  cases ho : ownerOf g.tickets i with
  | none =>
    have hother : ∀ (j : Nat) t, g.tickets[j]? = some t → t ≠ .pooled i := fun j t hj hti =>
      ownerOf_none ho j (hti ▸ hj)
    refine h.update hbal (by simp only [noteReturn, ho]) (fun j _ => by simp only [noteReturn, ho])
      ?_ ?_
    · intro j t r hj hr
      simp only [noteReturn, ho] at hr
      exact (fits_of_set htasks (hother j t hj) (h.fits j t r hj hr)).1
    · intro j t o hj hres
      obtain ⟨r, -, hfit⟩ := h.fits_at hj
      refine ⟨(fits_of_set htasks (hother j t hj) hfit).2.trans hres, ?_⟩
      simp only [noteReturn, ho]
  | some j₀ =>
    have hj₀ := ownerOf_some ho
    have hj₀lt : j₀ < g.tickets.length := (List.getElem?_eq_some_iff.mp hj₀).1
    have hret : g.noteReturn (.finish i out) = g.returned.set j₀ (some out) := by
      simp only [noteReturn, ho]
    -- every other place holds another task
    have hother : ∀ (j : Nat) t, g.tickets[j]? = some t → j ≠ j₀ → t ≠ .pooled i :=
      fun j t hj hne hti =>
      hne (h.distinct j j₀ i (hti ▸ hj) hj₀)
    refine h.update hbal (by rw [hret, List.length_set]) (fun j hj => by
      rw [hret, List.getElem?_set_ne (by omega)]) ?_ ?_
    · intro j t r hj hr
      rw [hret] at hr
      by_cases hjj : j = j₀
      · subst hjj
        rw [hj₀, Option.some.injEq] at hj
        subst hj
        have hsub := h.submitted
        rw [List.getElem?_set_self (by rw [h.returned_length]; omega), Option.some.injEq] at hr
        subst hr
        exact .inl (by rw [htasks, List.getElem?_set_self (List.getElem?_eq_some_iff.mp hi).1])
      · rw [List.getElem?_set_ne (Ne.symm hjj)] at hr
        exact (fits_of_set htasks (hother j t hj hjj) (h.fits j t r hj hr)).1
    · intro j t o hj hres
      obtain ⟨r, -, hfit⟩ := h.fits_at hj
      have hjj : j ≠ j₀ := fun hjj => by
        subst hjj
        rw [hj₀, Option.some.injEq] at hj
        rw [← hj, hnotdone] at hres
        cases hres
      refine ⟨(fits_of_set htasks (hother j t hj hjj) hfit).2.trans hres, ?_⟩
      rw [hret, List.getElem?_set_ne (Ne.symm hjj)]

theorem Sound.pool_complete (h : g.Sound) {i : Nat} {f : Flight} {rep : Reply}
    (hact : g.flight.act (.complete i) = some (f, rep)) :
    ({ g with flight := f, returned := g.returned } : Gather α).Sound := by
  obtain ⟨o, hi, htasks⟩ := Flight.act_complete hact
  have hnotdone : g.flight.result? (.pooled i) = none := by simp [Flight.result?, hi]
  refine h.update (h.balanced.act hact).1 rfl (fun _ _ => rfl) ?_ ?_
  · intro j t r hj hr
    have hfit := h.fits j t r hj hr
    by_cases hti : t = .pooled i
    · subst hti
      -- the finished task held what the call returned; now its future holds it
      have hro : r = some o := by
        cases r with
        | none =>
          simp only [Flight.Fits, hi, Option.some.injEq] at hfit
          cases hfit
        | some o' =>
          simp only [Flight.Fits, hi, Option.some.injEq] at hfit
          rcases hfit with hfit | hfit
          · cases hfit
            rfl
          · cases hfit
      subst hro
      exact .inr (by rw [htasks, List.getElem?_set_self (List.getElem?_eq_some_iff.mp hi).1])
    · exact (fits_of_set htasks hti hfit).1
  · intro j t o' hj hres
    obtain ⟨r, -, hfit⟩ := h.fits_at hj
    have hti : t ≠ .pooled i := fun hti => by
      rw [hti, hnotdone] at hres
      cases hres
    exact ⟨(fits_of_set htasks hti hfit).2.trans hres, rfl⟩

theorem Sound.pool (h : g.Sound) {e : Event} (ha : g.act (.pool e) = some g') : g'.Sound := by
  simp only [act, Option.map_eq_some_iff] at ha
  obtain ⟨⟨f, rep⟩, hact, rfl⟩ := ha
  cases e with
  | submit out => exact h.pool_submit hact
  | finish i out => exact h.pool_finish hact
  | complete i => exact h.pool_complete hact

theorem Sound.take (h : g.Sound) {j : Nat} (ha : g.act (.take j) = some g') : g'.Sound := by
  simp only [act] at ha
  split at ha
  · split at ha
    · rename_i x out hslot hitem hres
      cases ha
      obtain ⟨t, ht, hres'⟩ := Option.bind_eq_some_iff.mp hres
      obtain ⟨r, hr, hfit⟩ := h.fits_at ht
      obtain rfl : r = some out := hfit.result hres'
      have hjlt : j < g.slots.length := (List.getElem?_eq_some_iff.mp hslot).1
      have hempty : g.slots[j] = none := by
        rw [List.getElem?_eq_getElem hjlt, Option.some.injEq] at hslot
        exact hslot
      refine ⟨h.balanced, h.submitted, h.returned_length, ?_, h.fits, h.waiting, h.distinct, ?_, ?_⟩
      · show (g.slots.set j _).length = g.items.length
        rw [List.length_set]
        exact h.slots_length
      · intro j' x' o hs
        by_cases hjj : j' = j
        · subst hjj
          simp only [List.getElem?_set_self hjlt, Option.some.injEq, Prod.mk.injEq] at hs
          obtain ⟨rfl, rfl⟩ := hs
          exact ⟨hitem, hr, t, ht, hres'⟩
        · rw [List.getElem?_set_ne (Ne.symm hjj)] at hs
          exact h.slot j' x' o hs
      · show g.received + 1 = (g.slots.set j _).countP Option.isSome
        rw [List.countP_set hjlt, h.received, hempty]
        simp
    · cases ha
  · cases ha

theorem Sound.act (h : g.Sound) {m : Move} (ha : g.act m = some g') : g'.Sound := by
  cases m with
  | submit out => exact h.submit ha
  | pool e => exact h.pool ha
  | take j => exact h.take ha

/-- Every run keeps the fan-out sound. -/
theorem Sound.run (h : g.Sound) (ms : List Move) : (g.run ms).Sound := by
  induction ms generalizing g with
  | nil => exact h
  | cons m ms ih =>
    unfold Gather.run
    split
    · next g' ha => exact ih (h.act ha)
    · exact ih h

end Steps

theorem act_items {g g' : Gather α} {m : Move} (ha : g.act m = some g') : g'.items = g.items := by
  cases m with
  | submit out =>
    simp only [act] at ha
    split at ha
    · split at ha
      · cases ha
        rfl
      · cases ha
    · cases ha
  | pool e =>
    simp only [act, Option.map_eq_some_iff] at ha
    obtain ⟨_, -, rfl⟩ := ha
    rfl
  | take j =>
    simp only [act] at ha
    split at ha
    · split at ha
      · cases ha
        rfl
      · cases ha
    · cases ha

theorem run_items (g : Gather α) (ms : List Move) : (g.run ms).items = g.items := by
  induction ms generalizing g with
  | nil => rfl
  | cons m ms ih =>
    unfold Gather.run
    split
    · next g' ha => rw [ih g', act_items ha]
    · exact ih g

/-- Once the loop has taken a future for each item, every place is filled: the `j`-th with
`items[j]`, what its call returned, and the result of its future. -/
theorem Sound.filled {g : Gather α} (h : g.Sound) {items : List α} (hitems : g.items = items)
    (hdone : g.received = items.length) (j : Nat) (hj : j < items.length) :
    ∃ out t, g.slots[j]? = some (some (items[j], out)) ∧ g.returned[j]? = some (some out) ∧
      g.tickets[j]? = some t ∧ g.flight.result? t = some out := by
  have hlen : g.slots.length = items.length := hitems ▸ h.slots_length
  -- the loop took one future for each place, each into an empty place: none is left empty
  have hall : ∀ o ∈ g.slots, o.isSome = true := by
    apply List.countP_eq_length.mp
    rw [← h.received, hdone, hlen]
  have hjs : j < g.slots.length := hlen ▸ hj
  obtain ⟨⟨x, out⟩, hxo⟩ := Option.isSome_iff_exists.mp (hall _ (List.getElem_mem hjs))
  have hslot : g.slots[j]? = some (some (x, out)) := by
    rw [List.getElem?_eq_getElem hjs, hxo]
  obtain ⟨hx, hret, t, ht, hres⟩ := h.slot j x out hslot
  rw [hitems, List.getElem?_eq_getElem hj, Option.some.injEq] at hx
  exact ⟨out, t, by rw [hslot, hx], hret, ht, hres⟩

end Gather

theorem fanOut_pure {α : Type} (items : List α) (f : α → Except Fault Json) :
    Id.run (fanOut items fun x => pure (f x)) = items.map fun x => (x, f x) := by
  simp only [fanOut, pure_bind, List.mapM_pure]
  rfl

open Gather in
/-- A fan-out over a bounded pool, from any reachable state and through any run of
submissions, pool events and takes, fills each place with its own item and the outcome of
its call; once every future is taken the places are what `fanOut` gives. -/
theorem fanOut_gathers_in_order {α : Type} (C : Nat) (before : List Event) (items : List α)
    (moves : List Move) :
    let g := (start ((Flight.idle C).run before).1 items).run moves
    (∀ (j : Nat) x out, g.slots[j]? = some (some (x, out)) →
      items[j]? = some x ∧ g.returned[j]? = some (some out)) ∧
    (g.received = items.length →
      g.slots.length = items.length ∧
      (∀ (j : Nat) (hj : j < items.length), ∃ out t, g.slots[j]? = some (some (items[j], out)) ∧
        g.returned[j]? = some (some out) ∧ g.tickets[j]? = some t ∧
        g.flight.result? t = some out) ∧
      ∀ f : α → Except Fault Json,
        (∀ (j : Nat) (hj : j < items.length), g.returned[j]? = some (some (f items[j]))) →
        g.slots = (Id.run (fanOut items fun x => pure (f x))).map some) := by
  intro g
  have hs := ((Flight.balanced_idle C).run before).1
  have h : g.Sound := (sound_start hs items).run moves
  have hitems : g.items = items := run_items _ moves
  refine ⟨fun j x out hslot => ?_, fun hdone => ?_⟩
  · obtain ⟨hx, hret, -⟩ := h.slot j x out hslot
    exact ⟨hitems ▸ hx, hret⟩
  · have hlen : g.slots.length = items.length := hitems ▸ h.slots_length
    have hplace := h.filled hitems hdone
    refine ⟨hlen, hplace, fun f hf => ?_⟩
    rw [fanOut_pure]
    apply List.ext_getElem?
    intro j
    by_cases hj : j < items.length
    · obtain ⟨out, t, hslot, hret, -, -⟩ := hplace j hj
      rw [hf j hj, Option.some.injEq, Option.some.injEq] at hret
      rw [hslot, List.getElem?_map, List.getElem?_map, List.getElem?_eq_getElem hj, ← hret]
      rfl
    · rw [List.getElem?_eq_none (by omega), List.getElem?_eq_none (by simp; omega)]

/-- On a pool of one slot the first item goes to the workers and the second runs on the
submitting side; the loop takes the second first, yet each outcome lands at its own place. -/
example : ((Gather.start (Flight.idle 1) ["a", "b"]).run [.submit (.ok .null),
    .submit (.ok (.str "B")), .take 1, .pool (.finish 0 (.ok (.str "A"))), .pool (.complete 0),
    .take 0]).slots = [some ("a", .ok (.str "A")), some ("b", .ok (.str "B"))] := by
  rfl

end Pool

end RankAdvisor
