import RankAdvisor.Proofs.TokenCallers

/-! # One issue at a time

What every run of the callers of the shared token keeps, whatever the order of their steps,
the issuer's answers, the clock and calls of `invalidate` (`Desk.Sound`): the round in flight
has exactly one holder, every round is published once by its leader and read only after,
and the count plus the tokens not yet counted is what the issuer gave. Hence at most one
caller is ever inside the issuer, the callers of one round all get its outcome, and no
increment of the count is lost although the count is written outside the lock.

When the lease outlasts every clock reading of a run, the issuer always gives a token and
nobody calls `invalidate`, callers that start with no live token make one issuer call and
all get its token (`Desk.Burst`). A call of `invalidate` after the token is kept lets a
caller that started before it open a second round.
-/

namespace RankAdvisor

namespace TokenCache

set_option autoImplicit false

namespace Phase

/-- The round a caller holds, from opening it until it closes it under the lock. -/
def holder : Phase → Option Nat
  | .leading k | .calling k | .counting k _ | .counted k _ _ | .stamping k _ | .storing k _
  | .failing k _ => some k
  | _ => none

/-- The round a caller leads, until it has published its outcome. -/
def leads : Phase → Option Nat
  | .publishing k _ => some k
  | p => p.holder

def holds (p : Phase) : Bool := p.holder.isSome

def leadsRound (k : Nat) (p : Phase) : Bool := p.leads == some k

/-- Whether a caller has opened a round and not yet called the issuer. -/
def isLeading : Phase → Bool
  | .leading _ => true
  | _ => false

def isCalling : Phase → Bool
  | .calling _ => true
  | _ => false

/-- Whether a caller holds a token whose count it has not yet written back. -/
def uncounted : Phase → Bool
  | .counting .. | .counted .. => true
  | _ => false

theorem leads_of_holder {p : Phase} {k : Nat} (h : p.holder = some k) : p.leads = some k := by
  cases p <;> simp_all [holder, leads]

theorem holds_of_isCalling {p : Phase} (h : p.isCalling) : p.holds := by
  cases p <;> simp_all [isCalling, holds, holder]

theorem holds_of_uncounted {p : Phase} (h : p.uncounted) : p.holds := by
  cases p <;> simp_all [uncounted, holds, holder]

end Phase

/-- Whether an answer of the issuer is a token that is not empty. -/
def gained : Except Fault Json → Bool
  | .ok v => !v.isEmptyish
  | .error _ => false

namespace Desk

/-- Round `k` is in flight and not yet published. -/
def Holds (s : Desk) (k : Nat) : Prop := s.inflight = some k ∧ s.rounds[k]? = some none

/-- What a caller's phase says about the rest of the desk. -/
def Fits (s : Desk) : Phase → Prop
  | .leading k | .calling k | .counting k _ | .stamping k _ | .storing k _ | .failing k _ =>
    s.Holds k
  | .counted k _ seen => s.Holds k ∧ seen = s.cache.issued
  | .publishing k _ => s.rounds[k]? = some none
  | .following k => k < s.rounds.length
  | .done r (some k) => s.rounds[k]? = some (some r)
  | .start | .peeked _ | .queued | .done _ none => True

/-- What every run from idle callers keeps, over a cache that had issued `base` tokens. -/
structure Sound (base : Nat) (s : Desk) : Prop where
  fits : ∀ p ∈ s.callers, s.Fits p
  holders : s.callers.countP Phase.holds = s.inflight.isSome.toNat
  leaders : ∀ k, s.callers.countP (Phase.leadsRound k) ≤ 1
  issued : s.cache.issued + s.callers.countP Phase.uncounted = base + s.answers.countP gained
  opened : s.calls + s.callers.countP Phase.isLeading = s.rounds.length
  called : s.answers.length + s.callers.countP Phase.isCalling = s.calls

/-! ## Reading the invariant -/

theorem index_unique {l : List Phase} {f : Phase → Bool} (hc : l.countP f ≤ 1) :
    ∀ {i j : Nat} {a b : Phase}, l[i]? = some a → l[j]? = some b → f a → f b → i = j := by
  induction l with
  | nil => simp
  | cons x l ih =>
    intro i j a b hi hj ha hb
    cases i with
    | zero =>
      cases j with
      | zero => rfl
      | succ j =>
        simp only [List.getElem?_cons_zero, Option.some.injEq, List.getElem?_cons_succ] at hi hj
        subst hi
        have hpos : 0 < l.countP f := List.countP_pos_iff.2 ⟨b, List.mem_of_getElem? hj, hb⟩
        simp only [List.countP_cons, ha, if_true] at hc
        omega
    | succ i =>
      cases j with
      | zero =>
        simp only [List.getElem?_cons_zero, Option.some.injEq, List.getElem?_cons_succ] at hi hj
        subst hj
        have hpos : 0 < l.countP f := List.countP_pos_iff.2 ⟨a, List.mem_of_getElem? hi, ha⟩
        simp only [List.countP_cons, hb, if_true] at hc
        omega
      | succ j =>
        simp only [List.getElem?_cons_succ] at hi hj
        have hl : l.countP f ≤ 1 := by
          have := List.countP_cons (p := f) (a := x) (l := l)
          split at this <;> omega
        rw [ih hl hi hj ha hb]

theorem mem_put {s : Desk} {i : Nat} {p q x : Phase} (hp : s.callers[i]? = some p)
    (hx : x ∈ (s.put i q).callers) : x = q ∨ ∃ j, j ≠ i ∧ s.callers[j]? = some x := by
  obtain ⟨j, hj⟩ := List.mem_iff_getElem?.1 hx
  rw [getElem?_put hp] at hj
  by_cases hij : i = j
  · rw [if_pos hij] at hj
    exact .inl (Option.some.inj hj).symm
  · rw [if_neg hij] at hj
    exact .inr ⟨j, Ne.symm hij, hj⟩

theorem Sound.fits_at {base : Nat} {s : Desk} (hs : Sound base s) {i : Nat} {p : Phase}
    (hp : s.callers[i]? = some p) : s.Fits p :=
  hs.fits p (List.mem_of_getElem? hp)

theorem fits_holder {s : Desk} {x : Phase} {k : Nat} (hx : s.Fits x) (hk : x.holder = some k) :
    s.Holds k := by
  cases x <;> simp only [Phase.holder] at hk <;> cases hk
  all_goals first | exact hx | exact hx.1

theorem fits_leads {s : Desk} {x : Phase} {k : Nat} (hx : s.Fits x) (hk : x.leads = some k) :
    s.rounds[k]? = some none := by
  cases x with
  | publishing k' r =>
    cases hk
    exact hx
  | _ => exact (fits_holder hx hk).2

theorem Sound.inflight_lt {base : Nat} {s : Desk} (hs : Sound base s) {k : Nat}
    (hk : s.inflight = some k) : k < s.rounds.length := by
  have hpos : 0 < s.callers.countP Phase.holds := by
    simp [hs.holders, hk]
  obtain ⟨x, hx, hh⟩ := List.countP_pos_iff.1 hpos
  obtain ⟨k', hk'⟩ := Option.isSome_iff_exists.1 hh
  obtain ⟨hin, hround⟩ := fits_holder (hs.fits x hx) hk'
  rw [hk, Option.some.injEq] at hin
  subst hin
  exact (List.getElem?_eq_some_iff.1 hround).1

theorem Sound.leads_lt {base : Nat} {s : Desk} (hs : Sound base s) {x : Phase}
    (hx : x ∈ s.callers) {k : Nat} (hk : x.leads = some k) : k < s.rounds.length :=
  (List.getElem?_eq_some_iff.1 (fits_leads (hs.fits x hx) hk)).1

/-! ## Frames -/

theorem fits_congr {s s' : Desk} (hi : s'.inflight = s.inflight) (hr : s'.rounds = s.rounds)
    (hc : s'.cache.issued = s.cache.issued) (x : Phase) : s'.Fits x ↔ s.Fits x := by
  cases x with
  | done r k => cases k <;> simp [Fits, hr]
  | _ => simp [Fits, Holds, hi, hr, hc]

theorem fits_free {s s' : Desk} {x : Phase} (hx : x.holder = none) (hr : s'.rounds = s.rounds) :
    s'.Fits x ↔ s.Fits x := by
  cases x with
  | done r k => cases k <;> simp [Fits, hr]
  | _ => simp_all [Fits, Phase.holder]

theorem fits_grow {s s' : Desk} {x : Phase} (hx : s.Fits x) (hfree : x.holder = none)
    (hr : s'.rounds = s.rounds ++ [none]) : s'.Fits x := by
  have keep : ∀ {k : Nat} {o : Option (Except Fault Json)}, s.rounds[k]? = some o →
      s'.rounds[k]? = some o := by
    intro k o h
    rw [hr, List.getElem?_append_left (List.getElem?_eq_some_iff.1 h).1]
    exact h
  cases x with
  | publishing k r => exact keep hx
  | following k =>
    simp only [Fits, hr, List.length_append, List.length_singleton] at hx ⊢
    omega
  | done r k =>
    cases k with
    | none => trivial
    | some k => exact keep hx
  | start | peeked _ | queued => trivial
  | _ => simp [Phase.holder] at hfree

theorem fits_publish {s s' : Desk} {x : Phase} {k : Nat} {r : Except Fault Json}
    (hx : s.Fits x) (hlead : x.leads ≠ some k) (hopen : s.rounds[k]? = some none)
    (hi : s'.inflight = s.inflight) (hr : s'.rounds = s.rounds.set k (some r))
    (hc : s'.cache.issued = s.cache.issued) : s'.Fits x := by
  have keep : ∀ {k' : Nat}, k' ≠ k → s'.rounds[k']? = s.rounds[k']? := by
    intro k' hne
    rw [hr, List.getElem?_set_ne (Ne.symm hne)]
  cases x with
  | done r' k' =>
    cases k' with
    | none => trivial
    | some k' =>
      -- a caller done in round `k` would have read it published
      have hne : k' ≠ k := by
        rintro rfl
        simp [Fits, hopen] at hx
      simp only [Fits, keep hne]
      exact hx
  | following k' =>
    simp only [Fits, hr, List.length_set]
    exact hx
  | publishing k' r' =>
    have hne : k' ≠ k := fun h => hlead (by simp [Phase.leads, h])
    simp only [Fits, keep hne]
    exact hx
  | start | peeked _ | queued => trivial
  | _ =>
    simp only [Phase.leads, Phase.holder, ne_eq, Option.some.injEq] at hlead
    simp only [Fits, Holds, hi, hc, keep hlead]
    exact hx

/-! ## One step -/

section Steps

variable {base : Nat} {s : Desk} {i : Nat}

theorem Sound.put {p q : Phase} (hs : Sound base s) (hp : s.callers[i]? = some p)
    (hq : s.Fits q) (hh : p.holds = q.holds) (hl : p.leads = q.leads)
    (hu : p.uncounted = q.uncounted) (ho : p.isLeading = q.isLeading)
    (hc : p.isCalling = q.isCalling) : Sound base (s.put i q) where
  fits x hx := by
    have hframe : ∀ x, (s.put i q).Fits x ↔ s.Fits x := fits_congr rfl rfl rfl
    rcases mem_put hp hx with rfl | ⟨j, -, hj⟩
    · exact (hframe x).2 hq
    · exact (hframe x).2 (hs.fits_at hj)
  holders := by
    have h := countP_put (q := q) hp Phase.holds
    rw [hh] at h
    rw [put_inflight, ← hs.holders]
    omega
  leaders k := by
    have h := countP_put (q := q) hp (Phase.leadsRound k)
    have e : Phase.leadsRound k p = Phase.leadsRound k q := by simp only [Phase.leadsRound, hl]
    rw [e] at h
    have := hs.leaders k
    omega
  issued := by
    have h := countP_put (q := q) hp Phase.uncounted
    rw [hu] at h
    have := hs.issued
    rw [put_cache, put_answers]
    omega
  opened := by
    have h := countP_put (q := q) hp Phase.isLeading
    rw [ho] at h
    have := hs.opened
    rw [put_calls, put_rounds]
    omega
  called := by
    have h := countP_put (q := q) hp Phase.isCalling
    rw [hc] at h
    have := hs.called
    rw [put_calls, put_answers]
    omega

theorem Sound.open_round (hs : Sound base s) (hp : s.callers[i]? = some .queued)
    (hnone : s.inflight = none) :
    Sound base { s.put i (.leading s.rounds.length) with
      inflight := some s.rounds.length, rounds := s.rounds ++ [none] } where
  fits x hx := by
    rcases mem_put hp hx with rfl | ⟨j, -, hj⟩
    · exact ⟨rfl, List.getElem?_concat_length⟩
    · have hfit := hs.fits_at hj
      -- with no round in flight nobody holds one
      have hfree : x.holder = none := by
        cases hh : x.holder with
        | none => rfl
        | some k =>
          have := (fits_holder hfit hh).1
          simp [hnone] at this
      exact fits_grow hfit hfree rfl
  holders := by
    have h := countP_move (q := .leading s.rounds.length) hp Phase.holds (a := 0) (b := 1) rfl rfl
    have h0 := hs.holders
    rw [hnone] at h0
    simp only [Option.isSome_some, Bool.toNat_true]
    simp only [Option.isSome_none, Bool.toNat_false] at h0
    omega
  leaders k := by
    by_cases hk : k = s.rounds.length
    · subst hk
      have h := countP_move (q := .leading s.rounds.length) hp (Phase.leadsRound s.rounds.length)
        (a := 0) (b := 1) rfl (by simp [Phase.leadsRound, Phase.leads, Phase.holder])
      -- the new round number is fresh: nobody led it before
      have h0 : s.callers.countP (Phase.leadsRound s.rounds.length) = 0 := by
        refine List.countP_eq_zero.2 fun x hx hlead => ?_
        have := hs.leads_lt hx (by simpa [Phase.leadsRound] using hlead)
        omega
      simp only
      omega
    · have h := countP_move (q := .leading s.rounds.length) hp (Phase.leadsRound k)
        (a := 0) (b := 0) rfl (by simp [Phase.leadsRound, Phase.leads, Phase.holder, Ne.symm hk])
      have := hs.leaders k
      simp only
      omega
  issued := by
    have h := countP_move (q := .leading s.rounds.length) hp Phase.uncounted (a := 0) (b := 0)
      rfl rfl
    have := hs.issued
    simp only [put_cache, put_answers]
    omega
  opened := by
    have h := countP_move (q := .leading s.rounds.length) hp Phase.isLeading (a := 0) (b := 1)
      rfl rfl
    have := hs.opened
    simp only [put_calls, List.length_append, List.length_singleton]
    omega
  called := by
    have h := countP_move (q := .leading s.rounds.length) hp Phase.isCalling (a := 0) (b := 0)
      rfl rfl
    have := hs.called
    simp only [put_calls, put_answers]
    omega

theorem Sound.holders_le (hs : Sound base s) : s.callers.countP Phase.holds ≤ 1 := by
  rw [hs.holders]
  exact Bool.toNat_le _

theorem Sound.lone_holder {p x : Phase} {j : Nat} (hs : Sound base s)
    (hp : s.callers[i]? = some p) (hph : p.holds) (hj : s.callers[j]? = some x) (hne : j ≠ i) :
    x.holder = none := by
  cases hx : x.holder with
  | none => rfl
  | some k =>
    have hxh : x.holds := by simp [Phase.holds, hx]
    exact absurd (index_unique hs.holders_le hj hp hxh hph) hne

theorem Sound.call {k : Nat} (hs : Sound base s) (hp : s.callers[i]? = some (.leading k)) :
    Sound base { s.put i (.calling k) with calls := s.calls + 1 } where
  fits x hx := by
    have hframe : ∀ x, ({ s.put i (.calling k) with calls := s.calls + 1 } : Desk).Fits x ↔
        s.Fits x := fits_congr rfl rfl rfl
    rcases mem_put hp hx with rfl | ⟨j, -, hj⟩
    · have hfit : s.Fits (.leading k) := hs.fits_at hp
      exact (hframe _).2 hfit
    · exact (hframe x).2 (hs.fits_at hj)
  holders := by
    have h := countP_move (q := .calling k) hp Phase.holds (a := 1) (b := 1) rfl rfl
    have := hs.holders
    simp only [put_inflight]
    omega
  leaders k' := by
    have h := countP_put (q := .calling k) hp (Phase.leadsRound k')
    have e : Phase.leadsRound k' (.leading k) = Phase.leadsRound k' (.calling k) := rfl
    rw [e] at h
    have := hs.leaders k'
    simp only
    omega
  issued := by
    have h := countP_move (q := .calling k) hp Phase.uncounted (a := 0) (b := 0) rfl rfl
    have := hs.issued
    simp only [put_cache, put_answers]
    omega
  opened := by
    have h := countP_move (q := .calling k) hp Phase.isLeading (a := 1) (b := 0) rfl rfl
    have := hs.opened
    simp only [put_rounds]
    omega
  called := by
    have h := countP_move (q := .calling k) hp Phase.isCalling (a := 0) (b := 1) rfl rfl
    have := hs.called
    simp only [put_answers]
    omega

theorem Sound.write {k seen : Nat} {v : Json} (hs : Sound base s)
    (hp : s.callers[i]? = some (.counted k v seen)) :
    Sound base { s.put i (.stamping k v) with cache := { s.cache with issued := seen + 1 } } where
  fits x hx := by
    rcases mem_put hp hx with rfl | ⟨j, hne, hj⟩
    · exact (hs.fits_at hp).1
    · exact (fits_free (hs.lone_holder hp rfl hj hne) (by rfl)).2 (hs.fits_at hj)
  holders := by
    have h := countP_move (q := .stamping k v) hp Phase.holds (a := 1) (b := 1) rfl rfl
    have := hs.holders
    simp only [put_inflight]
    omega
  leaders k' := by
    have h := countP_put (q := .stamping k v) hp (Phase.leadsRound k')
    have e : Phase.leadsRound k' (.counted k v seen) = Phase.leadsRound k' (.stamping k v) := rfl
    rw [e] at h
    have := hs.leaders k'
    simp only
    omega
  issued := by
    have h := countP_move (q := .stamping k v) hp Phase.uncounted (a := 1) (b := 0) rfl rfl
    have hseen := (hs.fits_at hp).2
    have := hs.issued
    simp only [put_answers]
    omega
  opened := by
    have h := countP_move (q := .stamping k v) hp Phase.isLeading (a := 0) (b := 0) rfl rfl
    have := hs.opened
    simp only [put_calls, put_rounds]
    omega
  called := by
    have h := countP_move (q := .stamping k v) hp Phase.isCalling (a := 0) (b := 0) rfl rfl
    have := hs.called
    simp only [put_calls, put_answers]
    omega

theorem Sound.close {p : Phase} {k : Nat} {r : Except Fault Json} {c : TokenCache}
    (hs : Sound base s) (hp : s.callers[i]? = some p) (hk : p.holder = some k)
    (hu : p.uncounted = false) (hl : p.isLeading = false) (hc : p.isCalling = false)
    (hissued : c.issued = s.cache.issued) :
    Sound base { s.put i (.publishing k r) with cache := c, inflight := none } where
  fits x hx := by
    have hph : p.holds := by simp [Phase.holds, hk]
    rcases mem_put hp hx with rfl | ⟨j, hne, hj⟩
    · exact (fits_holder (hs.fits_at hp) hk).2
    · exact (fits_free (hs.lone_holder hp hph hj hne) (by rfl)).2 (hs.fits_at hj)
  holders := by
    have h := countP_move (q := .publishing k r) hp Phase.holds (a := 1) (b := 0)
      (by simp [Phase.holds, hk]) rfl
    have h0 := hs.holders
    rw [(fits_holder (hs.fits_at hp) hk).1] at h0
    simp only [Option.isSome_some, Bool.toNat_true] at h0
    simp only [Option.isSome_none, Bool.toNat_false]
    omega
  leaders k' := by
    have h := countP_put (q := .publishing k r) hp (Phase.leadsRound k')
    have e : Phase.leadsRound k' p = Phase.leadsRound k' (.publishing k r) := by
      unfold Phase.leadsRound
      rw [Phase.leads_of_holder hk]
      rfl
    rw [e] at h
    have := hs.leaders k'
    simp only
    omega
  issued := by
    have h := countP_move (q := .publishing k r) hp Phase.uncounted (a := 0) (b := 0)
      (by simp [hu]) rfl
    have := hs.issued
    simp only [put_answers, hissued]
    omega
  opened := by
    have h := countP_move (q := .publishing k r) hp Phase.isLeading (a := 0) (b := 0)
      (by simp [hl]) rfl
    have := hs.opened
    simp only [put_calls, put_rounds]
    omega
  called := by
    have h := countP_move (q := .publishing k r) hp Phase.isCalling (a := 0) (b := 0)
      (by simp [hc]) rfl
    have := hs.called
    simp only [put_calls, put_answers]
    omega

theorem Sound.publish {k : Nat} {r : Except Fault Json} (hs : Sound base s)
    (hp : s.callers[i]? = some (.publishing k r)) :
    Sound base { s.put i (.done r (some k)) with rounds := s.rounds.set k (some r) } where
  fits x hx := by
    have hopen : s.rounds[k]? = some none := hs.fits_at hp
    rcases mem_put hp hx with rfl | ⟨j, hne, hj⟩
    · exact List.getElem?_set_self (List.getElem?_eq_some_iff.1 hopen).1
    · -- nobody else leads round `k`
      have hlead : x.leads ≠ some k := by
        intro hxk
        have hx' : Phase.leadsRound k x := by simp [Phase.leadsRound, hxk]
        exact hne (index_unique (hs.leaders k) hj hp hx' (by simp [Phase.leadsRound, Phase.leads]))
      exact fits_publish (hs.fits_at hj) hlead hopen rfl rfl rfl
  holders := by
    have h := countP_move (q := .done r (some k)) hp Phase.holds (a := 0) (b := 0) rfl rfl
    have := hs.holders
    simp only [put_inflight]
    omega
  leaders k' := by
    have h := countP_move (q := .done r (some k)) hp (Phase.leadsRound k') (a := _) (b := 0)
      rfl rfl
    have := hs.leaders k'
    simp only
    omega
  issued := by
    have h := countP_move (q := .done r (some k)) hp Phase.uncounted (a := 0) (b := 0) rfl rfl
    have := hs.issued
    simp only [put_cache, put_answers]
    omega
  opened := by
    have h := countP_move (q := .done r (some k)) hp Phase.isLeading (a := 0) (b := 0) rfl rfl
    have := hs.opened
    simp only [put_calls, List.length_set]
    omega
  called := by
    have h := countP_move (q := .done r (some k)) hp Phase.isCalling (a := 0) (b := 0) rfl rfl
    have := hs.called
    simp only [put_calls, put_answers]
    omega

theorem received_holder (k : Nat) (a : Except Fault Json) : (received k a).holder = some k := by
  unfold received
  split
  · rfl
  · split <;> rfl

theorem received_uncounted (k : Nat) (a : Except Fault Json) :
    (received k a).uncounted = gained a := by
  unfold received gained
  split
  · rfl
  · split <;> simp_all [Phase.uncounted]

theorem received_past_call (k : Nat) (a : Except Fault Json) :
    (received k a).isLeading = false ∧ (received k a).isCalling = false := by
  unfold received
  split
  · exact ⟨rfl, rfl⟩
  · split <;> exact ⟨rfl, rfl⟩

theorem Sound.answer {k : Nat} {a : Except Fault Json} (hs : Sound base s)
    (hp : s.callers[i]? = some (.calling k)) :
    Sound base { s.put i (received k a) with answers := s.answers ++ [a] } where
  fits x hx := by
    have hframe :
        ∀ x, ({ s.put i (received k a) with answers := s.answers ++ [a] } : Desk).Fits x ↔
        s.Fits x := fits_congr rfl rfl rfl
    rcases mem_put hp hx with rfl | ⟨j, -, hj⟩
    · have hfit : s.Holds k := hs.fits_at hp
      refine (hframe _).2 ?_
      unfold received
      split
      · exact hfit
      · split
        · exact hfit
        · exact hfit
    · exact (hframe x).2 (hs.fits_at hj)
  holders := by
    have h := countP_move (q := received k a) hp Phase.holds (a := 1) (b := 1) rfl
      (by simp [Phase.holds, received_holder])
    have := hs.holders
    simp only [put_inflight]
    omega
  leaders k' := by
    have h := countP_put (q := received k a) hp (Phase.leadsRound k')
    have e : Phase.leadsRound k' (.calling k) = Phase.leadsRound k' (received k a) := by
      unfold Phase.leadsRound
      rw [Phase.leads_of_holder (received_holder k a)]
      rfl
    rw [e] at h
    have := hs.leaders k'
    simp only
    omega
  issued := by
    have h := countP_put (q := received k a) hp Phase.uncounted
    rw [received_uncounted] at h
    have := hs.issued
    simp only [put_cache, List.countP_append, List.countP_singleton]
    have hz : (if Phase.uncounted (.calling k) = true then 1 else 0) = 0 := rfl
    rw [hz] at h
    omega
  opened := by
    have h := countP_move (q := received k a) hp Phase.isLeading (a := 0) (b := 0) rfl
      (by simp [(received_past_call k a).1])
    have := hs.opened
    simp only [put_calls, put_rounds]
    omega
  called := by
    have h := countP_move (q := received k a) hp Phase.isCalling (a := 1) (b := 0) rfl
      (by simp [(received_past_call k a).2])
    have := hs.called
    simp only [put_calls, List.length_append, List.length_singleton]
    omega

theorem Sound.tick (hs : Sound base s) (t : Number) : Sound base { s with now := t } :=
  ⟨fun x hx => (fits_congr rfl rfl rfl x).2 (hs.fits x hx), hs.holders, hs.leaders, hs.issued,
    hs.opened, hs.called⟩

theorem Sound.drop (hs : Sound base s) : Sound base { s with cache := s.cache.invalidate } :=
  ⟨fun x hx => (fits_congr rfl rfl rfl x).2 (hs.fits x hx), hs.holders, hs.leaders, hs.issued,
    hs.opened, hs.called⟩

theorem Sound.move {p : Phase} {s' : Desk} (hs : Sound base s) (hp : s.callers[i]? = some p)
    (h : s.move i p = some s') : Sound base s' := by
  cases p with
  | start =>
    cases h
    exact hs.put hp trivial rfl rfl rfl rfl rfl
  | peeked token =>
    simp only [Desk.move] at h
    split at h <;> cases h <;> exact hs.put hp trivial rfl rfl rfl rfl rfl
  | queued =>
    simp only [Desk.move] at h
    split at h
    · cases h
      exact hs.put hp trivial rfl rfl rfl rfl rfl
    · split at h
      · rename_i k hk
        cases h
        exact hs.put hp (hs.inflight_lt hk) rfl rfl rfl rfl rfl
      · rename_i hnone
        cases h
        exact hs.open_round hp hnone
  | leading k =>
    cases h
    exact hs.call hp
  | calling k => cases h
  | counting k v =>
    cases h
    exact hs.put hp ⟨hs.fits_at hp, rfl⟩ rfl rfl rfl rfl rfl
  | counted k v seen =>
    cases h
    exact hs.write hp
  | stamping k v =>
    have hfit : s.Holds k := hs.fits_at hp
    simp only [Desk.move] at h
    split at h <;> cases h <;> exact hs.put hp hfit rfl rfl rfl rfl rfl
  | storing k t =>
    cases h
    exact hs.close hp rfl rfl rfl rfl rfl
  | failing k f =>
    cases h
    exact hs.close hp rfl rfl rfl rfl rfl
  | publishing k r =>
    cases h
    exact hs.publish hp
  | following k =>
    simp only [Desk.move] at h
    split at h
    · rename_i r hr
      cases h
      exact hs.put hp hr rfl rfl rfl rfl rfl
    · cases h
  | done r k => cases h

/-- Every enabled step keeps the invariant. -/
theorem Sound.act {a : Act} {s' : Desk} (hs : Sound base s) (h : s.act a = some s') :
    Sound base s' := by
  cases a with
  | move i =>
    simp only [Desk.act] at h
    cases hp : s.callers[i]? with
    | none => simp [hp] at h
    | some p =>
      rw [hp, Option.bind_some] at h
      exact hs.move hp h
  | answer i a =>
    simp only [Desk.act] at h
    split at h
    · rename_i k hp
      cases h
      exact hs.answer hp
    · cases h
  | tick t =>
    cases h
    exact hs.tick t
  | drop =>
    cases h
    exact hs.drop

/-- The invariant along a whole run. -/
theorem Sound.run (hs : Sound base s) (acts : List Act) : Sound base (s.run acts) := by
  induction acts generalizing s with
  | nil => exact hs
  | cons a acts ih =>
    rw [run_cons]
    apply ih
    cases h : s.act a with
    | none => exact hs
    | some s' => exact hs.act h

end Steps

theorem sound_idle (c : TokenCache) (now : Number) (n : Nat) : Sound c.issued (idle c now n) where
  fits x hx := by
    rw [(List.mem_replicate.1 hx).2]
    trivial
  holders := by simp [idle, List.countP_replicate, Phase.holds, Phase.holder]
  leaders k := by simp [idle, List.countP_replicate, Phase.leadsRound, Phase.leads, Phase.holder]
  issued := by simp [idle, List.countP_replicate, Phase.uncounted]
  opened := by simp [idle, List.countP_replicate, Phase.isLeading]
  called := by simp [idle, List.countP_replicate, Phase.isCalling]

/-! ## What the invariant gives -/

section Reading

variable {base : Nat} {s : Desk}

theorem Sound.calling_le_one (hs : Sound base s) : s.callers.countP Phase.isCalling ≤ 1 :=
  Nat.le_trans (List.countP_mono_left fun _ _ hx => Phase.holds_of_isCalling hx) hs.holders_le

theorem Sound.uncounted_le_one (hs : Sound base s) : s.callers.countP Phase.uncounted ≤ 1 :=
  Nat.le_trans (List.countP_mono_left fun _ _ hx => Phase.holds_of_uncounted hx) hs.holders_le

/-- Callers done in one round got one outcome: the one its leader published. -/
theorem Sound.done_agree (hs : Sound base s) {i j k : Nat} {r r' : Except Fault Json}
    (hi : s.callers[i]? = some (.done r (some k))) (hj : s.callers[j]? = some (.done r' (some k))) :
    r = r' := by
  have h1 : s.rounds[k]? = some (some r) := hs.fits_at hi
  have h2 : s.rounds[k]? = some (some r') := hs.fits_at hj
  rw [h1] at h2
  exact Option.some.inj (Option.some.inj h2)

end Reading

/-! ## A burst of callers and one issue -/

/-- A token live at every clock reading of a run. -/
def Lasting (R : List Number) (t : AccessToken) : Prop := ∀ r ∈ R, t.isLive r = true

/-- The token the issuer gave, once it has answered. -/
def given (s : Desk) : Option Json :=
  match s.answers with
  | .ok w :: _ => some w
  | _ => none

/-- What a caller's phase says in a run with one issue round; `v` is the token the issuer
gave, once it has. -/
def Calm (c : TokenCache) (R : List Number) (v : Option Json) : Phase → Prop
  | .start | .queued | .leading _ | .calling _ | .following _ => True
  | .peeked token => token = c.token ∨ ∃ t, token = some t ∧ v = some t.value ∧ Lasting R t
  | .counting _ w | .counted _ w _ | .stamping _ w => v = some w
  | .storing _ t => v = some t.value ∧ Lasting R t
  | .failing _ _ => False
  | .publishing _ r | .done r _ => ∃ w, r = .ok w ∧ v = some w

/-- A run from idle callers over the cache `c`, at the clock readings `R`, in which one round
at most is opened, the issuer gives a token that lasts, and every caller that returned
returned it. -/
structure Burst (c : TokenCache) (R : List Number) (s : Desk) : Prop where
  now_mem : s.now ∈ R
  lease : s.cache.lease = c.lease
  once : s.rounds.length ≤ 1
  answers : s.answers = [] ∨ ∃ w, s.answers = [.ok w] ∧ w.isEmptyish = false
  calm : ∀ p ∈ s.callers, Calm c R s.given p
  token : s.cache.token = c.token ∨
    ∃ t, s.cache.token = some t ∧ s.given = some t.value ∧ Lasting R t
  rounds : ∀ o ∈ s.rounds, o = none ∨ ∃ w, o = some (.ok w) ∧ s.given = some w
  closed : s.inflight = none → s.rounds = [] ∨ ∃ t, s.cache.token = some t ∧ Lasting R t

/-- No token of the cache is live at a reading of the run. -/
def Stale (c : TokenCache) (R : List Number) : Prop := ∀ r ∈ R, c.live? r = none

/-- The lease outlasts the run: a token issued at any of its readings is still before its
lapse at every one of them. -/
def Outlasts (c : TokenCache) (R : List Number) : Prop :=
  ∀ r ∈ R, ∀ r' ∈ R, ∃ e, c.lapse r = .ok e ∧ r'.lt e = true

theorem Calm.of_none {c : TokenCache} {R : List Number} {v : Option Json} {x : Phase}
    (h : Calm c R none x) : Calm c R v x := by
  cases x with
  | peeked token =>
    rcases h with h | ⟨t, -, ht, -⟩
    · exact .inl h
    · cases ht
  | counting _ w | counted _ w _ | stamping _ w => cases h
  | storing _ t => cases h.1
  | failing _ _ => cases h
  | publishing _ r | done r _ =>
    obtain ⟨w, -, hw⟩ := h
    cases hw
  | _ => trivial

theorem live?_of_lasting {s : Desk} {R : List Number} {t : AccessToken}
    (ht : s.cache.token = some t) (hl : Lasting R t) (hnow : s.now ∈ R) :
    s.cache.live? s.now = some t.value := by
  simp [TokenCache.live?, ht, hl s.now hnow]

theorem Burst.token_of_none {c : TokenCache} {R : List Number} {s : Desk} (hb : Burst c R s)
    (hg : s.given = none) : s.cache.token = c.token := by
  rcases hb.token with h | ⟨t, -, ht, -⟩
  · exact h
  · rw [hg] at ht
    cases ht

theorem Burst.live? {c : TokenCache} {R : List Number} {s : Desk} (hb : Burst c R s)
    (hstale : Stale c R) {v : Json} (hv : s.cache.live? s.now = some v) : s.given = some v := by
  rcases hb.token with h | ⟨t, ht, hg, hl⟩
  · have hc : s.cache.live? s.now = c.live? s.now := by
      rw [← liveValue_token, ← liveValue_token, h]
    rw [hc, hstale s.now hb.now_mem] at hv
    cases hv
  · rw [live?_of_lasting ht hl hb.now_mem] at hv
    rw [hg, hv]

section BurstSteps

variable {c : TokenCache} {R : List Number} {s : Desk} {i : Nat}

theorem Burst.frame {p q : Phase} {s' : Desk} (hb : Burst c R s) (hp : s.callers[i]? = some p)
    (hq : Calm c R s.given q) (hc : s'.callers = (s.put i q).callers) (hnow : s'.now = s.now)
    (hcache : s'.cache.lease = s.cache.lease ∧ s'.cache.token = s.cache.token)
    (hrounds : s'.rounds = s.rounds) (hans : s'.answers = s.answers)
    (hin : s'.inflight = s.inflight) : Burst c R s' := by
  have hg : s'.given = s.given := by simp only [given, hans]
  refine ⟨?_, ?_, ?_, ?_, ?_, ?_, ?_, ?_⟩
  · rw [hnow]
    exact hb.now_mem
  · rw [hcache.1]
    exact hb.lease
  · rw [hrounds]
    exact hb.once
  · rw [hans]
    exact hb.answers
  · intro x hx
    rw [hc] at hx
    rw [hg]
    rcases mem_put hp hx with rfl | ⟨j, -, hj⟩
    · exact hq
    · exact hb.calm x (List.mem_of_getElem? hj)
  · rw [hcache.2, hg]
    exact hb.token
  · rw [hrounds, hg]
    exact hb.rounds
  · rw [hin, hrounds, hcache.2]
    exact hb.closed

theorem Burst.open_round (hb : Burst c R s) (hp : s.callers[i]? = some .queued)
    (hlive : s.cache.live? s.now = none) (hnone : s.inflight = none) :
    Burst c R { s.put i (.leading s.rounds.length) with
      inflight := some s.rounds.length, rounds := s.rounds ++ [none] } := by
  have hempty : s.rounds = [] := by
    rcases hb.closed hnone with h | ⟨t, ht, hl⟩
    · exact h
    · rw [live?_of_lasting ht hl hb.now_mem] at hlive
      cases hlive
  refine ⟨hb.now_mem, hb.lease, by simp [hempty], hb.answers, ?_, hb.token, ?_, ?_⟩
  · intro x hx
    rcases mem_put hp hx with rfl | ⟨j, -, hj⟩
    · trivial
    · exact hb.calm x (List.mem_of_getElem? hj)
  · intro o ho
    simp only [hempty, List.nil_append, List.mem_singleton] at ho
    exact .inl ho
  · intro h
    cases h

theorem Burst.store {k : Nat} {t : AccessToken} (hb : Burst c R s)
    (hp : s.callers[i]? = some (.storing k t)) :
    Burst c R { s.put i (.publishing k (.ok t.value)) with
      cache := { s.cache with token := some t }, inflight := none } := by
  obtain ⟨hg, hl⟩ : s.given = some t.value ∧ Lasting R t :=
    hb.calm _ (List.mem_of_getElem? hp)
  refine ⟨hb.now_mem, hb.lease, hb.once, hb.answers, ?_, .inr ⟨t, rfl, hg, hl⟩, hb.rounds,
    fun _ => .inr ⟨t, rfl, hl⟩⟩
  intro x hx
  rcases mem_put hp hx with rfl | ⟨j, -, hj⟩
  · exact ⟨t.value, rfl, hg⟩
  · exact hb.calm x (List.mem_of_getElem? hj)

theorem Burst.publish {k : Nat} {r : Except Fault Json} (hb : Burst c R s)
    (hp : s.callers[i]? = some (.publishing k r)) :
    Burst c R { s.put i (.done r (some k)) with rounds := s.rounds.set k (some r) } := by
  have hr : ∃ w, r = .ok w ∧ s.given = some w := hb.calm _ (List.mem_of_getElem? hp)
  refine ⟨hb.now_mem, hb.lease, by simpa using hb.once, hb.answers, ?_, hb.token, ?_, ?_⟩
  · intro x hx
    rcases mem_put hp hx with rfl | ⟨j, -, hj⟩
    · exact hr
    · exact hb.calm x (List.mem_of_getElem? hj)
  · intro o ho
    rcases List.mem_or_eq_of_mem_set ho with ho | rfl
    · exact hb.rounds o ho
    · obtain ⟨w, rfl, hw⟩ := hr
      exact .inr ⟨w, rfl, hw⟩
  · intro h
    rcases hb.closed h with h | h
    · left
      simp [h]
    · exact .inr h

theorem Burst.answer {base k : Nat} {w : Json} (hs : Sound base s) (hb : Burst c R s)
    (hp : s.callers[i]? = some (.calling k)) (hw : w.isEmptyish = false) :
    Burst c R { s.put i (received k (.ok w)) with answers := s.answers ++ [.ok w] } := by
  -- the caller inside the issuer makes the one call, which has not answered yet
  have hnil : s.answers = [] := by
    have hcall : 1 ≤ s.callers.countP Phase.isCalling :=
      List.countP_pos_iff.2 ⟨_, List.mem_of_getElem? hp, rfl⟩
    have := hs.called
    have := hs.opened
    have := hb.once
    exact List.eq_nil_of_length_eq_zero (by omega)
  have hg : s.given = none := by simp [given, hnil]
  have hg' : ({ s.put i (received k (.ok w)) with answers := s.answers ++ [.ok w] } : Desk).given =
      some w := by simp [given, hnil]
  refine ⟨hb.now_mem, hb.lease, hb.once, .inr ⟨w, by simp [hnil], hw⟩, ?_, ?_, ?_,
    hb.closed⟩
  · intro x hx
    rw [hg']
    rcases mem_put hp hx with rfl | ⟨j, -, hj⟩
    · simp [received, hw, Calm]
    · have := hb.calm x (List.mem_of_getElem? hj)
      rw [hg] at this
      exact this.of_none
  · exact .inl (hb.token_of_none hg)
  · intro o ho
    rcases hb.rounds o ho with h | ⟨_, _, hw'⟩
    · exact .inl h
    · rw [hg] at hw'
      cases hw'

theorem lapse_of_lease {c' : TokenCache} (h : c'.lease = c.lease) (now : Number) :
    c'.lapse now = c.lapse now := by
  simp [TokenCache.lapse, h]

theorem Burst.given_nonempty {w : Json} (hb : Burst c R s) (hg : s.given = some w) :
    w.isEmptyish = false := by
  rcases hb.answers with h | ⟨w', h, hw'⟩
  · simp [given, h] at hg
  · simp only [given, h, Option.some.injEq] at hg
    rw [← hg]
    exact hw'

theorem Burst.move {p : Phase} {s' : Desk} (hb : Burst c R s)
    (hstale : Stale c R) (hout : Outlasts c R) (hp : s.callers[i]? = some p)
    (h : s.move i p = some s') : Burst c R s' := by
  have hcalm : Calm c R s.given p := hb.calm p (List.mem_of_getElem? hp)
  cases p with
  | start =>
    cases h
    -- the token read is the cache's, which the burst already describes
    exact hb.frame (q := .peeked s.cache.token) hp hb.token rfl rfl ⟨rfl, rfl⟩ rfl rfl rfl
  | peeked token =>
    simp only [Desk.move] at h
    split at h
    · rename_i v hv
      cases h
      refine hb.frame (q := .done (.ok v) none) hp ?_ rfl rfl ⟨rfl, rfl⟩ rfl rfl rfl
      -- the token read without the lock is the old one, never live, or the given one
      rcases hcalm with rfl | ⟨t, rfl, hg, hl⟩
      · rw [liveValue_token, hstale s.now hb.now_mem] at hv
        cases hv
      · simp only [liveValue, hl s.now hb.now_mem, if_true, Option.some.injEq] at hv
        exact ⟨v, rfl, hv ▸ hg⟩
    · cases h
      exact hb.frame (q := .queued) hp trivial rfl rfl ⟨rfl, rfl⟩ rfl rfl rfl
  | queued =>
    simp only [Desk.move] at h
    split at h
    · rename_i v hv
      cases h
      exact hb.frame (q := .done (.ok v) none) hp ⟨v, rfl, hb.live? hstale hv⟩ rfl rfl
        ⟨rfl, rfl⟩ rfl rfl rfl
    · rename_i hlive
      split at h
      · rename_i k hk
        cases h
        exact hb.frame (q := .following k) hp trivial rfl rfl ⟨rfl, rfl⟩ rfl rfl rfl
      · rename_i hnone
        cases h
        exact hb.open_round hp hlive hnone
  | leading k =>
    cases h
    exact hb.frame (q := .calling k) hp trivial rfl rfl ⟨rfl, rfl⟩ rfl rfl rfl
  | calling k => cases h
  | counting k w =>
    cases h
    exact hb.frame (q := .counted k w s.cache.issued) hp hcalm rfl rfl ⟨rfl, rfl⟩ rfl rfl rfl
  | counted k w seen =>
    cases h
    exact hb.frame (q := .stamping k w) hp hcalm rfl rfl ⟨rfl, rfl⟩ rfl rfl rfl
  | stamping k w =>
    -- the lease outlasts the run, so the lapse is found and the token lasts
    obtain ⟨e, he, -⟩ := hout s.now hb.now_mem s.now hb.now_mem
    have hlapse : s.cache.lapse s.now = .ok e := by rw [lapse_of_lease hb.lease, he]
    simp only [Desk.move, hlapse] at h
    cases h
    refine hb.frame (q := .storing k ⟨w, e⟩) hp ⟨hcalm, fun r hr => ?_⟩ rfl rfl ⟨rfl, rfl⟩
      rfl rfl rfl
    obtain ⟨e', he', hlt⟩ := hout s.now hb.now_mem r hr
    rw [he, Except.ok.injEq] at he'
    simp [AccessToken.isLive, hb.given_nonempty hcalm, he', hlt]
  | storing k t =>
    cases h
    exact hb.store hp
  | failing k f => exact hcalm.elim
  | publishing k r =>
    cases h
    exact hb.publish hp
  | following k =>
    simp only [Desk.move] at h
    split at h
    · rename_i r hr
      cases h
      refine hb.frame (q := .done r (some k)) hp ?_ rfl rfl ⟨rfl, rfl⟩ rfl rfl rfl
      rcases hb.rounds _ (List.mem_of_getElem? hr) with h | ⟨w, hw, hg⟩
      · cases h
      · cases hw
        exact ⟨w, rfl, hg⟩
    · cases h
  | done r k => cases h

theorem gained_iff {a : Except Fault Json} :
    gained a = true ↔ ∃ w, a = .ok w ∧ w.isEmptyish = false := by
  cases a with
  | error f => simp [gained]
  | ok w => simp [gained]

/-- What a run's step may do for the burst to hold: no call of `invalidate`, a token from the
issuer, and a clock reading among the run's. -/
def Allowed (R : List Number) (a : Act) : Prop :=
  a ≠ .drop ∧ (∀ j x, a = .answer j x → gained x = true) ∧
    (∀ t, a = .tick t → t ∈ R)

theorem Burst.act {base : Nat} {a : Act} {s' : Desk} (hs : Sound base s) (hb : Burst c R s)
    (hstale : Stale c R) (hout : Outlasts c R) (ha : Allowed R a) (h : s.act a = some s') :
    Burst c R s' := by
  cases a with
  | move i =>
    simp only [Desk.act] at h
    cases hp : s.callers[i]? with
    | none => simp [hp] at h
    | some p =>
      rw [hp, Option.bind_some] at h
      exact hb.move hstale hout hp h
  | answer i x =>
    simp only [Desk.act] at h
    split at h
    · rename_i k hp
      cases h
      obtain ⟨w, rfl, hw⟩ := gained_iff.1 (ha.2.1 i x rfl)
      exact hb.answer hs hp hw
    · cases h
  | tick t =>
    cases h
    exact ⟨ha.2.2 t rfl, hb.lease, hb.once, hb.answers, hb.calm, hb.token, hb.rounds, hb.closed⟩
  | drop => exact absurd rfl ha.1

/-- The burst along a run of allowed steps. -/
theorem Burst.run {base : Nat} (hs : Sound base s) (hb : Burst c R s) (hstale : Stale c R)
    (hout : Outlasts c R) (acts : List Act) (hacts : ∀ a ∈ acts, Allowed R a) :
    Burst c R (s.run acts) := by
  induction acts generalizing s with
  | nil => exact hb
  | cons a acts ih =>
    rw [run_cons]
    have hrest : ∀ b ∈ acts, Allowed R b := fun b hb => hacts b (List.mem_cons_of_mem a hb)
    cases h : s.act a with
    | none => exact ih hs hb hrest
    | some s' => exact ih (hs.act h) (hb.act hs hstale hout (hacts a List.mem_cons_self) h) hrest

end BurstSteps

theorem burst_idle {c : TokenCache} {R : List Number} {now : Number} (hnow : now ∈ R) (n : Nat) :
    Burst c R (idle c now n) := by
  refine ⟨hnow, rfl, by simp [idle], .inl rfl, ?_, .inl rfl, by simp [idle], fun _ => .inl rfl⟩
  intro x hx
  rw [(List.mem_replicate.1 hx).2]
  trivial

/-- The clock readings of a run from `now`: the first, and each the clock is moved to. -/
def readings (now : Number) (acts : List Act) : List Number :=
  now :: acts.filterMap fun a =>
    match a with
    | .tick t => some t
    | _ => none

/-- With no live token at the start, a lease that outlasts the run, an issuer that gives a
token and no invalidation: at most one issuer call, whose token every caller returns. -/
theorem one_issue (c : TokenCache) (now : Number) (n : Nat) (acts : List Act)
    (hdrop : Act.drop ∉ acts) (hgain : ∀ j x, Act.answer j x ∈ acts → gained x = true)
    (hstale : Stale c (readings now acts)) (hout : Outlasts c (readings now acts)) :
    let s := (idle c now n).run acts
    s.calls ≤ 1 ∧
      (∃ v : Json, ∀ (i : Nat) (r : Except Fault Json) (k : Option Nat),
        s.callers[i]? = some (Phase.done r k) → r = .ok v) ∧
      ((∃ (i : Nat) (r : Except Fault Json) (k : Option Nat),
        s.callers[i]? = some (Phase.done r k)) → s.calls = 1) := by
  intro s
  have hallowed : ∀ a ∈ acts, Allowed (readings now acts) a := by
    intro a ha
    refine ⟨fun h => hdrop (h ▸ ha), fun j x h => hgain j x (h ▸ ha), fun t h => ?_⟩
    subst h
    exact List.mem_cons_of_mem _ (List.mem_filterMap.2 ⟨.tick t, ha, rfl⟩)
  have hs : Sound c.issued s := (sound_idle c now n).run acts
  have hb : Burst c (readings now acts) s :=
    (burst_idle List.mem_cons_self n).run (sound_idle c now n) hstale hout acts hallowed
  -- a caller that returned holds the given token
  have hdone : ∀ (i : Nat) (r : Except Fault Json) (k : Option Nat),
      s.callers[i]? = some (Phase.done r k) → ∃ w, r = .ok w ∧ s.given = some w :=
    fun i r k hi => hb.calm _ (List.mem_of_getElem? hi)
  have hcalls : s.calls ≤ 1 := by
    have := hs.opened
    have := hb.once
    omega
  refine ⟨hcalls, ⟨s.given.getD .null, fun i r k hi => ?_⟩, ?_⟩
  · obtain ⟨w, rfl, hw⟩ := hdone i r k hi
    simp [hw]
  · rintro ⟨i, r, k, hi⟩
    obtain ⟨w, -, hw⟩ := hdone i r k hi
    have hans : s.answers ≠ [] := by
      intro h
      simp [given, h] at hw
    have hlen : 0 < s.answers.length := List.length_pos_iff.2 hans
    have := hs.called
    omega

end Desk

open Desk

/-- Callers of the shared token in any interleaving: at most one is inside the issuer,
callers of one round agree, no increment of the count is lost, and with a lasting token the
callers make one issuer call. -/
theorem single_flight (c : TokenCache) (now : Number) (n : Nat) (acts : List Act) :
    let s := (idle c now n).run acts
    s.callers.countP Phase.isCalling ≤ 1 ∧
    (∀ (i j k : Nat) (r r' : Except Fault Json), s.callers[i]? = some (Phase.done r (some k)) →
      s.callers[j]? = some (Phase.done r' (some k)) → r = r') ∧
    (s.cache.issued + s.callers.countP Phase.uncounted = c.issued + s.answers.countP gained ∧
      s.callers.countP Phase.uncounted ≤ 1) ∧
    (Act.drop ∉ acts → (∀ j x, Act.answer j x ∈ acts → gained x = true) →
      Stale c (readings now acts) → Outlasts c (readings now acts) →
      s.calls ≤ 1 ∧
        (∃ v : Json, ∀ (i : Nat) (r : Except Fault Json) (k : Option Nat),
          s.callers[i]? = some (Phase.done r k) → r = .ok v) ∧
        ((∃ (i : Nat) (r : Except Fault Json) (k : Option Nat),
          s.callers[i]? = some (Phase.done r k)) → s.calls = 1)) := by
  intro s
  have hs : Sound c.issued s := (sound_idle c now n).run acts
  exact ⟨hs.calling_le_one, fun _ _ _ _ _ hi hj => hs.done_agree hi hj,
    ⟨hs.issued, hs.uncounted_le_one⟩, one_issue c now n acts⟩

/-- Two callers over an empty cache share one round: both find no token, the first opens a
round and the second joins it. -/
def sharedRound : List Act :=
  [.move 0, .move 1, .move 0, .move 1, .move 0, .move 1, .move 0, .answer 0 (.ok (.str "tok1")),
    .move 0, .move 0, .move 0, .move 0, .move 0, .move 1]

theorem single_flight_shared :
    Act.drop ∉ sharedRound ∧ (∀ j x, Act.answer j x ∈ sharedRound → gained x = true) ∧
      Stale (TokenCache.create (.int 10)) (readings (.whole 0) sharedRound) ∧
      Outlasts (TokenCache.create (.int 10)) (readings (.whole 0) sharedRound) ∧
      ((idle (TokenCache.create (.int 10)) (.whole 0) 2).run sharedRound).calls ≤ 1 := by
  have hdrop : Act.drop ∉ sharedRound := by simp [sharedRound]
  have hgain : ∀ j x, Act.answer j x ∈ sharedRound → gained x = true := by
    intro j x h
    simp only [sharedRound, List.mem_cons, List.not_mem_nil, reduceCtorEq, Act.answer.injEq,
      false_or, or_false] at h
    rw [h.2]
    rfl
  have hstale : Stale (TokenCache.create (.int 10)) (readings (.whole 0) sharedRound) := by
    intro r hr
    simp only [readings, sharedRound, List.filterMap_cons, List.filterMap_nil,
      List.mem_singleton] at hr
    subst hr
    rfl
  have hout : Outlasts (TokenCache.create (.int 10)) (readings (.whole 0) sharedRound) := by
    intro r hr r' hr'
    simp only [readings, sharedRound, List.filterMap_cons, List.filterMap_nil,
      List.mem_singleton] at hr hr'
    subst hr hr'
    exact ⟨.whole 10, rfl, by decide +kernel⟩
  exact ⟨hdrop, hgain, hstale, hout,
    ((single_flight (TokenCache.create (.int 10)) (.whole 0) 2 sharedRound).2.2.2
      hdrop hgain hstale hout).1⟩

def Phase.gave (v : Json) : Phase → Bool
  | .done (.ok w) _ => w.sameValue v
  | _ => false

/-- Two callers over an empty cache: both read no token; the first issues `tok1`, keeps it
and returns; `invalidate` drops it; the second, finding under the lock no token and no
round in flight, issues again. -/
def lateInvalidate : List Act :=
  [.move 0, .move 1, .move 0, .move 1, .move 0, .move 0, .answer 0 (.ok (.str "tok1")),
    .move 0, .move 0, .move 0, .move 0, .move 0, .drop, .move 1, .move 1,
    .answer 1 (.ok (.str "tok2")), .move 1, .move 1, .move 1, .move 1, .move 1]

/-- With `invalidate` allowed, callers that start with no live token, under a lease that
outlasts the run and an issuer that gives tokens, can make two issuer calls and return
two tokens. -/
theorem invalidate_reopens_round :
    (∀ j x, Act.answer j x ∈ lateInvalidate → gained x = true) ∧
      Stale (TokenCache.create (.int 10)) (readings (.whole 0) lateInvalidate) ∧
      Outlasts (TokenCache.create (.int 10)) (readings (.whole 0) lateInvalidate) ∧
      ((idle (TokenCache.create (.int 10)) (.whole 0) 2).run lateInvalidate).calls = 2 ∧
      ((idle (TokenCache.create (.int 10)) (.whole 0) 2).run lateInvalidate).callers.map
        (Phase.gave (.str "tok1")) = [true, false] ∧
      ((idle (TokenCache.create (.int 10)) (.whole 0) 2).run lateInvalidate).callers.map
        (Phase.gave (.str "tok2")) = [false, true] := by
  refine ⟨?_, ?_, ?_, by decide +kernel, by decide +kernel, by decide +kernel⟩
  · intro j x h
    simp only [lateInvalidate, List.mem_cons, List.not_mem_nil, reduceCtorEq, Act.answer.injEq,
      false_or, or_false] at h
    rcases h with ⟨-, rfl⟩ | ⟨-, rfl⟩ <;> rfl
  · intro r hr
    simp only [readings, lateInvalidate, List.filterMap_cons, List.filterMap_nil,
      List.mem_singleton] at hr
    subst hr
    rfl
  · intro r hr r' hr'
    simp only [readings, lateInvalidate, List.filterMap_cons, List.filterMap_nil,
      List.mem_singleton] at hr hr'
    subst hr hr'
    exact ⟨.whole 10, rfl, by decide +kernel⟩

end TokenCache

end RankAdvisor
