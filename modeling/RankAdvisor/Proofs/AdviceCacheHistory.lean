import Mathlib.Data.List.Dedup
import RankAdvisor.Advice.Cache

/-! # The advice cache against the history of its calls

What the advice cache answers over any session of calls whose clock never moves back,
against a reference read off the calls made so far (`answers`). A read answers the advice
of the latest storing under its key that no later drop of the key or clearing removed,
while less than the time to live has passed since that storing, and nothing otherwise.
Storing no advice is no storing at all. The size counts the surviving storings that no read
has found expired: an expired entry stays counted until it is read.

The cache drops an entry when a read finds it expired, the reference never does; they agree
because a clock that never moves back finds an expired entry expired again (`Mirrors`).

Main statement: `ResultCache.answers_follow_history`.
-/

namespace RankAdvisor

set_option autoImplicit false

namespace ResultCache

/-! ## The reference

A history is the list of calls made so far, each with its clock reading, the latest first.
-/

/-- The advice and instant of the latest storing under `key` that no later drop of the key
or clearing removed. -/
def latest (key : String) : List (Step × DateTime) → Option (Advice × DateTime)
  | [] => none
  | (.set k (some a), t) :: past => if k = key then some (a, t) else latest key past
  | (.set _ none, _) :: past => latest key past
  | (.get _, _) :: past => latest key past
  | (.invalidate k, _) :: past => if k = key then none else latest key past
  | (.clear, _) :: _ => none

/-- The advice a read of `key` at `now` finds: that of the latest surviving storing, while
less than the time to live has passed since it. -/
def served (ttl : Duration) (key : String) (past : List (Step × DateTime)) (now : DateTime) :
    Option Advice :=
  match latest key past with
  | some (a, t) => if (now.since t).micros < ttl.micros then some a else none
  | none => none

/-- Whether a read of `key` since its latest surviving storing found nothing there. -/
def foundExpired (ttl : Duration) (key : String) : List (Step × DateTime) → Bool
  | [] => false
  | (.set k (some _), _) :: past => if k = key then false else foundExpired ttl key past
  | (.set _ none, _) :: past => foundExpired ttl key past
  | (.get k, t) :: past =>
    (k == key && (latest key past).isSome && (served ttl key past t).isNone) ||
      foundExpired ttl key past
  | (.invalidate k, _) :: past => if k = key then false else foundExpired ttl key past
  | (.clear, _) :: _ => false

def storedKeys (past : List (Step × DateTime)) : List String :=
  (past.filterMap fun
    | (.set k (some _), _) => some k
    | _ => none).dedup

/-- What a cache that follows a history holds under `key`: the latest surviving storing,
unless a read found it expired. -/
def kept (ttl : Duration) (past : List (Step × DateTime)) (key : String) :
    Option (Advice × DateTime) :=
  if foundExpired ttl key past then none else latest key past

/-- The number of entries after a history: the stored keys under which a storing is kept. -/
def count (ttl : Duration) (past : List (Step × DateTime)) : Nat :=
  (storedKeys past).countP fun key => (kept ttl past key).isSome

/-- The reference's answer to a call at `now` after a history. -/
def reply (ttl : Duration) (past : List (Step × DateTime)) (now : DateTime) : Step → Option Advice
  | .get key => served ttl key past now
  | _ => none

/-- The reference's answers to a session after a history: each call's answer and the number
of entries after it. -/
def answers (ttl : Duration) (past : List (Step × DateTime)) :
    List (Step × DateTime) → List (Option Advice × Nat)
  | [] => []
  | (s, t) :: rest =>
    (reply ttl past t s, count ttl ((s, t) :: past)) :: answers ttl ((s, t) :: past) rest

/-- The cache's answers to a session of calls, each at its clock reading: each call's answer
and the size after it. -/
def session (c : ResultCache) : List (Step × DateTime) → List (Option Advice × Nat)
  | [] => []
  | (s, t) :: rest => ((c.step t s).1, (c.step t s).2.size) :: session (c.step t s).2 rest

/-! ## Entries, key by key -/

def keys (l : List (String × Advice × DateTime)) : List String := l.map (·.1)

theorem mem_keys_iff (l : List (String × Advice × DateTime)) (k : String) :
    k ∈ keys l ↔ (l.lookup k).isSome := by
  induction l with
  | nil => simp [keys]
  | cons e l ih =>
    obtain ⟨k', v⟩ := e
    by_cases h : k = k'
    · subst h
      simp [keys]
    · have hb : (k == k') = false := by simpa using h
      simp only [keys, List.map_cons, List.mem_cons, List.lookup_cons, hb] at ih ⊢
      simp [h, ih]

theorem lookup_filter_ne (l : List (String × Advice × DateTime)) (key k : String) :
    (l.filter (·.1 != key)).lookup k = if k = key then none else l.lookup k := by
  induction l with
  | nil => simp
  | cons e l ih =>
    obtain ⟨k', v⟩ := e
    by_cases hk' : k' = key
    · subst hk'
      by_cases hk : k = k'
      · subst hk
        simpa using ih
      · have hb : (k == k') = false := by simpa using hk
        simp [ih, hk, hb, List.lookup_cons]
    · have hb' : (k' != key) = true := by simpa using hk'
      by_cases hk : k = k'
      · subst hk
        simp [hb', hk']
      · have hb : (k == k') = false := by simpa using hk
        simp [hb', List.lookup_cons, hb, ih]

theorem keys_filter_nodup {l : List (String × Advice × DateTime)} (h : (keys l).Nodup)
    (p : String × Advice × DateTime → Bool) : (keys (l.filter p)).Nodup :=
  (List.filter_sublist.map _).nodup h

theorem lookup_map_values (l : List (String × Advice × DateTime))
    (f : String × Advice × DateTime → String × Advice × DateTime) (hf : ∀ e, (f e).1 = e.1)
    (k : String) : (l.map f).lookup k = (l.lookup k).map fun v => (f (k, v)).2 := by
  induction l with
  | nil => rfl
  | cons e l ih =>
    obtain ⟨k', v⟩ := e
    have hk' : f (k', v) = (k', (f (k', v)).2) := Prod.ext (hf _) rfl
    by_cases hk : k = k'
    · subst hk
      rw [List.map_cons, hk']
      simp
    · have hb : (k == k') = false := by simpa using hk
      rw [List.map_cons, hk']
      simp [List.lookup_cons, hb, ih]

theorem keys_map_values (l : List (String × Advice × DateTime))
    (f : String × Advice × DateTime → String × Advice × DateTime) (hf : ∀ e, (f e).1 = e.1) :
    keys (l.map f) = keys l := by
  simp [keys, Function.comp_def, hf]

theorem replace_key (key : String) (x : Advice × DateTime) (e : String × Advice × DateTime) :
    (if e.1 == key then (key, x) else e).1 = e.1 := by
  by_cases h : e.1 = key
  · simp [h]
  · simp [h]

theorem store_ttl (c : ResultCache) (key : String) (a : Advice) (now : DateTime) :
    (c.store key a now).ttl = c.ttl := by
  unfold store
  split <;> rfl

theorem lookup_store (c : ResultCache) (key k : String) (a : Advice) (now : DateTime) :
    (c.store key a now).entries.lookup k = if k = key then some (a, now) else c.entries.lookup k := by
  unfold store
  split
  next hany =>
    rw [lookup_map_values _ _ (replace_key key (a, now))]
    by_cases hk : k = key
    · subst hk
      have hin : k ∈ keys c.entries := by
        obtain ⟨x, hx, hxk⟩ := List.any_eq_true.1 hany
        exact List.mem_map.2 ⟨x, hx, by simpa using hxk⟩
      obtain ⟨v, hv⟩ := Option.isSome_iff_exists.1 ((mem_keys_iff _ _).1 hin)
      simp [hv]
    · have hb : (k == key) = false := by simpa using hk
      cases c.entries.lookup k <;> simp [hk, hb]
  next hany =>
    rw [List.lookup_append]
    by_cases hk : k = key
    · subst hk
      have hnone : c.entries.lookup k = none := by
        rw [← Option.not_isSome_iff_eq_none, ← mem_keys_iff]
        intro hin
        obtain ⟨x, hx, rfl⟩ := List.mem_map.1 hin
        exact hany (List.any_eq_true.2 ⟨x, hx, by simp⟩)
      simp [hnone]
    · have hb : (k == key) = false := by simpa using hk
      cases c.entries.lookup k <;> simp [List.lookup_cons, hb, hk]

theorem keys_store_nodup {c : ResultCache} (h : (keys c.entries).Nodup) (key : String) (a : Advice)
    (now : DateTime) : (keys (c.store key a now).entries).Nodup := by
  unfold store
  split
  next => rwa [keys_map_values _ _ (replace_key key (a, now))]
  next hany =>
    have hout : key ∉ keys c.entries := by
      intro hin
      obtain ⟨x, hx, hxk⟩ := List.mem_map.1 hin
      exact hany (List.any_eq_true.2 ⟨x, hx, by simp [hxk]⟩)
    have hsplit : keys (c.entries ++ [(key, a, now)]) = keys c.entries ++ [key] := by
      simp [keys]
    rw [hsplit, List.nodup_append]
    exact ⟨h, List.nodup_singleton key, fun x hx y hy => by
      rw [List.mem_singleton] at hy
      subst hy
      exact fun hxy => hout (hxy ▸ hx)⟩

/-! ## What a history keeps under a key -/

theorem kept_nil (ttl : Duration) (key : String) : kept ttl [] key = none := rfl

theorem kept_set_none (ttl : Duration) (past : List (Step × DateTime)) (k key : String)
    (t : DateTime) : kept ttl ((.set k none, t) :: past) key = kept ttl past key := rfl

theorem kept_set_some (ttl : Duration) (past : List (Step × DateTime)) (k key : String)
    (a : Advice) (t : DateTime) :
    kept ttl ((.set k (some a), t) :: past) key = if key = k then some (a, t) else kept ttl past key := by
  by_cases hk : key = k
  · subst hk
    simp [kept, foundExpired, latest]
  · have hk' : ¬k = key := fun h => hk h.symm
    simp [kept, foundExpired, latest, hk, hk']

theorem kept_invalidate (ttl : Duration) (past : List (Step × DateTime)) (k key : String)
    (t : DateTime) :
    kept ttl ((.invalidate k, t) :: past) key = if key = k then none else kept ttl past key := by
  by_cases hk : key = k
  · subst hk
    simp [kept, foundExpired, latest]
  · have hk' : ¬k = key := fun h => hk h.symm
    simp [kept, foundExpired, latest, hk, hk']

theorem kept_clear (ttl : Duration) (past : List (Step × DateTime)) (key : String) (t : DateTime) :
    kept ttl ((.clear, t) :: past) key = none := rfl

theorem kept_get_other (ttl : Duration) (past : List (Step × DateTime)) {k key : String}
    (hk : key ≠ k) (t : DateTime) : kept ttl ((.get k, t) :: past) key = kept ttl past key := by
  have hb : (k == key) = false := by simpa using fun h => hk h.symm
  simp [kept, foundExpired, latest, hb]

theorem kept_get_self (ttl : Duration) (past : List (Step × DateTime)) (k : String) (t : DateTime) :
    kept ttl ((.get k, t) :: past) k =
      if (served ttl k past t).isNone then none else kept ttl past k := by
  cases hs : served ttl k past t with
  | none =>
    cases hl : latest k past with
    | none => simp [kept, foundExpired, latest, hl]
    | some e => simp [kept, foundExpired, hl, hs]
  | some a =>
    simp [kept, foundExpired, latest, hs]

/-! ## A cache that mirrors a history -/

/-- Every call of a history came at or before `now`. -/
def Before (past : List (Step × DateTime)) (now : DateTime) : Prop :=
  ∀ x ∈ past, x.2.toMicros ≤ now.toMicros

theorem Before.tail {s : Step} {t now : DateTime} {past : List (Step × DateTime)}
    (hb : Before ((s, t) :: past) now) : Before past now :=
  fun x hx => hb x (List.mem_cons_of_mem _ hx)

/-- A storing that a read found expired stays expired for every later read: the clock never
moves back. -/
theorem served_of_foundExpired {ttl : Duration} {key : String} :
    ∀ {past : List (Step × DateTime)} {now : DateTime}, foundExpired ttl key past = true →
      Before past now → served ttl key past now = none
  | [], _, h, _ => by simp [foundExpired] at h
  | (s, t) :: past, now, h, hb => by
    cases s with
    | set k a =>
      cases a with
      | none =>
        have ih : served ttl key past now = none := served_of_foundExpired h hb.tail
        simpa [served, latest] using ih
      | some a =>
        by_cases hk : k = key
        · simp [foundExpired, hk] at h
        · have ih : served ttl key past now = none :=
            served_of_foundExpired (by simpa [foundExpired, hk] using h) hb.tail
          simpa [served, latest, hk] using ih
    | invalidate k =>
      by_cases hk : k = key
      · simp [foundExpired, hk] at h
      · have ih : served ttl key past now = none :=
          served_of_foundExpired (by simpa [foundExpired, hk] using h) hb.tail
        simpa [served, latest, hk] using ih
    | clear => simp [foundExpired] at h
    | get k =>
      have hlate : served ttl key ((.get k, t) :: past) now = served ttl key past now := rfl
      rw [hlate]
      simp only [foundExpired, Bool.or_eq_true, Bool.and_eq_true, beq_iff_eq,
        Option.isSome_iff_exists, Option.isNone_iff_eq_none] at h
      rcases h with ⟨⟨-, ⟨⟨a, ts⟩, hl⟩⟩, hgone⟩ | h
      · -- the read at `t` found the storing at `ts` expired, and `now` is no earlier
        have ht : t.toMicros ≤ now.toMicros := hb (.get k, t) List.mem_cons_self
        have hlapse : ¬(t.since ts).micros < ttl.micros := by
          intro hlt
          rw [served, hl] at hgone
          simp [hlt] at hgone
        have hnow : ¬(now.since ts).micros < ttl.micros := by
          simp only [DateTime.since] at hlapse ⊢
          omega
        rw [served, hl]
        dsimp only
        rw [if_neg hnow]
      · exact served_of_foundExpired h hb.tail

theorem served_of_kept {ttl : Duration} {key : String} {past : List (Step × DateTime)}
    {now : DateTime} (hb : Before past now) :
    served ttl key past now = match kept ttl past key with
      | some (a, t) => if (now.since t).micros < ttl.micros then some a else none
      | none => none := by
  cases hf : foundExpired ttl key past
  · simp only [kept, hf, Bool.false_eq_true, if_false]
    rfl
  · simp only [kept, hf, if_true]
    exact served_of_foundExpired hf hb

/-- A cache mirrors a history: the time to live, one entry per key, and under each key what
the history keeps. -/
structure Mirrors (ttl : Duration) (c : ResultCache) (past : List (Step × DateTime)) : Prop where
  ttl_eq : c.ttl = ttl
  nodup : (keys c.entries).Nodup
  entry : ∀ key, c.entries.lookup key = kept ttl past key

theorem mirrors_create (ttl : Duration) : Mirrors ttl (create ttl) [] :=
  ⟨rfl, List.nodup_nil, fun _ => rfl⟩

section Steps

variable {ttl : Duration} {c : ResultCache} {past : List (Step × DateTime)}

theorem Mirrors.set_none (hm : Mirrors ttl c past) (k : String) (now : DateTime) :
    Mirrors ttl (c.put k none now) ((.set k none, now) :: past) :=
  ⟨hm.ttl_eq, hm.nodup, fun key => by rw [kept_set_none]; exact hm.entry key⟩

theorem Mirrors.set_some (hm : Mirrors ttl c past) (k : String) (a : Advice) (now : DateTime) :
    Mirrors ttl (c.put k (some a) now) ((.set k (some a), now) :: past) := by
  refine ⟨(store_ttl c k a now).trans hm.ttl_eq, keys_store_nodup hm.nodup k a now, fun key => ?_⟩
  rw [put, lookup_store, kept_set_some, hm.entry key]

theorem Mirrors.drop (hm : Mirrors ttl c past) (k : String) (now : DateTime) :
    Mirrors ttl (c.drop k) ((.invalidate k, now) :: past) := by
  refine ⟨hm.ttl_eq, keys_filter_nodup hm.nodup _, fun key => ?_⟩
  rw [ResultCache.drop, lookup_filter_ne, kept_invalidate, hm.entry key]

theorem Mirrors.clear (hm : Mirrors ttl c past) (now : DateTime) :
    Mirrors ttl c.clear ((.clear, now) :: past) :=
  ⟨hm.ttl_eq, List.nodup_nil, fun key => by rw [kept_clear]; rfl⟩

theorem Mirrors.get (hm : Mirrors ttl c past) {now : DateTime} (hb : Before past now) (k : String) :
    (c.lookup k now).1 = served ttl k past now ∧
      Mirrors ttl (c.lookup k now).2 ((.get k, now) :: past) := by
  have hserved := @served_of_kept ttl k past now hb
  rw [← hm.entry k] at hserved
  have hother : ∀ key, key ≠ k → c.entries.lookup key = kept ttl ((.get k, now) :: past) key :=
    fun key hk => by rw [kept_get_other ttl past hk, hm.entry key]
  unfold lookup
  cases hl : c.entries.lookup k with
  | none =>
    rw [hl] at hserved
    dsimp only at hserved ⊢
    refine ⟨hserved.symm, hm.ttl_eq, hm.nodup, fun key => ?_⟩
    by_cases hk : key = k
    · subst hk
      rw [kept_get_self, hserved, hl]
      rfl
    · exact hother key hk
  | some e =>
    obtain ⟨a, t⟩ := e
    rw [hl] at hserved
    dsimp only at hserved ⊢
    by_cases hlive : (now.since t).micros < ttl.micros
    · -- a live entry is answered and kept
      have hkeep : c.expired t now = false := by simpa [expired, hm.ttl_eq] using hlive
      rw [if_pos hlive] at hserved
      simp only [hkeep, Bool.false_eq_true, if_false]
      refine ⟨hserved.symm, hm.ttl_eq, hm.nodup, fun key => ?_⟩
      by_cases hk : key = k
      · subst hk
        rw [kept_get_self, hserved, ← hm.entry key, hl]
        rfl
      · exact hother key hk
    · -- an expired entry is dropped, and the history keeps nothing under its key
      have hgone : c.expired t now = true := by simpa [expired, hm.ttl_eq] using hlive
      rw [if_neg hlive] at hserved
      simp only [hgone, if_true]
      refine ⟨hserved.symm, hm.ttl_eq, keys_filter_nodup hm.nodup _, fun key => ?_⟩
      rw [lookup_filter_ne]
      by_cases hk : key = k
      · subst hk
        rw [if_pos rfl, kept_get_self, hserved]
        rfl
      · rw [if_neg hk]
        exact hother key hk

/-- One call: the cache answers as the reference does and then mirrors the longer history. -/
theorem Mirrors.step (hm : Mirrors ttl c past) {now : DateTime} (hb : Before past now) (s : Step) :
    (c.step now s).1 = reply ttl past now s ∧ Mirrors ttl (c.step now s).2 ((s, now) :: past) := by
  cases s with
  | set k a =>
    cases a with
    | none => exact ⟨rfl, hm.set_none k now⟩
    | some a => exact ⟨rfl, hm.set_some k a now⟩
  | get k => exact hm.get hb k
  | invalidate k => exact ⟨rfl, hm.drop k now⟩
  | clear => exact ⟨rfl, hm.clear now⟩

end Steps

theorem mem_storedKeys_of_latest {key : String} :
    ∀ {past : List (Step × DateTime)}, (latest key past).isSome → key ∈ storedKeys past
  | [], h => by simp [latest] at h
  | (s, t) :: past, h => by
    have hsub : ∀ {k : String}, k ∈ storedKeys past → k ∈ storedKeys ((s, t) :: past) := by
      intro k hk
      simp only [storedKeys, List.mem_dedup, List.mem_filterMap] at hk ⊢
      obtain ⟨x, hx, hxk⟩ := hk
      exact ⟨x, List.mem_cons_of_mem _ hx, hxk⟩
    cases s with
    | set k a =>
      cases a with
      | none => exact hsub (mem_storedKeys_of_latest (by simpa [latest] using h))
      | some a =>
        by_cases hk : k = key
        · subst hk
          simp [storedKeys]
        · exact hsub (mem_storedKeys_of_latest (by simpa [latest, hk] using h))
    | get k => exact hsub (mem_storedKeys_of_latest (by simpa [latest] using h))
    | invalidate k =>
      by_cases hk : k = key
      · simp [latest, hk] at h
      · exact hsub (mem_storedKeys_of_latest (by simpa [latest, hk] using h))
    | clear => simp [latest] at h

theorem mem_storedKeys_of_kept {ttl : Duration} {key : String} {past : List (Step × DateTime)}
    (h : (kept ttl past key).isSome) : key ∈ storedKeys past := by
  unfold kept at h
  split at h
  · simp at h
  · exact mem_storedKeys_of_latest h

theorem Mirrors.size_eq {ttl : Duration} {c : ResultCache} {past : List (Step × DateTime)}
    (hm : Mirrors ttl c past) : c.size = count ttl past := by
  -- the keys of the cache and the stored keys with something kept are the same keys, each once
  have hperm : (keys c.entries).Perm
      ((storedKeys past).filter fun key => (kept ttl past key).isSome) := by
    refine (List.perm_ext_iff_of_nodup hm.nodup ((List.nodup_dedup _).filter _)).2 fun k => ?_
    rw [mem_keys_iff, hm.entry k, List.mem_filter]
    exact ⟨fun h => ⟨mem_storedKeys_of_kept h, h⟩, fun h => h.2⟩
  rw [size, count, List.countP_eq_length_filter, ← hperm.length_eq, keys, List.length_map]

/-- Over a session whose clock never moves back, a cache that mirrors a history answers as
the reference does. -/
theorem Mirrors.session {ttl : Duration} :
    ∀ (tr : List (Step × DateTime)) {c : ResultCache} {past : List (Step × DateTime)},
      Mirrors ttl c past → (∀ y ∈ tr, Before past y.2) →
      tr.Pairwise (fun x y => x.2.toMicros ≤ y.2.toMicros) →
      c.session tr = answers ttl past tr
  | [], _, _, _, _, _ => rfl
  | (s, t) :: rest, c, past, hm, hb, hclock => by
    obtain ⟨hreply, hm'⟩ := hm.step (hb (s, t) List.mem_cons_self) s
    have hlater : ∀ y ∈ rest, Before ((s, t) :: past) y.2 := by
      intro y hy x hx
      rcases List.mem_cons.1 hx with rfl | hx
      · exact List.rel_of_pairwise_cons hclock hy
      · exact hb y (List.mem_cons_of_mem _ hy) x hx
    simp only [ResultCache.session, answers, hreply, hm'.size_eq,
      Mirrors.session rest hm' hlater (List.pairwise_cons.1 hclock).2]

/-- The advice cache against its reference: over any session whose clock never moves back,
a fresh cache answers every call as the history of the calls says, and its size counts the
storings that no read has found expired. -/
theorem answers_follow_history (ttl : Duration) (tr : List (Step × DateTime))
    (hclock : tr.Pairwise fun x y => x.2.toMicros ≤ y.2.toMicros) :
    (create ttl).session tr = answers ttl [] tr :=
  Mirrors.session tr (mirrors_create ttl) (fun _ _ _ h => absurd h List.not_mem_nil) hclock

/-- Six hours to live: advice stored at nine is read at 14:59 and at 15:00. -/
theorem answers_follow_history_six_hours :
    let at_ (h m : Nat) : DateTime := ⟨⟨2024, 3, 20⟩, ⟨h, m, 0, 0⟩, none⟩
    let calls : List (Step × DateTime) :=
      [(.set "005930:2024-03-20" (some (Advice.unreadable "")), at_ 9 0),
        (.get "005930:2024-03-20", at_ 14 59), (.get "005930:2024-03-20", at_ 15 0)]
    calls.Pairwise (fun x y => x.2.toMicros ≤ y.2.toMicros) ∧
      (create ⟨21600000000⟩).session calls = answers ⟨21600000000⟩ [] calls :=
  ⟨by decide, answers_follow_history _ _ (by decide)⟩

end ResultCache

end RankAdvisor
