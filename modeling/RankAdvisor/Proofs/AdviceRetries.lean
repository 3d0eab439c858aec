import RankAdvisor.Advice.Advisor
import RankAdvisor.Proofs.AdviceReadBack
import RankAdvisor.Proofs.CalendarDays

/-! # Asking a scripted provider for advice

One request for advice, from any cache and any point of a provider's script. Advice cached
under the dataset's key and still within its time to live is returned with no call and no
wait. Otherwise the prompt is built and the provider called: `k` times, one more than the
transport failures it gives in a row, at most once per attempt the policy allows; between
calls the policy's waits are made in order. The last answer decides: a failure is raised,
a text is read, and readable advice is cached (`advice_request`).

The waits are those of an exponential backoff held between the initial and the maximal
delay, a factor beyond doubles counting as the maximal delay (`wait_eq_backoff`). So an
initial delay above the maximum is waited every time (`backoff_of_max_below`): the maximal
delay caps the waits only when it is not below the initial delay
(`backoff_exceeds_max_delay`).
-/

namespace RankAdvisor

set_option autoImplicit false

open Market

/-- A provider answering from a script, and a clock: the answer to each call numbered from
zero, the calls made so far, the waits made so far, and the instant the clock reads. -/
structure Script where
  answers : Nat → Except Fault Json
  calls : Nat
  sleeps : List Binary64
  now : DateTime

/-- Requests for advice, over the advice cache and a script. -/
abbrev OnScript := StateT ResultCache (StateM Script)

namespace Script

/-- The provider: the next answer of the script, whatever the prompt. -/
def ask (_ : String) : OnScript (Except Fault Json) :=
  StateT.lift fun s => (s.answers s.calls, { s with calls := s.calls + 1 })

def sleep (x : Binary64) : OnScript Unit :=
  StateT.lift fun s => ((), { s with sleeps := s.sleeps ++ [x] })

def clock : OnScript DateTime :=
  StateT.lift fun s => (s.now, s)

def runOn {α : Type} (x : ExceptT Fault OnScript α) (c : ResultCache) (s : Script) :
    (Except Fault α × ResultCache) × Script :=
  (x.run.run c).run s

section Run

variable {α β : Type}

theorem runOn_bind (x : ExceptT Fault OnScript α) (g : α → ExceptT Fault OnScript β)
    (c : ResultCache) (s : Script) :
    runOn (x >>= g) c s =
      match runOn x c s with
      | ((.ok a, c'), s') => runOn (g a) c' s'
      | ((.error f, c'), s') => ((.error f, c'), s') := by
  simp only [runOn, ExceptT.run_bind, StateT.run_bind]
  rcases (x.run.run c).run s with ⟨⟨r, c'⟩, s'⟩
  cases r <;> rfl

theorem runOn_bind_ok {x : ExceptT Fault OnScript α} {g : α → ExceptT Fault OnScript β}
    {c c' : ResultCache} {s s' : Script} {a : α} (h : runOn x c s = ((.ok a, c'), s')) :
    runOn (x >>= g) c s = runOn (g a) c' s' := by
  rw [runOn_bind, h]

theorem runOn_except (e : Except Fault α) (c : ResultCache) (s : Script) :
    runOn (ExceptT.mk (pure e)) c s = ((e, c), s) := rfl

theorem runOn_pure (a : α) (c : ResultCache) (s : Script) :
    runOn (pure a) c s = ((.ok a, c), s) := rfl

theorem runOn_throw (f : Fault) (c : ResultCache) (s : Script) :
    runOn (throw f : ExceptT Fault OnScript α) c s = ((.error f, c), s) := rfl

theorem runOn_ask (prompt : String) (c : ResultCache) (s : Script) :
    runOn (ExceptT.mk (ask prompt)) c s =
      ((s.answers s.calls, c), { s with calls := s.calls + 1 }) := rfl

theorem runOn_lift_ask (prompt : String) (c : ResultCache) (s : Script) :
    runOn (ExceptT.lift (ask prompt)) c s =
      ((.ok (s.answers s.calls), c), { s with calls := s.calls + 1 }) := rfl

theorem runOn_sleep (x : Binary64) (c : ResultCache) (s : Script) :
    runOn (ExceptT.lift (sleep x)) c s = ((.ok (), c), { s with sleeps := s.sleeps ++ [x] }) :=
  rfl

theorem runOn_clock (c : ResultCache) (s : Script) :
    runOn (ExceptT.lift clock) c s = ((.ok s.now, c), s) := rfl

end Run

end Script

/-! ## Attempts -/

def IsTransport (r : Except Fault Json) : Prop := ∃ f, r = .error f ∧ f.kind = .transport

/-- From the script's call `start`, `k` calls are made when `tries` are allowed: at least
one and at most `tries`; every call before the last one failed in transport; and the last
one either used up the tries or did not fail in transport. -/
structure Attempts (answers : Nat → Except Fault Json) (start tries k : Nat) : Prop where
  pos : 1 ≤ k
  le : k ≤ tries
  transport : ∀ j, j + 1 < k → IsTransport (answers (start + j))
  stop : k = tries ∨ ¬ IsTransport (answers (start + (k - 1)))

theorem Attempts.one (answers : Nat → Except Fault Json) (start tries : Nat) (htries : 1 ≤ tries)
    (hstop : tries = 1 ∨ ¬ IsTransport (answers start)) : Attempts answers start tries 1 :=
  ⟨Nat.le_refl 1, htries, fun j hj => absurd hj (by omega), hstop.imp Eq.symm id⟩

theorem Attempts.succ {answers : Nat → Except Fault Json} {start tries k : Nat}
    (hfirst : IsTransport (answers start)) (h : Attempts answers (start + 1) tries k) :
    Attempts answers start (tries + 1) (k + 1) := by
  refine ⟨by omega, by have := h.le; omega, fun j hj => ?_, ?_⟩
  · cases j with
    | zero => simpa using hfirst
    | succ j =>
      have := h.transport j (by omega)
      rwa [show start + 1 + j = start + (j + 1) by omega] at this
  · rcases h.stop with hk | hk
    · exact .inl (by omega)
    · refine .inr ?_
      have hk1 := h.pos
      rwa [show start + 1 + (k - 1) = start + (k + 1 - 1) by omega] at hk

/-- The attempts from attempt `n`, with `left` more allowed after it: the calls `Attempts`
says, the wait after each failed one in order, and the last answer as the outcome; the cache
is not touched. -/
theorem attemptFrom_run (p : RetryPolicy) (lo hi : Binary64) (prompt : String) (left : Nat) :
    ∀ (n : Nat) (c : ResultCache) (s : Script), ∃ k, Attempts s.answers s.calls (left + 1) k ∧
      Script.runOn (p.attemptFrom lo hi Script.sleep (Script.ask prompt) n left) c s =
        ((s.answers (s.calls + (k - 1)), c),
          { s with calls := s.calls + k,
                   sleeps := s.sleeps ++ (List.range (k - 1)).map fun j => p.wait lo hi (n + j) }) := by
  induction left with
  | zero =>
    intro n c s
    exact ⟨1, Attempts.one _ _ _ (Nat.le_refl 1) (.inl rfl), by simp [RetryPolicy.attemptFrom, Script.runOn_ask]⟩
  | succ left ih =>
    intro n c s
    rw [RetryPolicy.attemptFrom, Script.runOn_bind_ok (Script.runOn_lift_ask prompt c s)]
    cases ha : s.answers s.calls with
    | ok a =>
      -- an answer ends the attempts
      refine ⟨1, Attempts.one _ _ _ (by omega) (.inr ?_), ?_⟩
      · rintro ⟨f, hf, -⟩
        rw [ha] at hf
        cases hf
      · simp [Script.runOn_pure, ha]
    | error f =>
      by_cases hk : f.kind = .transport
      · -- a transport failure: wait, then the attempts from the next call
        simp only [hk, beq_self_eq_true, if_true]
        rw [Script.runOn_bind_ok (Script.runOn_sleep _ c _)]
        obtain ⟨k, hatt, hrun⟩ := ih (n + 1) c
          { s with calls := s.calls + 1, sleeps := s.sleeps ++ [p.wait lo hi n] }
        refine ⟨k + 1, Attempts.succ ⟨f, ha, hk⟩ hatt, ?_⟩
        rw [hrun]
        have hk1 := hatt.pos
        obtain ⟨m, rfl⟩ : ∃ m, k = m + 1 := ⟨k - 1, by omega⟩
        have hwaits : [p.wait lo hi n] ++ (List.range m).map (fun j => p.wait lo hi (n + 1 + j)) =
            (List.range (m + 1)).map fun j => p.wait lo hi (n + j) := by
          rw [List.range_succ_eq_map, List.map_cons, List.map_map, Nat.add_zero,
            List.singleton_append]
          refine congrArg _ (List.map_congr_left fun j _ => ?_)
          simp only [Function.comp, Nat.succ_eq_add_one]
          rw [Nat.add_assoc, Nat.add_comm 1 j]
        simp only [Nat.add_sub_cancel, List.append_assoc, hwaits]
        rw [show s.calls + 1 + m = s.calls + (m + 1) by omega,
          show s.calls + 1 + (m + 1) = s.calls + (m + 1 + 1) by omega]
      · -- any other failure is raised at once
        refine ⟨1, Attempts.one _ _ _ (by omega) (.inr ?_), ?_⟩
        · rintro ⟨f', hf', hk'⟩
          rw [ha] at hf'
          cases hf'
          exact hk hk'
        · have : (f.kind == .transport) = false := by simpa using hk
          simp only [this]
          simp [Script.runOn_throw, ha]

theorem attempts_int {p : RetryPolicy} {r : Int} (hr : p.maxRetries = .int r) :
    p.attempts = .ok (max 1 (r + 1).toNat) := by
  simp only [RetryPolicy.attempts, hr, Json.plus, Json.number?, Number.add,
    RetryPolicy.attemptsUpTo, bind, Except.bind, pure, Except.pure]

/-- A call under a policy with a whole count of retries `r` and bounds that are doubles:
the attempts `Attempts` says for `max 1 (r + 1)` tries, the `i`th failed one followed by the
wait `p.wait lo hi i`, and the last answer as the outcome. -/
theorem retry_run {p : RetryPolicy} {r : Int} {lo hi : Binary64} (hr : p.maxRetries = .int r)
    (hlo : p.initialDelay.toDouble = .ok lo) (hhi : p.maxDelay.toDouble = .ok hi)
    (prompt : String) (c : ResultCache) (s : Script) :
    ∃ k, Attempts s.answers s.calls (max 1 (r + 1).toNat) k ∧
      Script.runOn (p.run Script.sleep (Script.ask prompt)) c s =
        ((s.answers (s.calls + (k - 1)), c),
          { s with calls := s.calls + k,
                   sleeps := s.sleeps ++ (List.range (k - 1)).map fun j => p.wait lo hi (j + 1) }) := by
  obtain ⟨k, hatt, hrun⟩ := attemptFrom_run p lo hi prompt (max 1 (r + 1).toNat - 1) 1 c s
  rw [Nat.sub_add_cancel (Nat.le_max_left 1 _)] at hatt
  refine ⟨k, hatt, ?_⟩
  unfold RetryPolicy.run
  rw [Script.runOn_bind_ok (by rw [Script.runOn_except, attempts_int hr]),
    Script.runOn_bind_ok (by rw [Script.runOn_except, hlo]),
    Script.runOn_bind_ok (by rw [Script.runOn_except, hhi]), hrun]
  simp only [Nat.add_comm 1]

/-! ## Waits -/

/-- Exponential backoff on doubles: the initial delay `lo` times `2^(i-1)`, taken as the
maximal delay `hi` once `2^(i-1)` is beyond doubles, then no more than `hi` and no less than
`lo` (or zero). -/
def backoff (lo hi : Binary64) (i : Nat) : Binary64 :=
  let factor := Binary64.ofInt (2 ^ (i - 1) : Nat)
  let grown := if factor.isInf then hi else lo.mul factor
  ((Binary64.zero false).maxLeft lo).maxLeft (grown.minLeft hi)

theorem Number.lt_double (a b : Binary64) : (Number.double a).lt (.double b) = a.lt b := rfl

theorem Number.lt_whole_zero (x : Binary64) :
    (Number.whole 0).lt (.double x) = (Binary64.zero false).lt x := by
  simp only [Number.lt, Number.compare?, Number.place?, Binary64.lt, Binary64.compare?,
    Binary64.place?_zero, Int.zero_mul]

theorem Number.smaller_double (a b : Binary64) :
    (Number.double a).smaller (.double b) = .double (a.minLeft b) := by
  unfold Number.smaller Binary64.minLeft
  rw [Number.lt_double]
  split <;> rfl

theorem Number.larger_double (a b : Binary64) :
    (Number.double a).larger (.double b) = .double (a.maxLeft b) := by
  unfold Number.larger Binary64.maxLeft
  rw [Number.lt_double]
  split <;> rfl

theorem Number.double_mul_whole (x : Binary64) (k : Int) :
    (Number.double x).mul (.whole k) =
      if (Binary64.ofInt k).isInf then .error (Fault.overflow "int too large to convert to float")
      else .ok (.double (x.mul (Binary64.ofInt k))) := by
  simp only [Number.mul, Number.toDouble, bind, Except.bind, pure, Except.pure]
  cases (Binary64.ofInt k).isInf <;> rfl

theorem larger_lower_toDouble (lo m : Binary64) :
    (((Number.whole 0).larger (.double lo)).larger (.double m)).toDouble =
      .ok (((Binary64.zero false).maxLeft lo).maxLeft m) := by
  unfold Binary64.maxLeft
  by_cases h0 : (Binary64.zero false).lt lo = true
  · -- a positive initial delay is the lower bound
    have hl : (Number.whole 0).larger (.double lo) = .double lo := by
      rw [Number.larger, Number.lt_whole_zero, if_pos h0]
    rw [hl, Number.larger_double, if_pos h0]
    rfl
  · -- otherwise zero is
    have hl : (Number.whole 0).larger (.double lo) = .whole 0 := by
      rw [Number.larger, Number.lt_whole_zero, if_neg h0]
    have hzero : Binary64.ofInt 0 = Binary64.zero false := by decide
    rw [hl, if_neg h0, Number.larger, Number.lt_whole_zero]
    by_cases hm : (Binary64.zero false).lt m = true
    · rw [if_pos hm, if_pos hm]
      rfl
    · rw [if_neg hm, if_neg hm]
      simp only [Number.toDouble, hzero]
      rfl

/-- With a double for the initial delay, the policy waits the exponential backoff. -/
theorem wait_eq_backoff {p : RetryPolicy} {lo : Binary64} (h : p.initialDelay = .double lo)
    (hi : Binary64) (i : Nat) : p.wait lo hi i = backoff lo hi i := by
  unfold RetryPolicy.wait backoff
  rw [h, Number.double_mul_whole]
  simp only [Nat.pow_eq]
  -- the delay before the bounds is the maximal delay once the factor is beyond doubles
  cases (Binary64.ofInt ((2 ^ (i - 1) : Nat) : Int)).isInf <;>
    simp only [Bool.false_eq_true, if_true, if_false, Number.smaller_double, larger_lower_toDouble]

namespace Binary64

theorem places_of_lt {x y : Binary64} (h : x.lt y = true) :
    ∃ a b, x.place? = some a ∧ y.place? = some b ∧ a.compare b = .lt := by
  unfold lt compare? at h
  cases hx : x.place? with
  | none => simp [hx, bind, Option.bind] at h
  | some a =>
    cases hy : y.place? with
    | none => simp [hx, hy, bind, Option.bind] at h
    | some b => exact ⟨a, b, rfl, rfl, by simpa [hx, hy, bind, Option.bind, pure] using h⟩

theorem Place.compare_lt_trans {a b c : Place} (hab : a.compare b = .lt)
    (hbc : b.compare c = .lt) : a.compare c = .lt := by
  cases a <;> cases b <;> cases c <;> simp_all [Place.compare, Int.compare_eq_lt]
  omega

theorem lt_trans {x y z : Binary64} (hxy : x.lt y = true) (hyz : y.lt z = true) :
    x.lt z = true := by
  obtain ⟨a, b, ha, hb, hab⟩ := places_of_lt hxy
  obtain ⟨b', c, hb', hc, hbc⟩ := places_of_lt hyz
  rw [hb] at hb'
  cases hb'
  simp [lt, compare?_of_places ha hc, Place.compare_lt_trans hab hbc]

theorem lt_asymm {x y : Binary64} (h : x.lt y = true) : y.lt x = false := by
  obtain ⟨a, b, ha, hb, hab⟩ := places_of_lt h
  simp [lt, compare?_of_places hb ha, Place.compare_swap a b, hab]

end Binary64

/-- An initial delay above the maximal delay is waited after every attempt: the maximal
delay does not cap it, also once the factor is beyond doubles. -/
theorem backoff_of_max_below {lo hi : Binary64} (hpos : (Binary64.zero false).lt lo = true)
    (hbelow : hi.lt lo = true) (i : Nat) : backoff lo hi i = lo := by
  unfold backoff
  dsimp only
  have hlower : (Binary64.zero false).maxLeft lo = lo := by rw [Binary64.maxLeft, if_pos hpos]
  rw [hlower]
  generalize (if (Binary64.ofInt ((2 ^ (i - 1) : Nat) : Int)).isInf = true then hi
    else lo.mul (Binary64.ofInt ((2 ^ (i - 1) : Nat) : Int))) = grown
  unfold Binary64.maxLeft Binary64.minLeft
  split
  · -- capped at the maximal delay, below the initial delay
    rw [if_neg (by rw [Binary64.lt_asymm hbelow]; decide)]
  · -- the delay is not above the maximal delay, so not above the initial delay either
    rename_i hnot
    rw [if_neg fun hlt => hnot (Binary64.lt_trans hbelow hlt)]

/-! ## Cache keys -/

namespace Date

theorem pad_toList (w n : Nat) :
    (pad w n).toList = List.replicate (w - (Nat.toDigits 10 n).length) '0' ++ Nat.toDigits 10 n := by
  simp [pad, String.length, Nat.toList_repr]

theorem ofDigitChars_pad (w n : Nat) : Nat.ofDigitChars 10 (pad w n).toList 0 = n := by
  rw [pad_toList, Nat.ofDigitChars_append, Nat.ofDigitChars_replicate_zero, Nat.mul_zero,
    Nat.ofDigitChars_ten_toDigits]

theorem pad_length {w n : Nat} (hw : 0 < w) (h : n < 10 ^ w) : (pad w n).toList.length = w := by
  have hlen := (Nat.length_toDigits_le_iff (by decide) hw).2 h
  rw [pad_toList, List.length_append, List.length_replicate]
  omega

theorem iso_toList (d : Date) :
    d.iso.toList = (pad 4 d.year).toList ++ '-' :: ((pad 2 d.month).toList ++ '-' :: (pad 2 d.day).toList) := by
  simp [iso]

theorem pad_lengths {d : Date} (h : d.Valid) :
    (pad 4 d.year).toList.length = 4 ∧ (pad 2 d.month).toList.length = 2 ∧
      (pad 2 d.day).toList.length = 2 := by
  have hdays := daysInMonth_bounds d.year d.month
  unfold Valid at h
  exact ⟨pad_length (by decide) (by omega), pad_length (by decide) (by omega),
    pad_length (by decide) (by omega)⟩

theorem iso_length {d : Date} (h : d.Valid) : d.iso.toList.length = 10 := by
  obtain ⟨hy, hm, hd⟩ := pad_lengths h
  rw [iso_toList, List.length_append, List.length_cons, List.length_append, List.length_cons,
    hy, hm, hd]

theorem iso_inj {a b : Date} (ha : a.Valid) (hb : b.Valid) (h : a.iso = b.iso) : a = b := by
  obtain ⟨hya, hma, -⟩ := pad_lengths ha
  obtain ⟨hyb, hmb, -⟩ := pad_lengths hb
  have htext := congrArg String.toList h
  rw [iso_toList, iso_toList] at htext
  -- cut the texts at the same places: year, dash, month, dash, day
  obtain ⟨hy, htext⟩ := List.append_inj htext (by rw [hya, hyb])
  obtain ⟨-, htext⟩ := List.cons.inj htext
  obtain ⟨hm, htext⟩ := List.append_inj htext (by rw [hma, hmb])
  obtain ⟨-, hd⟩ := List.cons.inj htext
  obtain ⟨y, m, d⟩ := a
  obtain ⟨y', m', d'⟩ := b
  rw [← ofDigitChars_pad 4 y, hy, ofDigitChars_pad, ← ofDigitChars_pad 2 m, hm, ofDigitChars_pad,
    ← ofDigitChars_pad 2 d, hd, ofDigitChars_pad]

end Date

theorem cacheKey_eq_iff {d₁ d₂ : Dataset} {c₁ c₂ : String} (h₁ : d₁.code = .str c₁)
    (h₂ : d₂.code = .str c₂) (hv₁ : d₁.analysisDate.Valid) (hv₂ : d₂.analysisDate.Valid) :
    d₁.cacheKey = d₂.cacheKey ↔ c₁ = c₂ ∧ d₁.analysisDate = d₂.analysisDate := by
  unfold Dataset.cacheKey
  rw [h₁, h₂]
  constructor
  · intro h
    have htext := congrArg String.toList h
    simp only [Json.plainText, String.toList_append] at htext
    -- the date takes the last ten places, after the colon
    obtain ⟨hcode, hdate⟩ := List.append_inj' htext (by rw [Date.iso_length hv₁, Date.iso_length hv₂])
    obtain ⟨hcode, -⟩ := List.append_inj' hcode rfl
    exact ⟨String.toList_injective hcode, Date.iso_inj hv₁ hv₂ (String.toList_injective hdate)⟩
  · rintro ⟨rfl, hdate⟩
    rw [hdate]

/-! ## Readable advice in the cache -/

namespace ResultCache

/-- Every piece of advice the cache holds is readable. -/
def Readable (c : ResultCache) : Prop := ∀ e ∈ c.entries, e.2.1.isUnreadable = false

theorem Readable.hit {c c' : ResultCache} (h : c.Readable) {key : String} {now : DateTime}
    {a : Advice} (hl : c.lookup key now = (some a, c')) : a.isUnreadable = false ∧ c' = c := by
  unfold lookup at hl
  split at hl
  · cases hl
  · rename_i a' stored hfound
    split at hl
    · cases hl
    · cases hl
      obtain ⟨l₁, l₂, hentries, -⟩ := List.lookup_eq_some_iff.1 hfound
      exact ⟨h (key, a, stored) (by rw [hentries]; simp), rfl⟩

theorem Readable.lookup {c : ResultCache} (h : c.Readable) (key : String) (now : DateTime) :
    (c.lookup key now).2.Readable := by
  unfold ResultCache.lookup
  split
  · exact h
  · split
    · -- the expired entry is dropped
      intro e he
      exact h e (List.mem_filter.1 he).1
    · exact h

theorem Readable.store {c : ResultCache} (h : c.Readable) {a : Advice}
    (ha : a.isUnreadable = false) (key : String) (now : DateTime) :
    (c.store key a now).Readable := by
  unfold ResultCache.store
  split
  · intro e he
    obtain ⟨e', he', rfl⟩ := List.mem_map.1 he
    split
    · exact ha
    · exact h e' he'
  · intro e he
    rcases List.mem_append.1 he with he | he
    · exact h e he
    · rw [List.mem_singleton.1 he]
      exact ha

end ResultCache

/-! ## One request -/

namespace Script

theorem runOn_getThe (c : ResultCache) (s : Script) :
    runOn (getThe ResultCache) c s = ((.ok c, c), s) := rfl

theorem runOn_set (c' c : ResultCache) (s : Script) :
    runOn (set c' : ExceptT Fault OnScript Unit) c s = ((.ok (), c'), s) := rfl

theorem runOn_modifyThe (g : ResultCache → ResultCache) (c : ResultCache) (s : Script) :
    runOn (modifyThe ResultCache g : ExceptT Fault OnScript Unit) c s = ((.ok (), g c), s) := rfl

end Script

/-- What one request for advice on `d` gives from the cache `c` and the script `s`: the cached
advice with no call, or the provider called as `Attempts` says, with `wait i` after the `i`th
failure, and its last answer read and cached unless unreadable. -/
def Requested (tries : Nat) (wait : Nat → Binary64) (d : Dataset) (c : ResultCache) (s : Script)
    (out : (Except Fault Advice × ResultCache) × Script) : Prop :=
  match c.lookup d.cacheKey s.now with
  | (some a, c') => out = ((.ok a, c'), s)
  | (none, c') =>
    match Prompt.build d with
    | .error f => out = ((.error f, c'), s)
    | .ok _ =>
      ∃ k, Attempts s.answers s.calls tries k ∧
        out.2 = { s with calls := s.calls + k,
                         sleeps := s.sleeps ++ (List.range (k - 1)).map fun j => wait (j + 1) } ∧
        out.1 = match s.answers (s.calls + (k - 1)) with
          | .error f => (.error f, c')
          | .ok text =>
            match Advice.read text with
            | .error f => (.error f, c')
            | .ok a => (.ok a, if a.isUnreadable then c' else c'.store d.cacheKey a s.now)

theorem analyze_run {p : RetryPolicy} {r : Int} {lo hi : Binary64} (hr : p.maxRetries = .int r)
    (hlo : p.initialDelay.toDouble = .ok lo) (hhi : p.maxDelay.toDouble = .ok hi)
    (d : Dataset) (c : ResultCache) (s : Script) :
    Requested (max 1 (r + 1).toNat) (p.wait lo hi) d c s
      (Script.runOn (Advisor.analyze Script.ask Script.sleep Script.clock p d) c s) := by
  unfold Advisor.analyze
  rw [Script.runOn_bind_ok (Script.runOn_clock c s), Script.runOn_bind_ok (Script.runOn_getThe c s)]
  unfold Requested
  rcases c.lookup d.cacheKey s.now with ⟨hit, c'⟩
  cases hit with
  | some a =>
    -- the cache answers
    dsimp only
    rw [Script.runOn_bind_ok (Script.runOn_set c' c s)]
    rfl
  | none =>
    dsimp only
    rw [Script.runOn_bind_ok (Script.runOn_set c' c s)]
    cases hb : Prompt.build d with
    | error f =>
      rw [Script.runOn_bind, Script.runOn_except]
    | ok prompt =>
      rw [Script.runOn_bind_ok (Script.runOn_except _ c' s)]
      obtain ⟨k, hatt, hrun⟩ := retry_run hr hlo hhi prompt c' s
      refine ⟨k, hatt, ?_⟩
      rw [Script.runOn_bind, hrun]
      -- the last answer decides
      cases ha : s.answers (s.calls + (k - 1)) with
      | error f => exact ⟨rfl, rfl⟩
      | ok text =>
        dsimp only
        rw [Script.runOn_bind, Script.runOn_except]
        cases hread : Advice.read text with
        | error f => exact ⟨rfl, rfl⟩
        | ok a =>
          dsimp only
          cases hu : a.isUnreadable
          · -- readable advice is stored at the clock's instant
            simp only [Bool.not_false, if_true]
            rw [Script.runOn_bind_ok (Script.runOn_clock _ _),
              Script.runOn_bind_ok (Script.runOn_modifyThe _ _ _)]
            exact ⟨rfl, rfl⟩
          · simp only [Bool.not_true]
            exact ⟨rfl, rfl⟩

/-- A request keeps the cache readable: it stores only readable advice. -/
theorem Requested.readable {tries : Nat} {wait : Nat → Binary64} {d : Dataset} {c : ResultCache}
    {s : Script} {out : (Except Fault Advice × ResultCache) × Script}
    (h : Requested tries wait d c s out) (hc : c.Readable) : out.1.2.Readable := by
  unfold Requested at h
  rcases hl : c.lookup d.cacheKey s.now with ⟨hit, c'⟩
  have hc' : c'.Readable := by
    have := hc.lookup d.cacheKey s.now
    rwa [hl] at this
  rw [hl] at h
  cases hit with
  | some a =>
    rw [h]
    exact hc'
  | none =>
    dsimp only at h
    split at h
    · rw [h]
      exact hc'
    · obtain ⟨k, -, -, hout⟩ := h
      rw [hout]
      split
      · exact hc'
      · split
        · exact hc'
        · rename_i a _
          dsimp only
          cases hu : a.isUnreadable
          · exact hc'.store hu _ _
          · exact hc'

/-! ## The request -/

/-- One request for advice under a policy with a whole count of retries: it does what
`Requested` says, keeps a readable cache readable, waits by exponential backoff, and shares a
cache entry only with the datasets of its code and analysis date. -/
theorem advice_request (p : RetryPolicy) {r : Int} {lo hi : Binary64}
    (hr : p.maxRetries = .int r) (hlo : p.initialDelay.toDouble = .ok lo)
    (hhi : p.maxDelay.toDouble = .ok hi) (d : Dataset) (c : ResultCache) (s : Script) :
    Requested (max 1 (r + 1).toNat) (p.wait lo hi) d c s
        (Script.runOn (Advisor.analyze Script.ask Script.sleep Script.clock p d) c s) ∧
      (c.Readable →
        (Script.runOn (Advisor.analyze Script.ask Script.sleep Script.clock p d) c s).1.2.Readable) ∧
      (p.initialDelay = .double lo → ∀ i, p.wait lo hi i = backoff lo hi i) ∧
      ((Binary64.zero false).lt lo = true → hi.lt lo = true → ∀ i, backoff lo hi i = lo) ∧
      ∀ (d' : Dataset) (c₁ c₂ : String), d.code = .str c₁ → d'.code = .str c₂ →
        d.analysisDate.Valid → d'.analysisDate.Valid →
        (d.cacheKey = d'.cacheKey ↔ c₁ = c₂ ∧ d.analysisDate = d'.analysisDate) := by
  have hrun := analyze_run hr hlo hhi d c s
  refine ⟨hrun, hrun.readable, fun h => wait_eq_backoff h hi, ?_, ?_⟩
  · intro hpos hbelow i
    exact backoff_of_max_below hpos hbelow i
  · intro d' c₁ c₂ h₁ h₂ hv₁ hv₂
    exact cacheKey_eq_iff h₁ h₂ hv₁ hv₂

/-- A stock quoted at one, with no bars, analysed for 2 January 2024. -/
def quietDataset : Dataset :=
  ⟨⟨.str "005930", .str "A", 1, 0, 1, 1, .int 1⟩, [], 1, 1, ⟨2024, 1, 2⟩⟩

/-- A provider that fails in transport three times and then answers with readable advice,
the clock at midnight on 2 January 2024. -/
def threeDropsScript : Script where
  answers n := if n < 3 then .error ⟨.transport, "t", none⟩
    else .ok (.str "narr\n\x7b\"recommendation\": \"BUY\", \"confidence\": 0.7, \"summary\": \"ok\"\x7d")
  calls := 0
  sleeps := []
  now := DateTime.ofDate ⟨2024, 1, 2⟩

/-- Three retries after an initial delay of three seconds, the waits meant to stop at two. -/
def slowStartPolicy : RetryPolicy where
  maxRetries := .int 3
  initialDelay := .double 3
  maxDelay := .double 2

/-- The waits are not capped at the maximal delay: an initial delay of three seconds with a
maximum of two waits three seconds before each of the three retries, where the initial
delay times `2^(i-1)` capped at two would wait two seconds each time. -/
theorem backoff_exceeds_max_delay :
    (Script.runOn (Advisor.analyze Script.ask Script.sleep Script.clock slowStartPolicy quietDataset)
        (ResultCache.create ⟨21600000000⟩) threeDropsScript).2.sleeps = [3, 3, 3] ∧
      (List.range 3).map (fun j => ((3 : Binary64).mul (Binary64.ofInt (2 ^ j : Nat))).minLeft 2) =
        [2, 2, 2] := by
  decide +kernel

/-- The default policy, two retries and waits from two seconds up to eight, on the quiet
stock and the provider that fails three times. -/
theorem advice_request_default :
    ({} : RetryPolicy).maxRetries = .int 2 ∧
    ({} : RetryPolicy).initialDelay.toDouble = .ok 2 ∧ ({} : RetryPolicy).maxDelay.toDouble = .ok 8 ∧
    (Requested (max 1 (2 + 1 : Int).toNat) (({} : RetryPolicy).wait 2 8) quietDataset
        (ResultCache.create ⟨21600000000⟩) threeDropsScript
        (Script.runOn (Advisor.analyze Script.ask Script.sleep Script.clock {} quietDataset)
          (ResultCache.create ⟨21600000000⟩) threeDropsScript) ∧
      ((ResultCache.create ⟨21600000000⟩).Readable →
        (Script.runOn (Advisor.analyze Script.ask Script.sleep Script.clock {} quietDataset)
          (ResultCache.create ⟨21600000000⟩) threeDropsScript).1.2.Readable) ∧
      (({} : RetryPolicy).initialDelay = .double 2 → ∀ i, ({} : RetryPolicy).wait 2 8 i = backoff 2 8 i) ∧
      ((Binary64.zero false).lt 2 = true → (8 : Binary64).lt 2 = true → ∀ i, backoff 2 8 i = 2) ∧
      ∀ (d' : Dataset) (c₁ c₂ : String), quietDataset.code = .str c₁ → d'.code = .str c₂ →
        quietDataset.analysisDate.Valid → d'.analysisDate.Valid →
        (quietDataset.cacheKey = d'.cacheKey ↔ c₁ = c₂ ∧ quietDataset.analysisDate = d'.analysisDate)) :=
  ⟨rfl, rfl, rfl, advice_request {} rfl rfl rfl quietDataset (ResultCache.create ⟨21600000000⟩)
    threeDropsScript⟩

end RankAdvisor
