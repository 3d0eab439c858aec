import Mathlib.Algebra.Order.Floor.Semifield
import Mathlib.Data.Rat.Floor
import RankAdvisor.Proofs.Binary64Rounding

/-! # The shortest decimal of a double reads back

`Binary64.shortest m e` searches, from the leading decimal place down, for the fewest digits
whose decimal lies among the reals that round to `m · 2^e`. The search always succeeds within
its seventeen tries, and what it returns is positive and reads back (`shortest_spec`). Every
decimal that reads back as a positive double is read as that double (`ofDecimal_eq_pack`):
together they make the text of a double read back as the same double.

The comparisons are exact: `compareScaled`, `readsBack`, `pow10Le` and `floorDivPow10`
compute the rational facts they stand for, and `floorLog10` never overshoots
(`floorLog10_le`, from `10^1233 ≤ 2^4096 ≤ 10^1234`).
-/

namespace RankAdvisor

set_option autoImplicit false

namespace Binary64

/-! ## Exact comparisons with powers of ten -/

theorem ten_zpow_natCast (k : Nat) : (10 : ℚ) ^ (k : Int) = ((10 ^ k : Nat) : ℚ) := by
  rw [zpow_natCast]; push_cast; rfl

theorem pow10Le_iff {num den : Nat} {k : Int} (hden : 0 < den) :
    pow10Le k num den = true ↔ (10 : ℚ) ^ k ≤ num / den := by
  have hdq : (0 : ℚ) < den := by exact_mod_cast hden
  rw [le_div_iff₀ hdq]
  unfold pow10Le
  split
  · obtain ⟨j, rfl⟩ := Int.eq_ofNat_of_zero_le ‹0 ≤ k›
    rw [Int.toNat_natCast, decide_eq_true_iff, ten_zpow_natCast, Nat.pow_eq, ← Nat.cast_mul,
      Nat.cast_le, Nat.mul_comm]
  · obtain ⟨j, rfl⟩ : ∃ j : Nat, k = -j := ⟨(-k).toNat, by omega⟩
    rw [neg_neg, Int.toNat_natCast, decide_eq_true_iff, zpow_neg, ten_zpow_natCast, Nat.pow_eq,
      inv_mul_le_iff₀ (by positivity), ← Nat.cast_mul, Nat.cast_le, Nat.mul_comm]

theorem floorDivPow10_eq_floor (num : Nat) {den : Nat} (k : Int) :
    floorDivPow10 num den k = ⌊(num / den : ℚ) / 10 ^ k⌋₊ := by
  unfold floorDivPow10
  split
  · obtain ⟨j, rfl⟩ := Int.eq_ofNat_of_zero_le ‹0 ≤ k›
    rw [Int.toNat_natCast, Nat.pow_eq, ten_zpow_natCast, div_div, ← Nat.cast_mul,
      Nat.floor_div_eq_div]
  · obtain ⟨j, rfl⟩ : ∃ j : Nat, k = -j := ⟨(-k).toNat, by omega⟩
    rw [neg_neg, Int.toNat_natCast, Nat.pow_eq, zpow_neg, ten_zpow_natCast, div_inv_eq_mul,
      div_mul_eq_mul_div, ← Nat.cast_mul, Nat.floor_div_eq_div]

theorem floorDivPow10_spec (num : Nat) {den : Nat} (k : Int) (hden : 0 < den) :
    (floorDivPow10 num den k : ℚ) * 10 ^ k ≤ num / den ∧
      (num / den : ℚ) < (floorDivPow10 num den k + 1) * 10 ^ k := by
  have hk : (0 : ℚ) < 10 ^ k := zpow_pos (by norm_num) k
  have hx : (0 : ℚ) ≤ (num / den : ℚ) / 10 ^ k := by positivity
  rw [floorDivPow10_eq_floor, ← le_div_iff₀ hk, ← div_lt_iff₀ hk]
  exact ⟨Nat.floor_le hx, Nat.lt_floor_add_one _⟩

/-- `compareScaled` compares `c · 10^k` with `b · 2^s` exactly: both sides are scaled by
`10^(-k) · 2^(-s)` where those are whole. -/
theorem compareScaled_spec (c : Nat) (k : Int) (b : Nat) (s : Int) :
    (compareScaled c k b s = .lt ↔ (c : ℚ) * 10 ^ k < b * 2 ^ s) ∧
      (compareScaled c k b s = .eq ↔ (c : ℚ) * 10 ^ k = b * 2 ^ s) ∧
      (compareScaled c k b s = .gt ↔ (b : ℚ) * 2 ^ s < c * 10 ^ k) := by
  set P : ℚ := 10 ^ (-k).toNat * 2 ^ (-s).toNat
  have hP : 0 < P := by positivity
  have h10 : (10 : ℚ) ^ k * 10 ^ (-k).toNat = 10 ^ k.toNat := by
    rw [← zpow_natCast, ← zpow_natCast (n := k.toNat), ← zpow_add₀ (by norm_num)]; congr 1; omega
  have h2 : (2 : ℚ) ^ s * 2 ^ (-s).toNat = 2 ^ s.toNat := by
    rw [← zpow_natCast, ← zpow_natCast (n := s.toNat), ← zpow_add₀ two_ne_zero]; congr 1; omega
  have hl : (c : ℚ) * 10 ^ k * P = ((c * Nat.pow 10 k.toNat * Nat.pow 2 (-s).toNat : Nat) : ℚ) := by
    simp only [P, Nat.pow_eq]; push_cast; rw [← h10]; ring
  have hr : (b : ℚ) * 2 ^ s * P = ((b * Nat.pow 10 (-k).toNat * Nat.pow 2 s.toNat : Nat) : ℚ) := by
    simp only [P, Nat.pow_eq]; push_cast; rw [← h2]; ring
  unfold compareScaled
  refine ⟨?_, ?_, ?_⟩
  · rw [Nat.compare_eq_lt, ← mul_lt_mul_iff_of_pos_right hP, hl, hr, Nat.cast_lt]
  · rw [Nat.compare_eq_eq, ← mul_left_inj' hP.ne', hl, hr, Nat.cast_inj]
  · rw [Nat.compare_eq_gt, ← mul_lt_mul_iff_of_pos_right hP, hl, hr, Nat.cast_lt]

theorem above_iff {o : Ordering} {cl : Bool} :
    (o == .gt || (cl && o == .eq)) = true ↔ o = .gt ∨ cl = true ∧ o = .eq := by
  cases o <;> cases cl <;> decide

theorem below_iff {o : Ordering} {cl : Bool} :
    (o == .lt || (cl && o == .eq)) = true ↔ o = .lt ∨ cl = true ∧ o = .eq := by
  cases o <;> cases cl <;> decide

theorem readsBack_iff (m : Nat) (e : Int) (c : Nat) (k : Int) :
    readsBack m e c k = true ↔ RoundsTo m e (c * 10 ^ k) := by
  obtain ⟨-, l2, l3⟩ := compareScaled_spec c k (interval m e).lo (e - 2)
  obtain ⟨u1, u2, -⟩ := compareScaled_spec c k (interval m e).hi (e - 2)
  simp only [readsBack, RoundsTo, Bool.and_eq_true, above_iff, below_iff, l2, l3, u1, u2]
  rw [eq_comm (a := (c : ℚ) * 10 ^ k) (b := ((interval m e).lo : ℚ) * 2 ^ (e - 2))]

/-! ## The two candidates at one exponent -/

theorem ratioOf_spec (m : Nat) (e : Int) :
    0 < (ratioOf m e).2 ∧ ((ratioOf m e).1 : ℚ) / (ratioOf m e).2 = m * 2 ^ e := by
  unfold ratioOf
  split
  · obtain ⟨j, rfl⟩ := Int.eq_ofNat_of_zero_le ‹0 ≤ e›
    refine ⟨Nat.one_pos, ?_⟩
    rw [Int.toNat_natCast, Nat.pow_eq, two_zpow_natCast]
    push_cast; ring
  · obtain ⟨j, rfl⟩ : ∃ j : Nat, e = -j := ⟨(-e).toNat, by omega⟩
    refine ⟨by rw [Nat.pow_eq]; positivity, ?_⟩
    rw [neg_neg, Int.toNat_natCast, zpow_neg, two_zpow_natCast, div_eq_mul_inv, Nat.pow_eq]

/-- The whole number of `10^k` steps at or below `m · 2^e`: `pickAt` takes it or the next one. -/
def stepsBelow (m : Nat) (e k : Int) : Nat := floorDivPow10 (ratioOf m e).1 (ratioOf m e).2 k

theorem stepsBelow_spec (m : Nat) (e k : Int) :
    (stepsBelow m e k : ℚ) * 10 ^ k ≤ m * 2 ^ e ∧ (m * 2 ^ e : ℚ) < (stepsBelow m e k + 1) * 10 ^ k := by
  obtain ⟨hden, hv⟩ := ratioOf_spec m e
  rw [← hv]
  exact floorDivPow10_spec _ k hden

theorem pickAt_cases {m c : Nat} {e k : Int} (h : pickAt m e k = some c) :
    (c = stepsBelow m e k ∧ readsBack m e (stepsBelow m e k) k = true) ∨
      (c = stepsBelow m e k + 1 ∧ readsBack m e (stepsBelow m e k + 1) k = true) := by
  unfold stepsBelow
  rcases hr : ratioOf m e with ⟨num, den⟩
  simp only [pickAt, hr] at h ⊢
  generalize floorDivPow10 num den k = c0 at h ⊢
  cases hlo : readsBack m e c0 k <;> cases hhi : readsBack m e (c0 + 1) k <;>
    simp only [hlo, hhi, Bool.and_self, Bool.and_false, Bool.false_and, if_true, if_false,
      Bool.false_eq_true, reduceCtorEq, Option.some.injEq, and_true, and_false, or_false,
      false_or] at h ⊢
  · exact h.symm
  · exact h.symm
  · -- both read back: the nearer one, or the even one on a tie
    split at h <;> simp only [Option.some.injEq] at h
    · exact .inl h.symm
    · exact .inr h.symm
    · split at h
      · exact .inl h.symm
      · exact .inr h.symm

theorem pickAt_isSome {m : Nat} {e k : Int}
    (h : readsBack m e (stepsBelow m e k) k = true ∨ readsBack m e (stepsBelow m e k + 1) k = true) :
    (pickAt m e k).isSome := by
  unfold stepsBelow at h
  rcases hr : ratioOf m e with ⟨num, den⟩
  simp only [hr] at h
  simp only [pickAt, hr]
  generalize floorDivPow10 num den k = c0 at h ⊢
  cases hlo : readsBack m e c0 k <;> cases hhi : readsBack m e (c0 + 1) k <;>
    simp only [hlo, hhi, Bool.false_eq_true, or_self] at h <;> simp
  split <;> rfl

theorem lo_lt_value {m : Nat} (e : Int) (hm : 0 < m) :
    ((interval m e).lo : ℚ) * 2 ^ (e - 2) < m * 2 ^ e := by
  have hlo : (interval m e).lo + 1 ≤ 4 * m := by unfold interval; dsimp only; split <;> omega
  have hlo' : ((interval m e).lo : ℚ) + 1 ≤ 4 * m := by exact_mod_cast hlo
  rw [two_zpow_sub_two]
  have := zpow_pos (two_pos (α := ℚ)) e
  nlinarith

theorem value_lt_hi (m : Nat) (e : Int) : (m : ℚ) * 2 ^ e < (interval m e).hi * 2 ^ (e - 2) := by
  show (m : ℚ) * 2 ^ e < ((4 * m + 2 : Nat) : ℚ) * 2 ^ (e - 2)
  rw [two_zpow_sub_two]
  have := zpow_pos (two_pos (α := ℚ)) e
  push_cast
  nlinarith

theorem pickAt_isSome_of_wide {m : Nat} {e k : Int} (hm : 0 < m)
    (hwide : (10 : ℚ) ^ k < (((interval m e).hi : ℚ) - (interval m e).lo) * 2 ^ (e - 2)) :
    (pickAt m e k).isSome := by
  apply pickAt_isSome
  obtain ⟨h1, h2⟩ := stepsBelow_spec m e k
  have hlo := lo_lt_value e hm
  have hhi := value_lt_hi m e
  rw [readsBack_iff, readsBack_iff]
  by_cases hc : ((interval m e).lo : ℚ) * 2 ^ (e - 2) < stepsBelow m e k * 10 ^ k
  · exact .inl ⟨.inl hc, .inl (by linarith)⟩
  · -- the candidate below is too low: the one above is less than the width past the low end
    replace hc := not_lt.1 hc
    refine .inr ⟨.inl ?_, .inl ?_⟩ <;> push_cast <;> linarith

/-! ## The leading decimal place -/

theorem floorLog10_down_le {num den : Nat} (hden : 0 < den) :
    ∀ (fuel : Nat) (k : Int), (10 : ℚ) ^ (k - fuel) ≤ num / den →
      (10 : ℚ) ^ floorLog10.down num den fuel k ≤ num / den
  | 0, k, h => by simpa [floorLog10.down] using h
  | fuel + 1, k, h => by
    unfold floorLog10.down
    split
    · exact (pow10Le_iff hden).1 ‹_›
    · exact floorLog10_down_le hden fuel (k - 1) (by rw [show k - 1 - fuel = k - (fuel + 1 : Nat) by omega]; exact h)

theorem floorLog10_up_le {num den : Nat} (hden : 0 < den) :
    ∀ (fuel : Nat) (k : Int), (10 : ℚ) ^ k ≤ num / den →
      (10 : ℚ) ^ floorLog10.up num den fuel k ≤ num / den
  | 0, k, h => h
  | fuel + 1, k, h => by
    unfold floorLog10.up
    split
    · exact floorLog10_up_le hden fuel (k + 1) ((pow10Le_iff hden).1 ‹_›)
    · exact h

/-- `10^1233 ≤ 2^4096 ≤ 10^1234`: the estimate `⌊log₂⌋ · 1233 / 4096` of `⌊log₁₀⌋` is low by at
most four for binary logarithms down to `-16384`. -/
theorem ten_pow_estimate_le (L : Int) (hL : -16384 ≤ L) :
    (10 : ℚ) ^ (Int.fdiv (L * 1233) 4096 - 4) ≤ 2 ^ L := by
  rw [Int.fdiv_eq_ediv_of_nonneg _ (by norm_num)]
  set est := L * 1233 / 4096
  have hest : 4096 * est ≤ L * 1233 ∧ L * 1233 < 4096 * est + 4096 := by omega
  rcases le_or_gt 0 L with hL0 | hL0
  · -- a whole power of two: `10^est ≤ 2^L`, compared at the 4096th power
    obtain ⟨n, rfl⟩ := Int.eq_ofNat_of_zero_le hL0
    obtain ⟨q, hq⟩ : ∃ q : Nat, est = q := ⟨est.toNat, by omega⟩
    have hnat : 10 ^ q ≤ 2 ^ n := by
      apply (Nat.pow_le_pow_iff_left (by norm_num : 4096 ≠ 0)).1
      calc (10 ^ q) ^ 4096 = 10 ^ (q * 4096) := (pow_mul _ _ _).symm
        _ ≤ 10 ^ (1233 * n) := Nat.pow_le_pow_right (by norm_num) (by omega)
        _ = (10 ^ 1233) ^ n := pow_mul _ _ _
        _ ≤ (2 ^ 4096) ^ n := Nat.pow_le_pow_left (by decide +kernel) n
        _ = (2 ^ n) ^ 4096 := by rw [← pow_mul, ← pow_mul, Nat.mul_comm]
    calc (10 : ℚ) ^ (est - 4) ≤ 10 ^ est := zpow_le_zpow_right₀ (by norm_num) (by omega)
      _ = ((10 ^ q : Nat) : ℚ) := by rw [hq, ten_zpow_natCast]
      _ ≤ ((2 ^ n : Nat) : ℚ) := by exact_mod_cast hnat
      _ = 2 ^ (n : Int) := (two_zpow_natCast n).symm
  · -- a fraction: `2^a ≤ 10^(b + 4)` for `L = -a` and `est = -b`
    obtain ⟨a, rfl⟩ : ∃ a : Nat, L = -a := ⟨(-L).toNat, by omega⟩
    obtain ⟨b, hb⟩ : ∃ b : Nat, est = -b := ⟨(-est).toNat, by omega⟩
    have hnat : 2 ^ a ≤ 10 ^ (b + 4) := by
      apply (Nat.pow_le_pow_iff_left (by norm_num : 4096 ≠ 0)).1
      calc (2 ^ a) ^ 4096 = (2 ^ 4096) ^ a := by rw [← pow_mul, ← pow_mul, Nat.mul_comm]
        _ ≤ (10 ^ 1234) ^ a := Nat.pow_le_pow_left (by decide +kernel) a
        _ = 10 ^ (1234 * a) := (pow_mul _ _ _).symm
        _ ≤ 10 ^ ((b + 4) * 4096) := Nat.pow_le_pow_right (by norm_num) (by omega)
        _ = (10 ^ (b + 4)) ^ 4096 := pow_mul _ _ _
    have h2 : (0 : ℚ) < 2 ^ a := by positivity
    calc (10 : ℚ) ^ (est - 4) = 1 / ((10 ^ (b + 4) : Nat) : ℚ) := by
          rw [hb, show -(b : Int) - 4 = -((b + 4 : Nat) : Int) by push_cast; ring, zpow_neg,
            ten_zpow_natCast, one_div]
      _ ≤ 1 / ((2 ^ a : Nat) : ℚ) := one_div_le_one_div_of_le (by exact_mod_cast h2) (by exact_mod_cast hnat)
      _ = 2 ^ (-(a : Int)) := by rw [zpow_neg, two_zpow_natCast, one_div]

/-- `floorLog10` never overshoots: `10` to its result is at most the ratio. -/
theorem floorLog10_le {num den : Nat} (hnum : 0 < num) (hden : 0 < den)
    (hL : -16384 ≤ floorLog2 num den) : (10 : ℚ) ^ floorLog10 num den ≤ num / den := by
  unfold floorLog10
  apply floorLog10_up_le hden
  apply floorLog10_down_le hden
  calc (10 : ℚ) ^ (Int.fdiv (floorLog2 num den * 1233) 4096 - ((4 : Nat) : Int))
      ≤ 2 ^ floorLog2 num den := ten_pow_estimate_le _ hL
    _ ≤ num / den := (floorLog2_spec hnum hden).1

/-! ## Seventeen digits suffice -/

theorem dropZeros_spec (c : Nat) (k : Int) :
    ((dropZeros c k).1 : ℚ) * 10 ^ (dropZeros c k).2 = c * 10 ^ k ∧
      (0 < c → 0 < (dropZeros c k).1) := by
  induction c, k using dropZeros.induct with
  | case1 c k h ih =>
    rw [dropZeros, dif_pos h]
    refine ⟨?_, fun _ => ih.2 (by omega)⟩
    have hc : (c : ℚ) = ((c / 10 : Nat) : ℚ) * 10 := by
      exact_mod_cast (Nat.div_mul_cancel (Nat.dvd_of_mod_eq_zero h.2)).symm
    rw [ih.1, zpow_add₀ (by norm_num), zpow_one, hc]
    ring
  | case2 c k h =>
    rw [dropZeros, dif_neg h]
    exact ⟨rfl, id⟩

theorem RoundsTo.lower {m : Nat} {e : Int} {v : ℚ} (hm : 0 < m) (hfit : Fits m e)
    (h : RoundsTo m e v) : (2 : ℚ) ^ (-1075 : Int) ≤ v := by
  have hlo : 2 ≤ (interval m e).lo := by unfold interval; dsimp only; split <;> omega
  have hlo' : (2 : ℚ) ≤ (interval m e).lo := by exact_mod_cast hlo
  have he : (2 : ℚ) ^ (-1076 : Int) ≤ 2 ^ (e - 2) :=
    zpow_le_zpow_right₀ (by norm_num) (by have := hfit.exp_ge; omega)
  have hend : (2 : ℚ) ^ (-1075 : Int) ≤ (interval m e).lo * 2 ^ (e - 2) := by
    calc (2 : ℚ) ^ (-1075 : Int) = 2 * 2 ^ (-1076 : Int) := by
          rw [← zpow_one_add₀ two_ne_zero]; congr 1
      _ ≤ (interval m e).lo * 2 ^ (e - 2) :=
          mul_le_mul hlo' he (zpow_pos two_pos _).le (by positivity)
  rcases h.1 with h1 | ⟨-, h1⟩ <;> linarith

theorem RoundsTo.upper {m : Nat} {e : Int} {v : ℚ} (hfit : Fits m e) (h : RoundsTo m e v) :
    v < 2 ^ (1024 : Int) := by
  have hhi : (interval m e).hi < 2 ^ 55 := by
    show 4 * m + 2 < 2 ^ 55
    have := hfit.sig_lt; omega
  have hhi' : ((interval m e).hi : ℚ) < 2 ^ 55 := by exact_mod_cast hhi
  have he : (2 : ℚ) ^ (e - 2) ≤ 2 ^ (969 : Int) :=
    zpow_le_zpow_right₀ (by norm_num) (by have := hfit.exp_le; omega)
  have hend : ((interval m e).hi : ℚ) * 2 ^ (e - 2) < 2 ^ (1024 : Int) := by
    calc ((interval m e).hi : ℚ) * 2 ^ (e - 2) < 2 ^ 55 * 2 ^ (e - 2) :=
          mul_lt_mul_of_pos_right hhi' (zpow_pos two_pos _)
      _ ≤ 2 ^ 55 * 2 ^ (969 : Int) := mul_le_mul_of_nonneg_left he (by positivity)
      _ = 2 ^ (1024 : Int) := by
          rw [← zpow_natCast, ← zpow_add₀ two_ne_zero]; congr 1
  rcases h.2 with h2 | ⟨-, h2⟩ <;> linarith

/-- At `10^(top - 16)`, for `10^top` at most the double, the interval is wider than a step:
a seventeen-digit decimal reads back. -/
theorem wide_at_seventeen {m : Nat} {e top : Int} (hm : 0 < m) (hfit : Fits m e)
    (htop : (10 : ℚ) ^ top ≤ m * 2 ^ e) :
    (10 : ℚ) ^ (top - 16) < (((interval m e).hi : ℚ) - (interval m e).lo) * 2 ^ (e - 2) := by
  have he : (0 : ℚ) < 2 ^ e := zpow_pos two_pos e
  have hstep : (10 : ℚ) ^ (top - 16) * 10 ^ 16 ≤ m * 2 ^ e := by
    rw [← zpow_natCast, ← zpow_add₀ (by norm_num)]; simpa using htop
  rw [two_zpow_sub_two]
  by_cases hb : m = 2 ^ 52 ∧ -1074 < e
  · -- at a power of two the width is three quarters of `2^e`
    have hlo : (interval m e).lo = 4 * m - 1 := if_pos hb
    obtain ⟨rfl, -⟩ := hb
    have hw : (((interval (2 ^ 52) e).hi : ℚ) - (interval (2 ^ 52) e).lo) = 3 := by
      show ((4 * 2 ^ 52 + 2 : Nat) : ℚ) - _ = 3
      rw [hlo]; norm_num
    rw [hw]
    push_cast at hstep
    linarith
  · have hlo : (interval m e).lo = 4 * m - 2 := if_neg hb
    have hw : (((interval m e).hi : ℚ) - (interval m e).lo) = 4 := by
      show ((4 * m + 2 : Nat) : ℚ) - _ = 4
      rw [hlo, Nat.cast_sub (by omega)]; push_cast; ring
    have hm53 : (m : ℚ) < 2 ^ 53 := by exact_mod_cast hfit.sig_lt
    rw [hw]
    nlinarith

/-- The search tries seventeen exponents, from the leading place down; when the last one has a
candidate, it stops at some exponent with one. -/
theorem shortest_go {m : Nat} {e : Int} (num den : Nat) {top : Int}
    (hlast : (pickAt m e (top - 16)).isSome) :
    ∀ fuel n, 1 ≤ fuel → n + fuel = 18 →
      ∃ c k, pickAt m e k = some c ∧ shortest.go m e num den top fuel n = dropZeros c k
  | 0, _, h, _ => absurd h (by omega)
  | fuel + 1, n, _, hn => by
    unfold shortest.go
    dsimp only
    split
    · exact ⟨_, _, ‹_›, rfl⟩
    · rename_i hnone
      rcases Nat.eq_zero_or_pos fuel with rfl | hfuel
      · -- the last exponent, `top - 16`, which has a candidate
        have hk : top - (n : Int) + 1 = top - 16 := by omega
        rw [hk] at hnone
        rw [hnone] at hlast
        exact absurd hlast Bool.false_ne_true
      · exact shortest_go num den hlast fuel (n + 1) hfuel (by omega)

/-- The shortest decimal of a positive double is positive and reads back as it. -/
theorem shortest_spec {m : Nat} {e : Int} (hm : 0 < m) (hfit : Fits m e) :
    0 < (shortest m e).1 ∧ RoundsTo m e ((shortest m e).1 * 10 ^ (shortest m e).2) := by
  obtain ⟨hden, hratio⟩ := ratioOf_spec m e
  rcases hr : ratioOf m e with ⟨num, den⟩
  rw [hr] at hden hratio
  dsimp only at hden hratio
  have hv : (0 : ℚ) < m * 2 ^ e := by have := zpow_pos (two_pos (α := ℚ)) e; positivity
  have hnum : 0 < num := by
    have : (0 : ℚ) < num / den := hratio ▸ hv
    exact_mod_cast (div_pos_iff_of_pos_right (by exact_mod_cast hden)).1 this
  -- the binary logarithm is at least `-1074`, far inside what the decimal estimate handles
  have hL : -16384 ≤ floorLog2 num den := by
    have h1 : (2 : ℚ) ^ e ≤ m * 2 ^ e := le_mul_of_one_le_left (zpow_pos two_pos e).le (by exact_mod_cast hm)
    have h2 := (floorLog2_spec hnum hden).2
    rw [hratio] at h2
    have := (zpow_lt_zpow_iff_right₀ (one_lt_two (α := ℚ))).1 (h1.trans_lt h2)
    have := hfit.exp_ge
    omega
  have htop := floorLog10_le hnum hden hL
  rw [hratio] at htop
  obtain ⟨c, k, hpick, hgo⟩ :=
    shortest_go num den (pickAt_isSome_of_wide hm (wide_at_seventeen hm hfit htop)) 17 1 (by omega) rfl
  have hshort : shortest m e = dropZeros c k := by simp only [shortest, hr]; exact hgo
  have hc : RoundsTo m e (c * 10 ^ k) := by
    rcases pickAt_cases hpick with ⟨rfl, h⟩ | ⟨rfl, h⟩ <;> exact (readsBack_iff _ _ _ _).1 h
  have hcpos : 0 < c := by
    have := hc.lower hm hfit
    have : (0 : ℚ) < c * 10 ^ k := lt_of_lt_of_le (zpow_pos two_pos _) this
    rcases Nat.eq_zero_or_pos c with h0 | h0
    · rw [h0] at this; simp at this
    · exact h0
  obtain ⟨hval, hpos⟩ := dropZeros_spec c k
  rw [hshort, hval]
  exact ⟨hpos hcpos, hc⟩

/-! ## Reading a decimal back -/

/-- Every decimal that reads back as a positive double is read as that double: the two
shortcuts of `ofDecimal` never fire for it, and the ratio rounds correctly. -/
theorem ofDecimal_eq_pack {neg : Bool} {m d : Nat} {e k : Int} (hm : 0 < m) (hfit : Fits m e)
    (hd : 0 < d) (hv : RoundsTo m e (d * 10 ^ k)) : ofDecimal neg d k = pack neg m e := by
  have hlo := hv.lower hm hfit
  have hhi := hv.upper hfit
  have hl1 : ((2 ^ Nat.log2 d : Nat) : ℚ) ≤ d := by exact_mod_cast Nat.log2_self_le hd.ne'
  have hl2 : (d : ℚ) < ((2 ^ (Nat.log2 d + 1) : Nat) : ℚ) := by exact_mod_cast Nat.lt_log2_self
  unfold ofDecimal
  rw [if_neg hd.ne']
  dsimp only
  split
  · obtain ⟨j, rfl⟩ := Int.eq_ofNat_of_zero_le ‹0 ≤ k›
    -- `2^(log₂ d + 3j) ≤ d · 10^j < 2^1024`: not past the largest double
    have hbits : ¬ (1025 : Int) ≤ (Nat.log2 d : Int) + 3 * (j : Int) := by
      have h8 : ((2 ^ (Nat.log2 d + 3 * j) : Nat) : ℚ) ≤ d * 10 ^ (j : Int) := by
        rw [pow_add, pow_mul, ten_zpow_natCast]
        push_cast
        gcongr
        · exact_mod_cast hl1
        · norm_num
      rw [← two_zpow_natCast] at h8
      have := (zpow_lt_zpow_iff_right₀ (one_lt_two (α := ℚ))).1 (h8.trans_lt hhi)
      omega
    rw [if_neg hbits]
    apply ofRatio_eq_pack hm hfit (by rw [Nat.pow_eq]; positivity) Nat.one_pos
    rw [Int.toNat_natCast, Nat.pow_eq, Nat.cast_one, div_one, Nat.cast_mul, ← ten_zpow_natCast]
    exact hv
  · obtain ⟨j, rfl⟩ : ∃ j : Nat, k = -j := ⟨(-k).toNat, by omega⟩
    -- `2^-1075 ≤ d / 10^j < 2^(log₂ d + 1 - 3j)`: not below the least double
    have hbits : ¬ (Nat.log2 d : Int) + 1 + 3 * -(j : Int) < -1076 := by
      have h8 : (d : ℚ) * 10 ^ (-(j : Int)) < 2 ^ ((Nat.log2 d + 1 : Nat) + 3 * -(j : Int)) := by
        rw [zpow_neg, ten_zpow_natCast, zpow_add₀ two_ne_zero, two_zpow_natCast,
          show 3 * -(j : Int) = -((3 * j : Nat) : Int) by push_cast; ring, zpow_neg,
          two_zpow_natCast, ← div_eq_mul_inv, ← div_eq_mul_inv]
        have h8j : ((2 ^ (3 * j) : Nat) : ℚ) ≤ ((10 ^ j : Nat) : ℚ) := by
          rw [pow_mul]; exact_mod_cast Nat.pow_le_pow_left (by norm_num) j
        calc (d : ℚ) / ((10 ^ j : Nat) : ℚ) ≤ d / ((2 ^ (3 * j) : Nat) : ℚ) :=
              div_le_div_of_nonneg_left (by positivity) (by positivity) h8j
          _ < ((2 ^ (Nat.log2 d + 1) : Nat) : ℚ) / ((2 ^ (3 * j) : Nat) : ℚ) :=
              div_lt_div_of_pos_right hl2 (by positivity)
      have := (zpow_lt_zpow_iff_right₀ (one_lt_two (α := ℚ))).1 (hlo.trans_lt h8)
      omega
    rw [if_neg hbits]
    apply ofRatio_eq_pack hm hfit hd (by rw [Nat.pow_eq]; positivity)
    rw [neg_neg, Int.toNat_natCast, Nat.pow_eq, Nat.cast_pow, div_eq_mul_inv, ← zpow_natCast,
      ← zpow_neg]
    exact hv

end Binary64

end RankAdvisor
