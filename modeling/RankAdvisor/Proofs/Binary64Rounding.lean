import Mathlib.Algebra.Order.Field.Power
import Mathlib.Algebra.Order.Field.Rat
import Mathlib.Tactic.Linarith
import Mathlib.Tactic.FieldSimp
import Mathlib.Tactic.Positivity
import Mathlib.Tactic.Ring
import RankAdvisor.Binary64.Shortest

/-! # Correct rounding of ratios

Every double this library computes is found exactly as a ratio of naturals and then rounded
once by `Binary64.ofRatio`. This module shows that the rounding is correct: a ratio among the
reals that read back as a positive double `m · 2^e` (`RoundsTo`, the interval that
`Binary64.interval` describes, its ends included when `m` is even) rounds to exactly that
double (`ofRatio_eq_pack`).

On the way: a finite double is the packing of its view (`pack_of_view`, `view_pack`),
`floorLog2` is the binary logarithm of a ratio (`floorLog2_spec`), and `roundHalfEven` takes
the nearest whole number, a tie going to the even one (`roundHalfEven_eq`).
-/

namespace RankAdvisor

set_option autoImplicit false

namespace Binary64

/-! ## The fields of a pattern -/

theorem signBit_eq (x : Binary64) : x.signBit = decide (2 ^ 63 ≤ x.bits.toNat) := by
  have hx := x.bits.toNat_lt
  have h : (x.bits >>> 63).toNat = x.bits.toNat / 2 ^ 63 := by
    rw [UInt64.toNat_shiftRight, Nat.shiftRight_eq_div_pow]; rfl
  have hb : (x.bits >>> 63 == 1) = decide ((x.bits >>> 63).toNat = 1) := by
    rw [Bool.eq_iff_iff, beq_iff_eq, decide_eq_true_iff, ← UInt64.toNat_inj]; rfl
  rw [signBit, hb, h, decide_eq_decide]
  omega

theorem expField_eq (x : Binary64) : x.expField = x.bits.toNat / 2 ^ 52 % 2 ^ 11 := by
  unfold expField
  rw [UInt64.toNat_and, UInt64.toNat_shiftRight, Nat.shiftRight_eq_div_pow]
  exact Nat.and_two_pow_sub_one_eq_mod _ 11

theorem fracField_eq (x : Binary64) : x.fracField = x.bits.toNat % 2 ^ 52 := by
  unfold fracField
  rw [UInt64.toNat_and]
  exact Nat.and_two_pow_sub_one_eq_mod _ 52

theorem toNat_bits (x : Binary64) :
    x.bits.toNat = (if x.signBit then 2 ^ 63 else 0) + 2 ^ 52 * x.expField + x.fracField := by
  have hx := x.bits.toNat_lt
  rw [signBit_eq, expField_eq, fracField_eq]
  split <;> simp_all <;> omega

theorem eq_of_fields {x y : Binary64} (hs : x.signBit = y.signBit) (he : x.expField = y.expField)
    (hf : x.fracField = y.fracField) : x = y := by
  have h : x.bits.toNat = y.bits.toNat := by rw [toNat_bits, toNat_bits y, hs, he, hf]
  cases x; cases y
  simpa using UInt64.toNat_inj.1 h

/-! ## Packing a significand and an exponent -/

/-- `m · 2^e` has the form `view` gives a finite double: a significand below `2^53`, an
exponent in range, and the hidden bit set unless the exponent is the least one. -/
structure Fits (m : Nat) (e : Int) : Prop where
  sig_lt : m < 2 ^ 53
  exp_ge : -1074 ≤ e
  exp_le : e ≤ 971
  normal : e = -1074 ∨ 2 ^ 52 ≤ m

theorem toNat_sign (neg : Bool) :
    (if neg then (0x8000000000000000 : UInt64) else 0).toNat = if neg then 2 ^ 63 else 0 := by
  cases neg <;> rfl

theorem toNat_or_below {neg : Bool} {n : Nat} (hn : n < 2 ^ 63) :
    (if neg then 2 ^ 63 else 0) ||| n = (if neg then 2 ^ 63 else 0) + n := by
  cases neg
  · simp
  · have := Nat.two_pow_add_eq_or_of_lt hn 1
    simp only [mul_one] at this
    simp [this]

theorem fields_of_toNat {x : Binary64} {neg : Bool} {k f : Nat} (hk : k < 2 ^ 11)
    (hf : f < 2 ^ 52) (h : x.bits.toNat = (if neg then 2 ^ 63 else 0) + 2 ^ 52 * k + f) :
    x.signBit = neg ∧ x.expField = k ∧ x.fracField = f := by
  rw [signBit_eq, expField_eq, fracField_eq, h]
  cases neg <;> simp <;> omega

theorem view_of_sub {x : Binary64} (h : x.expField = 0) :
    x.view = .finite x.signBit x.fracField (-1074) := by
  simp [view, h]

theorem view_of_normal {x : Binary64} (h0 : x.expField ≠ 0) (h1 : x.expField ≠ 2047) :
    x.view = .finite x.signBit (x.fracField + 2 ^ 52) ((x.expField : Int) - 1075) := by
  simp [view, h0, h1]

theorem view_of_top {x : Binary64} (h : x.expField = 2047) :
    x.view = if x.fracField = 0 then .inf x.signBit else .nan := by
  simp [view, h]

theorem pack_fields_of_sub {m : Nat} (neg : Bool) (q : Int) (hm : m < 2 ^ 52) :
    (pack neg m q).signBit = neg ∧ (pack neg m q).expField = 0 ∧ (pack neg m q).fracField = m := by
  have hbits : (pack neg m q).bits.toNat = (if neg then 2 ^ 63 else 0) + 2 ^ 52 * 0 + m := by
    simp only [pack, Nat.pow_eq, hm, if_true, UInt64.toNat_or, toNat_sign,
      Nat.toUInt64_eq, UInt64.toNat_ofNat']
    rw [Nat.mod_eq_of_lt (by omega), toNat_or_below (by omega)]
    omega
  exact fields_of_toNat (by omega) hm hbits

theorem pack_fields_of_normal {m : Nat} {q : Int} (neg : Bool) (hm : 2 ^ 52 ≤ m)
    (hm' : m < 2 ^ 53) (hq : -1074 ≤ q) (hq' : q ≤ 971) :
    (pack neg m q).signBit = neg ∧ (pack neg m q).expField = (q + 1075).toNat ∧
      (pack neg m q).fracField = m - 2 ^ 52 := by
  have hsub : ¬ m < Nat.pow 2 52 := by simp only [Nat.pow_eq]; omega
  have hq2 : ¬ q > 971 := by omega
  have hk : (q + 1075).toNat < 2 ^ 11 := by omega
  have hbits : (pack neg m q).bits.toNat =
      (if neg then 2 ^ 63 else 0) + 2 ^ 52 * (q + 1075).toNat + (m - 2 ^ 52) := by
    simp only [pack, hsub, hq2, if_false, Nat.pow_eq, UInt64.toNat_or, toNat_sign,
      Nat.toUInt64_eq, UInt64.toNat_ofNat', UInt64.toNat_shiftLeft]
    have h52 : (52 : UInt64).toNat % 64 = 52 := rfl
    rw [h52, Nat.mod_eq_of_lt (a := (q + 1075).toNat) (by omega), Nat.shiftLeft_eq,
      Nat.mod_eq_of_lt (a := (q + 1075).toNat * 2 ^ 52) (by omega),
      Nat.mod_eq_of_lt (a := m - 2 ^ 52) (by omega), Nat.mul_comm, Nat.or_assoc,
      ← Nat.two_pow_add_eq_or_of_lt (by omega), toNat_or_below (by omega)]
    omega
  exact fields_of_toNat hk (by omega) hbits

/-- Packing a significand and an exponent of the right form gives a double with that view. -/
theorem view_pack {m : Nat} {q : Int} (neg : Bool) (h : Fits m q) :
    (pack neg m q).view = .finite neg m q := by
  by_cases hsub : m < 2 ^ 52
  · obtain ⟨hs, he, hf⟩ := pack_fields_of_sub neg q hsub
    have : q = -1074 := h.normal.resolve_right (by omega)
    rw [view_of_sub he, hs, hf, this]
  · obtain ⟨hs, he, hf⟩ := pack_fields_of_normal neg (by omega) h.sig_lt h.exp_ge h.exp_le
    have := h.exp_ge
    have := h.exp_le
    rw [view_of_normal (by omega) (by omega), hs, he, hf]
    congr 1 <;> omega

/-- Every finite double is the packing of its view. -/
theorem pack_of_view {x : Binary64} {neg : Bool} {m : Nat} {e : Int}
    (h : x.view = .finite neg m e) : Fits m e ∧ pack neg m e = x := by
  have hk : x.expField < 2 ^ 11 := by rw [expField_eq]; omega
  have hf : x.fracField < 2 ^ 52 := by rw [fracField_eq]; omega
  by_cases h0 : x.expField = 0
  · rw [view_of_sub h0, View.finite.injEq] at h
    obtain ⟨rfl, rfl, rfl⟩ := h
    obtain ⟨hs, he, hf'⟩ := pack_fields_of_sub x.signBit (-1074) hf
    exact ⟨⟨by omega, by omega, by omega, .inl rfl⟩, eq_of_fields hs (he.trans h0.symm) hf'⟩
  · by_cases h1 : x.expField = 2047
    · rw [view_of_top h1] at h
      split at h <;> cases h
    · rw [view_of_normal h0 h1, View.finite.injEq] at h
      obtain ⟨rfl, rfl, rfl⟩ := h
      obtain ⟨hs, he, hf'⟩ :=
        pack_fields_of_normal x.signBit (m := x.fracField + 2 ^ 52) (q := (x.expField : Int) - 1075)
          (by omega) (by omega) (by omega) (by omega)
      refine ⟨⟨by omega, by omega, by omega, .inr (by omega)⟩, eq_of_fields hs ?_ ?_⟩
      · rw [he]; omega
      · rw [hf']; omega

/-! ## Rounding half to even -/

/-- `roundHalfEven n d` is the whole number `t` within half of `n / d`, an exact half going to
an even `t`. -/
theorem roundHalfEven_eq {n d t : Nat} (hd : 0 < d)
    (hlo : 2 * t * d ≤ 2 * n + d) (hhi : 2 * n ≤ (2 * t + 1) * d)
    (hlo_even : 2 * t * d = 2 * n + d → t % 2 = 0)
    (hhi_even : 2 * n = (2 * t + 1) * d → t % 2 = 0) :
    roundHalfEven n d = t := by
  have hdiv := Nat.div_add_mod n d
  have hmod := Nat.mod_lt n hd
  unfold roundHalfEven
  generalize n / d = q at hdiv ⊢
  generalize n % d = r at hdiv hmod ⊢
  subst hdiv
  -- in `d`-multiples: `t` is `q` or `q + 1`
  have ht1 : t ≤ q + 1 := by
    by_contra h
    have : d * (q + 2) ≤ d * t := Nat.mul_le_mul_left d (by omega)
    nlinarith
  have ht0 : q ≤ t := by
    by_contra h
    have : d * (t + 1) ≤ d * q := Nat.mul_le_mul_left d (by omega)
    nlinarith
  simp only [Bool.or_eq_true, decide_eq_true_eq, Bool.and_eq_true, beq_iff_eq]
  rcases (by omega : t = q ∨ t = q + 1) with rfl | rfl
  · -- the lower neighbour: the remainder is at most half of `d`
    ring_nf at hhi hhi_even
    have := fun h => hhi_even (by omega)
    rw [if_neg (by omega)]
  · -- the upper neighbour: the remainder is at least half of `d`
    ring_nf at hlo hlo_even
    have := fun h => hlo_even (by omega)
    rw [if_pos (by omega)]

theorem roundHalfEven_eq_of_near {n d t : Nat} (hd : 0 < d)
    (hlo : (t : ℚ) - 1 / 2 < n / d ∨ t % 2 = 0 ∧ (t : ℚ) - 1 / 2 = n / d)
    (hhi : (n / d : ℚ) < t + 1 / 2 ∨ t % 2 = 0 ∧ (n / d : ℚ) = t + 1 / 2) :
    roundHalfEven n d = t := by
  have hdq : (0 : ℚ) < d := by exact_mod_cast hd
  have key : ∀ a : ℚ, (a = n / d ↔ a * d = n) ∧ (a < n / d ↔ a * d < n) ∧
      ((n / d : ℚ) < a ↔ (n : ℚ) < a * d) := fun a =>
    ⟨eq_div_iff hdq.ne', lt_div_iff₀ hdq, div_lt_iff₀ hdq⟩
  apply roundHalfEven_eq hd
  · have : (2 * t * d : ℚ) ≤ 2 * n + d := by
      rcases hlo with h | ⟨-, h⟩
      · have := (key _).2.1.1 h; nlinarith
      · have := (key _).1.1 h; nlinarith
    exact_mod_cast this
  · have : (2 * n : ℚ) ≤ (2 * t + 1) * d := by
      rcases hhi with h | ⟨-, h⟩
      · have := (key _).2.2.1 h; nlinarith
      · have := (key _).1.1 h.symm; nlinarith
    exact_mod_cast this
  · intro h
    have h' : (2 * t * d : ℚ) = 2 * n + d := by exact_mod_cast h
    rcases hlo with h1 | ⟨ht, -⟩
    · have := (key _).2.1.1 h1; nlinarith
    · exact ht
  · intro h
    have h' : (2 * n : ℚ) = (2 * t + 1) * d := by exact_mod_cast h
    rcases hhi with h1 | ⟨ht, -⟩
    · have := (key _).2.2.1 h1; nlinarith
    · exact ht

/-! ## Binary logarithms of ratios -/

theorem two_zpow_natCast (k : Nat) : (2 : ℚ) ^ (k : Int) = ((2 ^ k : Nat) : ℚ) := by
  rw [zpow_natCast]; push_cast; rfl

theorem atLeastPow2_iff {num den : Nat} {t : Int} (hden : 0 < den) :
    atLeastPow2 num den t = true ↔ (2 : ℚ) ^ t ≤ num / den := by
  have hdq : (0 : ℚ) < den := by exact_mod_cast hden
  rw [le_div_iff₀ hdq]
  unfold atLeastPow2
  split
  · obtain ⟨k, rfl⟩ := Int.eq_ofNat_of_zero_le ‹0 ≤ t›
    rw [Int.toNat_natCast, Nat.shiftLeft_eq, decide_eq_true_iff, two_zpow_natCast,
      ← Nat.cast_mul, Nat.cast_le, Nat.mul_comm]
  · obtain ⟨k, rfl⟩ : ∃ k : Nat, t = -k := ⟨(-t).toNat, by omega⟩
    rw [neg_neg, Int.toNat_natCast, Nat.shiftLeft_eq, decide_eq_true_iff, zpow_neg,
      two_zpow_natCast, inv_mul_le_iff₀ (by positivity), ← Nat.cast_mul, Nat.cast_le,
      Nat.mul_comm]

/-- `floorLog2 num den` is `⌊log₂ (num / den)⌋`. -/
theorem floorLog2_spec {num den : Nat} (hnum : 0 < num) (hden : 0 < den) :
    (2 : ℚ) ^ floorLog2 num den ≤ num / den ∧ (num / den : ℚ) < 2 ^ (floorLog2 num den + 1) := by
  have hdq : (0 : ℚ) < den := by exact_mod_cast hden
  have hnq : (0 : ℚ) < num := by exact_mod_cast hnum
  -- the bit lengths bound each side within a factor of two
  have ha : ((2 ^ Nat.log2 num : Nat) : ℚ) ≤ num := by exact_mod_cast Nat.log2_self_le hnum.ne'
  have ha' : (num : ℚ) < ((2 ^ (Nat.log2 num + 1) : Nat) : ℚ) := by exact_mod_cast Nat.lt_log2_self
  have hb : ((2 ^ Nat.log2 den : Nat) : ℚ) ≤ den := by exact_mod_cast Nat.log2_self_le hden.ne'
  have hb' : (den : ℚ) < ((2 ^ (Nat.log2 den + 1) : Nat) : ℚ) := by exact_mod_cast Nat.lt_log2_self
  rw [← two_zpow_natCast] at ha ha' hb hb'
  set t : Int := (Nat.log2 num : Int) - (Nat.log2 den : Int)
  have hsplit : ∀ u : Int, (2 : ℚ) ^ (t + u) * 2 ^ (Nat.log2 den : Int) =
      2 ^ ((Nat.log2 num : Int) + u) := fun u => by
    rw [← zpow_add₀ two_ne_zero]; congr 1; omega
  have hupper : (num / den : ℚ) < 2 ^ (t + 1) := by
    rw [div_lt_iff₀ hdq]
    calc (num : ℚ) < 2 ^ ((Nat.log2 num : Int) + 1) := by exact_mod_cast ha'
      _ = 2 ^ (t + 1) * 2 ^ (Nat.log2 den : Int) := (hsplit 1).symm
      _ ≤ 2 ^ (t + 1) * den := by gcongr
  have hlower : (2 : ℚ) ^ (t - 1) < num / den := by
    rw [lt_div_iff₀ hdq]
    have h2 : (2 : ℚ) ^ (t - 1) * 2 ^ ((Nat.log2 den : Int) + 1) = 2 ^ (Nat.log2 num : Int) := by
      rw [← zpow_add₀ two_ne_zero]; congr 1; omega
    calc (2 : ℚ) ^ (t - 1) * den < 2 ^ (t - 1) * 2 ^ ((Nat.log2 den : Int) + 1) := by
          gcongr; exact_mod_cast hb'
      _ = 2 ^ (Nat.log2 num : Int) := h2
      _ ≤ num := ha
  unfold floorLog2
  dsimp only
  split
  · exact ⟨(atLeastPow2_iff hden).1 ‹_›, hupper⟩
  · refine ⟨hlower.le, ?_⟩
    rw [sub_add_cancel]
    exact not_le.1 (mt (atLeastPow2_iff hden).2 ‹_›)

theorem floorLog2_eq {num den : Nat} {k : Int} (hnum : 0 < num) (hden : 0 < den)
    (hlo : (2 : ℚ) ^ k ≤ num / den) (hhi : (num / den : ℚ) < 2 ^ (k + 1)) :
    floorLog2 num den = k := by
  obtain ⟨h1, h2⟩ := floorLog2_spec hnum hden
  have a := (zpow_lt_zpow_iff_right₀ one_lt_two).1 (h1.trans_lt hhi)
  have b := (zpow_lt_zpow_iff_right₀ one_lt_two).1 (hlo.trans_lt h2)
  omega

theorem floorLog2_lt {num den : Nat} {k : Int} (hnum : 0 < num) (hden : 0 < den)
    (hhi : (num / den : ℚ) < 2 ^ k) : floorLog2 num den < k :=
  (zpow_lt_zpow_iff_right₀ one_lt_two).1 ((floorLog2_spec hnum hden).1.trans_lt hhi)

/-! ## Rounding a ratio -/

/-- The significand `ofRatio` takes at the exponent `q`: `num / den / 2^q` rounded half to
even. -/
def roundAt (num den : Nat) (q : Int) : Nat :=
  if 0 ≤ q then roundHalfEven num (den <<< q.toNat) else roundHalfEven (num <<< (-q).toNat) den

/-- `ofRatio` picks the exponent from the binary logarithm, rounds the significand there, and
carries a significand that rounded up to `2^53` into the next exponent. -/
theorem ofRatio_of_roundAt {neg : Bool} {num den t : Nat} {q : Int} (hnum : 0 < num)
    (hden : 0 < den) (hq : max (floorLog2 num den - 52) (-1074) = q) (ht : roundAt num den q = t) :
    ofRatio neg num den = if t = 2 ^ 53 then pack neg (2 ^ 52) (q + 1) else pack neg t q := by
  subst hq ht
  simp only [ofRatio, roundAt]
  rw [if_neg (by omega)]
  rfl

theorem roundAt_scaled (num : Nat) {den : Nat} (q : Int) (hden : 0 < den) :
    ∃ n d : Nat, 0 < d ∧ (n / d : ℚ) = num / den / 2 ^ q ∧ roundAt num den q = roundHalfEven n d := by
  unfold roundAt
  split
  · obtain ⟨k, rfl⟩ := Int.eq_ofNat_of_zero_le ‹0 ≤ q›
    refine ⟨num, den <<< k, by rw [Nat.shiftLeft_eq]; positivity, ?_, by rw [Int.toNat_natCast]⟩
    rw [Nat.shiftLeft_eq, two_zpow_natCast, div_div, Nat.cast_mul]
  · obtain ⟨k, rfl⟩ : ∃ k : Nat, q = -k := ⟨(-q).toNat, by omega⟩
    refine ⟨num <<< k, den, hden, ?_, by rw [neg_neg, Int.toNat_natCast]⟩
    rw [Nat.shiftLeft_eq, zpow_neg, two_zpow_natCast, div_inv_eq_mul, Nat.cast_mul, mul_div_right_comm]

/-- At the exponent `q`, the significand is the whole number nearest to
`(num / den) / 2^q`, a tie going to the even one. -/
theorem roundAt_eq {num den t : Nat} {q : Int} (hden : 0 < den)
    (hlo : ((t : ℚ) - 1 / 2) * 2 ^ q < num / den ∨
      t % 2 = 0 ∧ ((t : ℚ) - 1 / 2) * 2 ^ q = num / den)
    (hhi : (num / den : ℚ) < (t + 1 / 2) * 2 ^ q ∨
      t % 2 = 0 ∧ (num / den : ℚ) = (t + 1 / 2) * 2 ^ q) :
    roundAt num den q = t := by
  obtain ⟨n, d, hd, hnd, h⟩ := roundAt_scaled num q hden
  have hq : (0 : ℚ) < 2 ^ q := zpow_pos two_pos q
  rw [h]
  apply roundHalfEven_eq_of_near hd
  · rw [hnd, lt_div_iff₀ hq, eq_div_iff hq.ne']
    exact hlo
  · rw [hnd, div_lt_iff₀ hq, div_eq_iff hq.ne']
    exact hhi

/-! ## The reals that round to a double -/

/-- `v` reads back as the positive double `m · 2^e`: it lies strictly between the ends of
`interval m e`, or on an end when that interval is closed. -/
def RoundsTo (m : Nat) (e : Int) (v : ℚ) : Prop :=
  (((interval m e).lo : ℚ) * 2 ^ (e - 2) < v ∨
      (interval m e).closed = true ∧ ((interval m e).lo : ℚ) * 2 ^ (e - 2) = v) ∧
    (v < ((interval m e).hi : ℚ) * 2 ^ (e - 2) ∨
      (interval m e).closed = true ∧ v = ((interval m e).hi : ℚ) * 2 ^ (e - 2))

theorem two_zpow_sub_two (e : Int) : (2 : ℚ) ^ (e - 2) = 2 ^ e / 4 := by
  rw [zpow_sub₀ two_ne_zero]; norm_num

theorem interval_closed_iff (m : Nat) (e : Int) : (interval m e).closed = true ↔ m % 2 = 0 := by
  simp [interval]

/-- Away from a power of two above the subnormals, the reals that round to `m · 2^e` are
those within half a step `2^e` of it. -/
theorem RoundsTo.regular {m : Nat} {e : Int} {v : ℚ} (hm : 0 < m)
    (hb : ¬ (m = 2 ^ 52 ∧ -1074 < e)) (h : RoundsTo m e v) :
    (((m : ℚ) - 1 / 2) * 2 ^ e < v ∨ m % 2 = 0 ∧ ((m : ℚ) - 1 / 2) * 2 ^ e = v) ∧
      (v < ((m : ℚ) + 1 / 2) * 2 ^ e ∨ m % 2 = 0 ∧ v = ((m : ℚ) + 1 / 2) * 2 ^ e) := by
  have hlo : ((interval m e).lo : ℚ) * 2 ^ (e - 2) = ((m : ℚ) - 1 / 2) * 2 ^ e := by
    have : (interval m e).lo = 4 * m - 2 := if_neg hb
    rw [this, Nat.cast_sub (by omega), two_zpow_sub_two]; push_cast; ring
  have hhi : ((interval m e).hi : ℚ) * 2 ^ (e - 2) = ((m : ℚ) + 1 / 2) * 2 ^ e := by
    show ((4 * m + 2 : Nat) : ℚ) * _ = _
    rw [two_zpow_sub_two]; push_cast; ring
  rw [RoundsTo, hlo, hhi, interval_closed_iff] at h
  exact h

/-- At a power of two above the subnormals the step below is half the step above: the reals
that round to `2^52 · 2^e` reach down a quarter step and up half a step, both ends included. -/
theorem RoundsTo.boundary {e : Int} {v : ℚ} (he : -1074 < e) (h : RoundsTo (2 ^ 52) e v) :
    ((2 : ℚ) ^ 52 - 1 / 4) * 2 ^ e ≤ v ∧ v ≤ ((2 : ℚ) ^ 52 + 1 / 2) * 2 ^ e := by
  have hlo : ((interval (2 ^ 52) e).lo : ℚ) * 2 ^ (e - 2) = ((2 : ℚ) ^ 52 - 1 / 4) * 2 ^ e := by
    have : (interval (2 ^ 52) e).lo = 4 * 2 ^ 52 - 1 := if_pos ⟨rfl, he⟩
    rw [this, two_zpow_sub_two]; norm_num; ring
  have hhi : ((interval (2 ^ 52) e).hi : ℚ) * 2 ^ (e - 2) = ((2 : ℚ) ^ 52 + 1 / 2) * 2 ^ e := by
    show ((4 * 2 ^ 52 + 2 : Nat) : ℚ) * _ = _
    rw [two_zpow_sub_two]; push_cast; ring
  rw [RoundsTo, hlo, hhi] at h
  obtain ⟨h1 | ⟨-, h1⟩, h2 | ⟨-, h2⟩⟩ := h <;> constructor <;> linarith

theorem exponent_eq {num den : Nat} {e : Int} (hnum : 0 < num) (hden : 0 < den)
    (hlo : (2 : ℚ) ^ 52 * 2 ^ e ≤ num / den ∨ e = -1074) (hhi : (num / den : ℚ) < 2 ^ 53 * 2 ^ e)
    (he : -1074 ≤ e) : max (floorLog2 num den - 52) (-1074) = e := by
  have hpow : ∀ k : Nat, (2 : ℚ) ^ k * 2 ^ e = 2 ^ ((k : Int) + e) := fun k => by
    rw [zpow_add₀ two_ne_zero, zpow_natCast]
  rw [hpow] at hhi
  rcases hlo with hlo | rfl
  · rw [hpow] at hlo
    have := floorLog2_eq hnum hden hlo (by rw [show (52 : Nat) + e + 1 = (53 : Nat) + e by omega]; exact hhi)
    omega
  · have := floorLog2_lt hnum hden hhi
    omega

/-- Every ratio that reads back as a positive double rounds to it. -/
theorem ofRatio_eq_pack {neg : Bool} {m num den : Nat} {e : Int} (hm : 0 < m) (hfit : Fits m e)
    (hnum : 0 < num) (hden : 0 < den) (hv : RoundsTo m e (num / den)) :
    ofRatio neg num den = pack neg m e := by
  have he : (0 : ℚ) < 2 ^ e := zpow_pos two_pos e
  by_cases hb : m = 2 ^ 52 ∧ -1074 < e
  · obtain ⟨rfl, he'⟩ := hb
    obtain ⟨hlo, hhi⟩ := RoundsTo.boundary he' hv
    by_cases hup : (2 : ℚ) ^ 52 * 2 ^ e ≤ num / den
    · -- at or above the power of two: the exponent is `e` and the significand `2^52`
      have hq := exponent_eq hnum hden (.inl hup) (by nlinarith) hfit.exp_ge
      have ht : roundAt num den e = 2 ^ 52 := by
        apply roundAt_eq hden (.inl (by push_cast; nlinarith))
        rcases hhi.lt_or_eq with h | h
        · exact .inl (by push_cast; exact h)
        · exact .inr ⟨by norm_num, by push_cast; exact h⟩
      rw [ofRatio_of_roundAt hnum hden hq ht, if_neg (by norm_num)]
    · -- just below it: one exponent less, where the significand rounds up to `2^53`
      have hdown : (2 : ℚ) ^ (e - 1) = 2 ^ e / 2 := by rw [zpow_sub₀ two_ne_zero, zpow_one]
      have hq : max (floorLog2 num den - 52) (-1074) = e - 1 := by
        have h51 := floorLog2_eq (k := 51 + e) hnum hden
          (by rw [zpow_add₀ two_ne_zero]; push_cast; nlinarith)
          (by rw [show 51 + e + 1 = 52 + e by ring, zpow_add₀ two_ne_zero]; push_cast; linarith)
        omega
      have ht : roundAt num den (e - 1) = 2 ^ 53 := by
        apply roundAt_eq hden
        · rw [hdown]
          rcases hlo.lt_or_eq with h | h
          · exact .inl (by push_cast; linarith)
          · exact .inr ⟨by norm_num, by push_cast; linarith⟩
        · exact .inl (by rw [hdown]; push_cast; linarith)
      rw [ofRatio_of_roundAt hnum hden hq ht, if_pos rfl, sub_add_cancel]
  · obtain ⟨hlo, hhi⟩ := RoundsTo.regular hm hb hv
    have hm53 : (m : ℚ) + 1 / 2 < 2 ^ 53 := by
      have : ((m + 1 : Nat) : ℚ) ≤ ((2 ^ 53 : Nat) : ℚ) := by exact_mod_cast hfit.sig_lt
      push_cast at this; linarith
    have hvlo : ((m : ℚ) - 1 / 2) * 2 ^ e ≤ num / den := by
      rcases hlo with h | ⟨-, h⟩ <;> linarith
    have hvhi : (num / den : ℚ) ≤ ((m : ℚ) + 1 / 2) * 2 ^ e := by
      rcases hhi with h | ⟨-, h⟩ <;> linarith
    have hbig : (2 : ℚ) ^ 52 * 2 ^ e ≤ num / den ∨ e = -1074 := by
      by_cases he1 : e = -1074
      · exact .inr he1
      · -- above the subnormals the significand is past `2^52`, as `m = 2^52` is the boundary
        have : 2 ^ 52 + 1 ≤ m := by
          have := hfit.normal.resolve_left he1
          have := hfit.exp_ge
          omega
        have : (2 : ℚ) ^ 52 + 1 ≤ m := by exact_mod_cast this
        exact .inl (by nlinarith)
    have hq := exponent_eq hnum hden hbig (by nlinarith) hfit.exp_ge
    have ht : roundAt num den e = m := roundAt_eq hden hlo hhi
    rw [ofRatio_of_roundAt hnum hden hq ht, if_neg (by have := hfit.sig_lt; omega)]

end Binary64

end RankAdvisor
