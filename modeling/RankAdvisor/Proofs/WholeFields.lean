import Mathlib.Data.List.TakeWhile
import RankAdvisor.Market.Field
import RankAdvisor.Proofs.NumberText
import RankAdvisor.Proofs.Binary64Rounding
import RankAdvisor.Proofs.FeedFailures

/-! # Whole-number fields

A whole-number field is read twice over. The whole-number grammar takes a signed run of ASCII
digits, with single underscores between them, of at most `maxWholeDigits` digits; when it
fails, the decimal grammar reads the text as a double, which is cut toward zero, and an
infinite double overflows.

For a signed run of digits this gives its value when the run is short enough. Followed by
`.0`, or too long for the whole-number grammar, the run goes through a double: the field
reads the value rounded to the nearest double, which is the value itself up to `2^53` and
may differ past it. Whatever the text, the field reads a whole number, fails as unreadable,
or overflows, and it overflows only on a text that reads as an infinite decimal.
-/

namespace RankAdvisor

set_option autoImplicit false

namespace Numeral

open Json (IsDigits)

/-! ## Runs of ASCII digits -/

theorem isAsciiDigit_of {c : Char} (h : '0' ≤ c ∧ c ≤ '9') : Text.isAsciiDigit c = true := by
  simp [Text.isAsciiDigit, h.1, h.2]

theorem digitRun_append {ds : List Char} (h : IsDigits ds) (r : List Char) (acc n : Nat) :
    digitRun (ds ++ r) acc n = digitRun r (Nat.ofDigitChars 10 ds acc) (n + ds.length) := by
  induction ds generalizing acc n with
  | nil => simp [Nat.ofDigitChars_nil]
  | cons c ds ih =>
    have hc := h c List.mem_cons_self
    rw [List.cons_append, digitRun, if_pos (isAsciiDigit_of hc),
      ih (fun d hd => h d (List.mem_cons_of_mem _ hd)), Nat.ofDigitChars_cons, List.length_cons,
      Nat.add_assoc, Nat.add_comm 1, Nat.mul_comm]
    rfl

theorem digitRun_digits {ds : List Char} (h : IsDigits ds) (acc n : Nat) :
    digitRun ds acc n = (Nat.ofDigitChars 10 ds acc, n + ds.length, []) := by
  simpa [digitRun] using digitRun_append h [] acc n

theorem runAfterDigit_append {ds : List Char} (h : IsDigits ds) {r : List Char}
    (hr : r = [] ∨ ∃ c r', r = c :: r' ∧ c ≠ '_' ∧ Text.isAsciiDigit c = false) :
    runAfterDigit (ds ++ r) = some (ds, r) := by
  induction ds with
  | nil =>
    rcases hr with rfl | ⟨c, r', rfl, hc, hnd⟩
    · rfl
    · rw [List.nil_append, runAfterDigit.eq_3 _ _ (fun _ _ h => absurd h hc) (fun h => absurd h hc), hnd]
      rfl
  | cons d ds ih =>
    have hd := h d List.mem_cons_self
    have hne : d ≠ '_' := by rintro rfl; revert hd; decide
    rw [List.cons_append, runAfterDigit.eq_3 _ _ (fun _ _ h => absurd h hne) (fun h => absurd h hne),
      if_pos (isAsciiDigit_of hd), ih (fun x hx => h x (List.mem_cons_of_mem _ hx))]
    rfl

theorem underscoredRun_append {ds : List Char} (h : IsDigits ds) (hne : ds ≠ []) {r : List Char}
    (hr : r = [] ∨ ∃ c r', r = c :: r' ∧ c ≠ '_' ∧ Text.isAsciiDigit c = false) :
    underscoredRun (ds ++ r) = some (ds, r) := by
  obtain ⟨d, ds, rfl⟩ := List.exists_cons_of_ne_nil hne
  rw [List.cons_append, underscoredRun, if_pos (isAsciiDigit_of (h d List.mem_cons_self)),
    runAfterDigit_append (fun x hx => h x (List.mem_cons_of_mem _ hx)) hr]
  rfl

/-! ## Signs and plain characters -/

/-- A sign written before a numeral: none, `+` or `-`. -/
def IsSign (sign : List Char) : Prop := sign = [] ∨ sign = ['+'] ∨ sign = ['-']

/-- The value a sign gives a magnitude: `-` negates it, `+` or no sign keep it. -/
def signed (sign : List Char) (n : Nat) : Int := if sign = ['-'] then -(n : Int) else n

/-- A character a numeral may hold as it is: ASCII, not a blank, not an underscore. -/
def PlainChar (c : Char) : Prop := c.toNat < 127 ∧ isAsciiBlank c = false ∧ c ≠ '_'

theorem plainChar_digit {c : Char} (h : '0' ≤ c ∧ c ≤ '9') : PlainChar c := by
  have h1 : 48 ≤ c.toNat := h.1
  have h2 : c.toNat ≤ 57 := h.2
  refine ⟨by omega, ?_, by rintro rfl; revert h; decide⟩
  simp only [isAsciiBlank, Bool.or_eq_false_iff, beq_eq_false_iff_ne]
  refine ⟨⟨⟨⟨⟨?_, ?_⟩, ?_⟩, ?_⟩, ?_⟩, ?_⟩ <;> rintro rfl <;> revert h <;> decide

theorem plainChar_signed {sign rest : List Char} (hsign : IsSign sign)
    (hrest : ∀ c ∈ rest, PlainChar c) : ∀ c ∈ sign ++ rest, PlainChar c := by
  intro c hc
  rcases List.mem_append.1 hc with hc | hc
  · rcases hsign with rfl | rfl | rfl <;> simp only [List.mem_cons, List.not_mem_nil, or_false] at hc <;>
      subst hc <;> exact ⟨by decide, by decide, by decide⟩
  · exact hrest c hc

theorem takeSign_head {sign r : List Char} {c : Char} (hsign : IsSign sign) (hc : '0' ≤ c ∧ c ≤ '9') :
    takeSign (sign ++ c :: r) = (decide (sign = ['-']), c :: r) := by
  rcases hsign with rfl | rfl | rfl
  · have h1 : c ≠ '-' := by rintro rfl; revert hc; decide
    have h2 : c ≠ '+' := by rintro rfl; revert hc; decide
    simp [takeSign, h1, h2]
  · rfl
  · rfl

theorem dropWhile_blank_plain {cs : List Char} (h : ∀ c ∈ cs, PlainChar c) :
    cs.dropWhile isAsciiBlank = cs :=
  List.dropWhile_eq_self_iff.2 fun hl => by simp [(h _ (List.getElem_mem hl)).2.1]

theorem trimAscii_plain {cs : List Char} (h : ∀ c ∈ cs, PlainChar c) : trimAscii cs = cs := by
  have hright : cs.reverse.dropWhile isAsciiBlank = cs.reverse :=
    dropWhile_blank_plain fun c hc => h c (List.mem_reverse.1 hc)
  rw [trimAscii, dropWhile_blank_plain h, hright, List.reverse_reverse]

theorem toAsciiMarked_ascii {cs : List Char} (h : ∀ c ∈ cs, PlainChar c) :
    toAsciiMarked (String.ofList cs) = cs := by
  unfold toAsciiMarked
  rw [String.toList_ofList]
  conv => rhs; rw [← List.map_id cs]
  exact List.map_congr_left fun c hc => if_pos (h c hc).1

theorem toAscii_ascii {cs : List Char} (h : ∀ c ∈ cs, PlainChar c) :
    toAscii (String.ofList cs) = some cs := by
  unfold toAscii
  rw [String.toList_ofList]
  induction cs with
  | nil => rfl
  | cons c cs ih =>
    rw [List.mapM_cons, if_pos (h c List.mem_cons_self).1,
      ih (fun d hd => h d (List.mem_cons_of_mem _ hd))]
    rfl

theorem underscoresFit_plain {prev : Char} {cs : List Char} (hprev : prev ≠ '_') (h : '_' ∉ cs) :
    underscoresFit prev cs = true := by
  induction cs generalizing prev with
  | nil => simpa [underscoresFit] using hprev
  | cons c cs ih =>
    have hc : c ≠ '_' := fun hc => h (hc ▸ List.mem_cons_self)
    simp [underscoresFit, hc, hprev, ih hc (fun hm => h (List.mem_cons_of_mem _ hm))]

theorem lowerAscii_digit {d : Char} (hd : '0' ≤ d ∧ d ≤ '9') (r : List Char) :
    lowerAscii (d :: r) = d :: lowerAscii r := by
  have hlow : d.toLower = d := by
    unfold Char.toLower
    rw [dif_neg]
    rintro ⟨h, -⟩
    exact absurd (Nat.le_trans h hd.2) (by decide)
  simp only [lowerAscii, List.map_cons, hlow]

/-! ## The whole-number grammar -/

theorem readWholeText_run {sign ds r : List Char} (hsign : IsSign sign) (hds : IsDigits ds)
    (hne : ds ≠ []) (hr : ∀ c ∈ r, PlainChar c)
    (hrun : r = [] ∨ ∃ c r', r = c :: r' ∧ c ≠ '_' ∧ Text.isAsciiDigit c = false) :
    readWholeText (String.ofList (sign ++ ds ++ r)) =
      if maxWholeDigits < ds.length then .tooLong ds.length
      else if r = [] then .value (signed sign (Nat.ofDigitChars 10 ds 0)) else .malformed := by
  obtain ⟨d, ds', rfl⟩ := List.exists_cons_of_ne_nil hne
  have hd := hds d List.mem_cons_self
  have hplain : ∀ c ∈ sign ++ (d :: ds' ++ r), PlainChar c :=
    plainChar_signed hsign fun c hc => (List.mem_append.1 hc).elim (fun hc => plainChar_digit (hds c hc)) (hr c)
  unfold readWholeText
  rw [List.append_assoc, toAsciiMarked_ascii hplain, dropWhile_blank_plain hplain, List.cons_append,
    takeSign_head hsign hd]
  dsimp only
  rw [← List.cons_append, underscoredRun_append hds hne hrun]
  dsimp only
  by_cases hlen : maxWholeDigits < (d :: ds').length
  · rw [if_pos hlen, if_pos hlen]
  rw [if_neg hlen, if_neg hlen]
  rcases hrun with rfl | ⟨c, r', rfl, -, -⟩
  · simp only [List.isEmpty_cons, List.all_nil, Bool.not_true, Bool.or_false, Bool.false_eq_true,
      if_false, if_true, signed, digitRun_digits hds, decide_eq_true_eq]
  · have hc : isAsciiBlank c = false := (hr c List.mem_cons_self).2.1
    simp [hc]

theorem readWhole?_signed {sign ds : List Char} (hsign : IsSign sign) (hds : IsDigits ds)
    (hne : ds ≠ []) (hlen : ds.length ≤ maxWholeDigits) :
    readWhole? (String.ofList (sign ++ ds)) = some (signed sign (Nat.ofDigitChars 10 ds 0)) := by
  have h := readWholeText_run hsign hds hne (r := []) (by simp) (.inl rfl)
  rw [List.append_nil, if_neg (Nat.not_lt.2 hlen), if_pos rfl] at h
  rw [readWhole?, h]

theorem readWhole?_tooLong {sign ds : List Char} (hsign : IsSign sign) (hds : IsDigits ds)
    (hlen : maxWholeDigits < ds.length) : readWhole? (String.ofList (sign ++ ds)) = none := by
  have hne : ds ≠ [] := List.ne_nil_of_length_pos (Nat.lt_of_le_of_lt (Nat.zero_le _) hlen)
  have h := readWholeText_run hsign hds hne (r := []) (by simp) (.inl rfl)
  rw [List.append_nil, if_pos hlen] at h
  rw [readWhole?, h]

theorem readWhole?_pointZero {sign ds : List Char} (hsign : IsSign sign) (hds : IsDigits ds)
    (hne : ds ≠ []) : readWhole? (String.ofList (sign ++ ds ++ ['.', '0'])) = none := by
  have hplain : ∀ c ∈ ['.', '0'], PlainChar c := by
    simp only [List.mem_cons, List.not_mem_nil, or_false]
    rintro c (rfl | rfl) <;> exact ⟨by decide, by decide, by decide⟩
  have h := readWholeText_run hsign hds hne hplain (.inr ⟨'.', ['0'], rfl, by decide, by decide⟩)
  rw [if_neg (List.cons_ne_nil _ _)] at h
  rw [readWhole?, h]
  by_cases hlen : maxWholeDigits < ds.length
  · rw [if_pos hlen]
  · rw [if_neg hlen]

/-! ## The decimal grammar -/

theorem readDecimal?_signed {sign : List Char} {d : Char} {rest : List Char} (hsign : IsSign sign)
    (hd : '0' ≤ d ∧ d ≤ '9') (hplain : ∀ c ∈ d :: rest, PlainChar c) :
    readDecimal? (String.ofList (sign ++ d :: rest)) =
      (unsignedDecimal (d :: rest)).map fun p => Binary64.ofDecimal (decide (sign = ['-'])) p.1 p.2 := by
  have hall := plainChar_signed hsign hplain
  have hfit : underscoresFit ' ' (sign ++ d :: rest) = true :=
    underscoresFit_plain (by decide) fun h => (hall '_' h).2.2 rfl
  have hfilter : (sign ++ d :: rest).filter (· != '_') = sign ++ d :: rest :=
    List.filter_eq_self.2 fun c hc => by simpa using (hall c hc).2.2
  -- the body starts with a digit, so it spells no infinity and no NaN
  have hword : ∀ w : List Char, w ≠ [] → (∀ c ∈ w.head?, c = 'i' ∨ c = 'n') →
      (lowerAscii (d :: rest) == w) = false := by
    intro w hw hhead
    obtain ⟨c, w, rfl⟩ := List.exists_cons_of_ne_nil hw
    have hdc : d ≠ c := by
      rintro rfl
      rcases hhead d rfl with rfl | rfl <;> revert hd <;> decide
    simp [lowerAscii_digit hd, hdc]
  unfold readDecimal?
  rw [toAscii_ascii hall]
  simp only [Option.bind_eq_bind, Option.bind_some]
  rw [hfit, hfilter, trimAscii_plain hall, takeSign_head hsign hd]
  simp only [Bool.not_true, Bool.false_eq_true, if_false]
  rw [hword "inf".toList (by simp) (by simp), hword "infinity".toList (by simp) (by simp),
    hword "nan".toList (by simp) (by simp)]
  simp only [Bool.or_false, Bool.false_eq_true, if_false]
  cases unsignedDecimal (d :: rest) <;> rfl

theorem unsignedDecimal_whole {ds : List Char} (h : IsDigits ds) (hne : ds ≠ []) :
    unsignedDecimal ds = some (Nat.ofDigitChars 10 ds 0, 0) := by
  unfold unsignedDecimal
  rw [digitRun_digits h]
  have hlen : ds.length ≠ 0 := by simpa using hne
  simp [hlen]

theorem unsignedDecimal_pointZero {ds : List Char} (h : IsDigits ds) :
    unsignedDecimal (ds ++ ['.', '0']) = some (Nat.ofDigitChars 10 ds 0 * 10, -1) := by
  unfold unsignedDecimal
  rw [digitRun_append h]
  simp [digitRun, Text.isAsciiDigit]

theorem readDecimal?_whole {sign ds : List Char} (hsign : IsSign sign) (hds : IsDigits ds)
    (hne : ds ≠ []) :
    readDecimal? (String.ofList (sign ++ ds)) =
      some (Binary64.ofDecimal (decide (sign = ['-'])) (Nat.ofDigitChars 10 ds 0) 0) := by
  obtain ⟨d, r, rfl⟩ := List.exists_cons_of_ne_nil hne
  rw [readDecimal?_signed hsign (hds d List.mem_cons_self) fun c hc => plainChar_digit (hds c hc),
    unsignedDecimal_whole hds hne]
  rfl

theorem readDecimal?_pointZero {sign ds : List Char} (hsign : IsSign sign) (hds : IsDigits ds)
    (hne : ds ≠ []) :
    readDecimal? (String.ofList (sign ++ ds ++ ['.', '0'])) =
      some (Binary64.ofDecimal (decide (sign = ['-'])) (Nat.ofDigitChars 10 ds 0 * 10) (-1)) := by
  obtain ⟨d, r, rfl⟩ := List.exists_cons_of_ne_nil hne
  have hplain : ∀ c ∈ d :: (r ++ ['.', '0']), PlainChar c := by
    intro c hc
    rcases List.mem_append.1 (List.cons_append ▸ hc : c ∈ d :: r ++ ['.', '0']) with hc | hc
    · exact plainChar_digit (hds c hc)
    · simp only [List.mem_cons, List.not_mem_nil, or_false] at hc
      rcases hc with rfl | rfl <;> exact ⟨by decide, by decide, by decide⟩
  rw [List.append_assoc, List.cons_append, readDecimal?_signed hsign (hds d List.mem_cons_self) hplain,
    ← List.cons_append, unsignedDecimal_pointZero hds]
  rfl

end Numeral

namespace Binary64

/-! ## Ratios that scale -/

theorem roundHalfEven_mul_mul {k n d : Nat} (hk : 0 < k) :
    roundHalfEven (k * n) (k * d) = roundHalfEven n d := by
  unfold roundHalfEven
  rw [Nat.mul_div_mul_left _ _ hk, Nat.mul_mod_mul_left]
  have hlt : (k * d < 2 * (k * (n % d))) ↔ (d < 2 * (n % d)) := by
    rw [show 2 * (k * (n % d)) = k * (2 * (n % d)) by ring]
    exact Nat.mul_lt_mul_left hk
  have heq : (2 * (k * (n % d)) = k * d) ↔ (2 * (n % d) = d) := by
    rw [show 2 * (k * (n % d)) = k * (2 * (n % d)) by ring]
    exact Nat.mul_left_cancel_iff hk
  simp only [Bool.or_eq_true, decide_eq_true_eq, Bool.and_eq_true, beq_iff_eq, hlt, heq]

theorem floorLog2_mul_mul {k num den : Nat} (hk : 0 < k) (hnum : 0 < num) (hden : 0 < den) :
    floorLog2 (k * num) (k * den) = floorLog2 num den := by
  have hratio : ((k * num : Nat) : ℚ) / ((k * den : Nat) : ℚ) = num / den := by
    push_cast
    rw [mul_div_mul_left _ _ (by exact_mod_cast hk.ne')]
  obtain ⟨hlo, hhi⟩ := floorLog2_spec hnum hden
  exact floorLog2_eq (Nat.mul_pos hk hnum) (Nat.mul_pos hk hden) (hratio ▸ hlo) (hratio ▸ hhi)

theorem ofRatio_mul_mul (neg : Bool) {k : Nat} (hk : 0 < k) (num den : Nat) :
    ofRatio neg (k * num) (k * den) = ofRatio neg num den := by
  by_cases h0 : num = 0 ∨ den = 0
  · have h0' : k * num = 0 ∨ k * den = 0 := by
      rcases h0 with h | h <;> simp [h]
    simp only [ofRatio, if_pos h0, if_pos h0']
  · have h0' : ¬(k * num = 0 ∨ k * den = 0) := by
      simp only [Nat.mul_eq_zero, not_or] at h0 ⊢
      omega
    simp only [ofRatio, if_neg h0, if_neg h0']
    rw [floorLog2_mul_mul hk (by omega) (by omega)]
    simp only [Nat.shiftLeft_eq, Nat.mul_assoc, roundHalfEven_mul_mul hk]


theorem roundHalfEven_ge (n d : Nat) : n / d ≤ roundHalfEven n d := by
  unfold roundHalfEven
  dsimp only
  split <;> omega

theorem floorLog2_whole {v : Nat} (hv : 0 < v) : floorLog2 v 1 = Nat.log2 v := by
  have hle : 2 ^ Nat.log2 v ≤ v := Nat.log2_self_le (by omega)
  have h1 : Nat.log2 1 = 0 := by decide
  simp [floorLog2, atLeastPow2, Nat.shiftLeft_eq, h1, hle]

theorem pack_of_large (neg : Bool) {m : Nat} {q : Int} (hm : 2 ^ 52 ≤ m) (hq : 971 < q) :
    pack neg m q = infinity neg := by
  have hsub : ¬ m < Nat.pow 2 52 := by simp only [Nat.pow_eq]; omega
  simp only [pack, if_neg hsub, if_pos hq]
  cases neg <;> rfl

theorem ofRatio_of_huge (neg : Bool) {v : Nat} (h : 1025 ≤ Nat.log2 v) :
    ofRatio neg v 1 = infinity neg := by
  have hv : 0 < v := Nat.pos_of_ne_zero fun h0 => by simp [h0] at h
  have hle : 2 ^ Nat.log2 v ≤ v := Nat.log2_self_le (by omega)
  set k := Nat.log2 v - 52 with hk
  have hq : max (floorLog2 v 1 - 52) (-1074) = (k : Int) := by
    rw [floorLog2_whole hv]; omega
  -- the significand is at least `v / 2^k`, which is at least `2^52`
  have hm : 2 ^ 52 ≤ roundAt v 1 k := by
    have hsplit : 2 ^ Nat.log2 v = 2 ^ 52 * 2 ^ k := by rw [← Nat.pow_add]; congr 1; omega
    have hdiv : 2 ^ 52 ≤ v / 2 ^ k :=
      (Nat.le_div_iff_mul_le (by positivity)).2 (hsplit ▸ hle)
    simp only [roundAt, Int.natCast_nonneg, if_true, Int.toNat_natCast, Nat.one_shiftLeft]
    exact hdiv.trans (roundHalfEven_ge _ _)
  rw [ofRatio_of_roundAt hv one_pos hq rfl]
  split
  · exact pack_of_large neg le_rfl (by omega)
  · exact pack_of_large neg hm (by omega)

/-! ## Whole numbers written as decimals -/

theorem ofDecimal_whole (neg : Bool) (v : Nat) : ofDecimal neg v 0 = ofRatio neg v 1 := by
  unfold ofDecimal
  by_cases h0 : v = 0
  · simp [h0, ofRatio]
  · rw [if_neg h0]
    simp only [le_refl, if_true, mul_zero, add_zero, Int.toNat_zero]
    split
    · exact (ofRatio_of_huge neg (by omega)).symm
    · rw [show Nat.pow 10 0 = 1 from rfl, Nat.mul_one]

theorem ofDecimal_pointZero (neg : Bool) (v : Nat) :
    ofDecimal neg (v * 10) (-1) = ofRatio neg v 1 := by
  unfold ofDecimal
  by_cases h0 : v = 0
  · simp [h0, ofRatio]
  · rw [if_neg (by omega)]
    have hfar : ¬ ((Nat.log2 (v * 10) : Int) + 1 + 3 * -1 < -1076) := by omega
    simp only [show ¬ (0 : Int) ≤ -1 by omega, if_false, hfar]
    rw [show Nat.pow 10 (-(-1 : Int)).toNat = 10 * 1 from rfl, Nat.mul_comm v 10]
    exact ofRatio_mul_mul neg (by omega) v 1

/-! ## Cutting a double to a whole number -/

theorem truncate?_of_whole {x : Binary64} {neg : Bool} {m n : Nat} {e : Int}
    (hx : x.view = .finite neg m e) (hn : (n : ℚ) = m * 2 ^ e) :
    x.truncate? = some (if neg then -(n : Int) else n) := by
  simp only [truncate?, hx, Option.some.injEq, Nat.pow_eq]
  have ha : (if 0 ≤ e then m * 2 ^ e.toNat else m / 2 ^ (-e).toNat) = n := by
    split
    · obtain ⟨k, rfl⟩ := Int.eq_ofNat_of_zero_le ‹0 ≤ e›
      rw [zpow_natCast] at hn
      rw [Int.toNat_natCast]
      exact_mod_cast hn.symm
    · obtain ⟨k, rfl⟩ : ∃ k : Nat, e = -k := ⟨(-e).toNat, by omega⟩
      have hm : (m : ℚ) = n * 2 ^ k := by
        rw [hn, zpow_neg, zpow_natCast, mul_assoc, inv_mul_cancel₀ (by positivity), mul_one]
      rw [neg_neg, Int.toNat_natCast, show m = n * 2 ^ k by exact_mod_cast hm,
        Nat.mul_div_cancel _ (by positivity)]
  rw [ha]

theorem ofRatio_zero (neg : Bool) (den : Nat) : ofRatio neg 0 den = zero neg := by
  simp [ofRatio]

theorem truncate?_zero (neg : Bool) : (zero neg).truncate? = some 0 := by
  have hfit : Fits 0 (-1074) := ⟨by norm_num, le_rfl, by norm_num, .inl rfl⟩
  rw [← Json.pack_zero neg (-1074), truncate?_of_whole (n := 0) (view_pack neg hfit) (by simp)]
  simp

theorem ofRatio_exact (neg : Bool) {n m : Nat} {e : Int} (hm : 0 < m) (hfit : Fits m e)
    (hn : (n : ℚ) = m * 2 ^ e) : ofRatio neg n 1 = pack neg m e := by
  have hpos : 0 < n := by
    have : (0 : ℚ) < n := by rw [hn]; positivity
    exact_mod_cast this
  apply ofRatio_eq_pack hm hfit hpos one_pos
  rw [Nat.cast_one, div_one, hn]
  exact ⟨.inl (lo_lt_value e hm), .inl (value_lt_hi m e)⟩

theorem exists_fits {n : Nat} (hn : 0 < n) (h : n ≤ 2 ^ 53) :
    ∃ m e, 0 < m ∧ Fits m e ∧ (n : ℚ) = m * 2 ^ e := by
  rcases h.lt_or_eq with h | rfl
  · -- at most 53 bits: shift them up to fill the significand
    set k := Nat.log2 n with hk
    have hlo : 2 ^ k ≤ n := Nat.log2_self_le (by omega)
    have hhi : n < 2 ^ (k + 1) := Nat.lt_log2_self
    have hk52 : k ≤ 52 := by
      have : k < 53 := (Nat.log2_lt (by omega)).2 h
      omega
    refine ⟨n * 2 ^ (52 - k), (k : Int) - 52, by positivity,
      ⟨?_, by omega, by omega, .inr ?_⟩, ?_⟩
    · calc n * 2 ^ (52 - k) < 2 ^ (k + 1) * 2 ^ (52 - k) :=
            Nat.mul_lt_mul_of_pos_right hhi (by positivity)
        _ = 2 ^ 53 := by rw [← Nat.pow_add]; congr 1; omega
    · calc 2 ^ 52 = 2 ^ k * 2 ^ (52 - k) := by rw [← Nat.pow_add]; congr 1; omega
        _ ≤ n * 2 ^ (52 - k) := Nat.mul_le_mul_right _ hlo
    · push_cast
      rw [mul_assoc, ← zpow_natCast, ← zpow_add₀ two_ne_zero,
        show ((52 - k : Nat) : Int) + ((k : Int) - 52) = 0 by omega, zpow_zero, mul_one]
  · exact ⟨2 ^ 52, 1, by positivity, ⟨by norm_num, by norm_num, by norm_num, .inr le_rfl⟩,
      by push_cast; norm_num⟩

theorem truncate?_ofInt {N : Int} (h : N.natAbs ≤ 2 ^ 53) : (ofInt N).truncate? = some N := by
  unfold ofInt
  rcases Nat.eq_zero_or_pos N.natAbs with h0 | hpos
  · obtain rfl := Int.natAbs_eq_zero.1 h0
    rw [Int.natAbs_zero, ofRatio_zero, truncate?_zero]
  · obtain ⟨m, e, hm, hfit, hn⟩ := exists_fits hpos h
    rw [ofRatio_exact _ hm hfit hn, truncate?_of_whole (view_pack _ hfit) hn]
    congr 1
    by_cases hneg : N < 0
    · rw [if_pos (decide_eq_true hneg)]; omega
    · rw [if_neg (by simpa using hneg)]; omega

end Binary64

open Json (IsDigits)

theorem Binary64.truncate?_ofRatio_signed (sign : List Char) (v : Nat) :
    (Binary64.ofRatio (decide (sign = ['-'])) v 1).truncate? =
      (Binary64.ofInt (Numeral.signed sign v)).truncate? := by
  rcases Nat.eq_zero_or_pos v with rfl | hv
  · have h0 : Numeral.signed sign 0 = 0 := by simp [Numeral.signed]
    rw [h0, Binary64.ofInt, Binary64.ofRatio_zero, Int.natAbs_zero, Binary64.ofRatio_zero,
      Binary64.truncate?_zero, Binary64.truncate?_zero]
  · unfold Binary64.ofInt Numeral.signed
    have hnn : ¬ (v : Int) < 0 := by omega
    by_cases hs : sign = ['-'] <;> simp [hs, hv, hnn]

namespace Field

open Numeral

theorem readWhole_of_decimal {v : Json} {field t : String} {x : Binary64}
    (ht : clean v field = .ok t) (hw : readWhole? t = none) (hx : readDecimal? t = some x)
    (n : Int) : readWhole v field = .ok n ↔ x.truncate? = some n := by
  simp only [readWhole, ht, hw, hx, bind, Except.bind]
  cases hv : x.view <;> simp [Binary64.isNaN, Binary64.isInf, Binary64.truncate?, hv, throw, throwThe, MonadExceptOf.throw, pure, Except.pure]

theorem readWhole_signed {v : Json} {field t : String} {sign ds : List Char}
    (ht : clean v field = .ok t) (htext : t.toList = sign ++ ds) (hsign : IsSign sign)
    (hds : IsDigits ds) (hne : ds ≠ []) (hlen : ds.length ≤ maxWholeDigits) :
    readWhole v field = .ok (signed sign (Nat.ofDigitChars 10 ds 0)) := by
  have hw : readWhole? t = some (signed sign (Nat.ofDigitChars 10 ds 0)) := by
    rw [← String.ofList_toList (s := t), htext]
    exact readWhole?_signed hsign hds hne hlen
  simp only [readWhole, ht, hw, bind, Except.bind, pure, Except.pure]

theorem decimal_of_numeral {t : String} {sign ds : List Char} (hsign : IsSign sign)
    (hds : IsDigits ds) (hne : ds ≠ [])
    (htext : t.toList = sign ++ ds ++ ['.', '0'] ∨
      t.toList = sign ++ ds ∧ maxWholeDigits < ds.length) :
    ∃ x, readWhole? t = none ∧ readDecimal? t = some x ∧
      x.truncate? = (Binary64.ofInt (signed sign (Nat.ofDigitChars 10 ds 0))).truncate? := by
  rw [← Binary64.truncate?_ofRatio_signed]
  rcases htext with htext | ⟨htext, hlen⟩
  · refine ⟨_, ?_, ?_, congrArg _ (Binary64.ofDecimal_pointZero _ _)⟩
    · rw [← String.ofList_toList (s := t), htext]
      exact readWhole?_pointZero hsign hds hne
    · rw [← String.ofList_toList (s := t), htext]
      exact readDecimal?_pointZero hsign hds hne
  · refine ⟨_, ?_, ?_, congrArg _ (Binary64.ofDecimal_whole _ _)⟩
    · rw [← String.ofList_toList (s := t), htext]
      exact readWhole?_tooLong hsign hds hlen
    · rw [← String.ofList_toList (s := t), htext]
      exact readDecimal?_whole hsign hds hne

/-- A numeral read through a double gives the value rounded to the nearest double, cut to
a whole number. -/
theorem readWhole_through_double {v : Json} {field t : String} {sign ds : List Char}
    (ht : clean v field = .ok t) (hsign : IsSign sign) (hds : IsDigits ds) (hne : ds ≠ [])
    (htext : t.toList = sign ++ ds ++ ['.', '0'] ∨
      t.toList = sign ++ ds ∧ maxWholeDigits < ds.length) (n : Int) :
    readWhole v field = .ok n ↔
      (Binary64.ofInt (signed sign (Nat.ofDigitChars 10 ds 0))).truncate? = some n := by
  obtain ⟨x, hw, hx, hcut⟩ := decimal_of_numeral hsign hds hne htext
  rw [readWhole_of_decimal ht hw hx, hcut]

/-- The ways a whole-number field ends: a whole number, an unreadable value, or an overflow
that comes only from a text that reads as an infinite decimal. -/
theorem readWhole_outcomes (v : Json) (field : String) :
    (∃ n, readWhole v field = .ok n) ∨ (∃ f, readWhole v field = .error f ∧ f.kind = .parse) ∨
      (readWhole v field = .error (Fault.overflow "cannot convert float infinity to integer") ∧
        ∃ t x, clean v field = .ok t ∧ readWhole? t = none ∧ readDecimal? t = some x ∧
          x.isInf = true) := by
  cases hc : clean v field with
  | error f =>
    have hkind := MarketData.clean_ends v field
    rw [hc] at hkind
    exact .inr (.inl ⟨f, by simp [readWhole, hc, bind, Except.bind], hkind⟩)
  | ok t =>
    cases hw : readWhole? t with
    | some n => exact .inl ⟨n, by simp [readWhole, hc, hw, bind, Except.bind, pure, Except.pure]⟩
    | none =>
      cases hx : readDecimal? t with
      | none =>
        exact .inr (.inl ⟨_, by simp only [readWhole, hc, hw, hx, bind, Except.bind]; rfl, by rfl⟩)
      | some x =>
        -- past the readings, the field follows the decimal: NaN and a failed cut are unreadable
        simp only [readWhole, hc, hw, hx, bind, Except.bind]
        by_cases hnan : x.isNaN = true
        · rw [if_pos hnan]
          exact .inr (.inl ⟨_, rfl, rfl⟩)
        by_cases hinf : x.isInf = true
        · rw [if_neg hnan, if_pos hinf]
          exact .inr (.inr ⟨rfl, t, x, rfl, hw, hx, hinf⟩)
        rw [if_neg hnan, if_neg hinf]
        cases x.truncate? with
        | some n => exact .inl ⟨n, rfl⟩
        | none => exact .inr (.inl ⟨_, rfl, rfl⟩)

/-- What a whole-number field reads: unless its text is an infinite decimal, a whole number
or unreadable; a signed run of digits reads as its value, and one with `.0` or too many
digits goes through a double. -/
theorem whole_fields_read (v : Json) (field : String) :
    ((∀ t x, clean v field = .ok t → readWhole? t = none → readDecimal? t = some x →
        x.isInf = false) →
      (∃ n, readWhole v field = .ok n) ∨ ∃ f, readWhole v field = .error f ∧ f.kind = .parse) ∧
    ∀ t sign ds, clean v field = .ok t → IsSign sign → IsDigits ds → ds ≠ [] →
      (t.toList = sign ++ ds → ds.length ≤ maxWholeDigits →
        readWhole v field = .ok (signed sign (Nat.ofDigitChars 10 ds 0))) ∧
      (t.toList = sign ++ ds ++ ['.', '0'] ∨ t.toList = sign ++ ds ∧ maxWholeDigits < ds.length →
        (∀ n, readWhole v field = .ok n ↔
          (Binary64.ofInt (signed sign (Nat.ofDigitChars 10 ds 0))).truncate? = some n) ∧
        ((signed sign (Nat.ofDigitChars 10 ds 0)).natAbs ≤ 2 ^ 53 →
          readWhole v field = .ok (signed sign (Nat.ofDigitChars 10 ds 0)))) := by
  refine ⟨fun hfinite => ?_, fun t sign ds ht hsign hds hne => ⟨?_, fun htext => ?_⟩⟩
  · rcases readWhole_outcomes v field with hok | hparse | ⟨_, t, x, ht, hw, hx, hinf⟩
    · exact .inl hok
    · exact .inr hparse
    · exact absurd (hfinite t x ht hw hx) (by simp [hinf])
  · exact fun htext hlen => readWhole_signed ht htext hsign hds hne hlen
  · have hread := readWhole_through_double ht hsign hds hne htext
    exact ⟨hread, fun hsmall => (hread _).2 (Binary64.truncate?_ofInt hsmall)⟩

theorem whole_fields_read_thousands :
    readWhole (.str "-1,234.0") "acml_vol" = .ok (-1234) :=
  ((whole_fields_read (.str "-1,234.0") "acml_vol").2 "-1234.0" ['-'] ['1', '2', '3', '4'] rfl
    (.inr (.inr rfl)) (by simp [Json.IsDigits]) (by simp)).2 (.inl rfl) |>.2 (by decide)

/-- A whole number past `2^53` written with `.0` is read through a double and comes back
rounded. -/
theorem whole_field_rounds_through_double :
    readWhole (.str "9007199254740993.0") "value" = .ok 9007199254740992 :=
  rfl

end Field

end RankAdvisor
