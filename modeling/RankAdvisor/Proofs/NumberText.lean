import RankAdvisor.Proofs.ShortestDecimal
import RankAdvisor.Json.Read
import RankAdvisor.Json.Write

/-! # The text of a double reads back as the double

A finite double is written as the shortest digits that round back to it, with the point
placed among them or an exponent after the first. This module shows that `readNumber` takes
either spelling apart into its sign, digits and exponent (`readNumber_text`), that both
spellings carry the value of the shortest digits (`placePoint_text`, `expForm_text`), and so
that the text of every finite double reads back as that same double (`readNumber_toText`),
signed zeros included. `toText_numberChar` lists the characters such a text is made of.
-/

namespace RankAdvisor

set_option autoImplicit false

namespace Json

/-! ## Runs of digits -/

def IsDigits (ds : List Char) : Prop := ∀ c ∈ ds, '0' ≤ c ∧ c ≤ '9'

def NoDigitFirst (r : List Char) : Prop := ∀ c ∈ r.head?, ¬ ('0' ≤ c ∧ c ≤ '9')

theorem IsDigits.append {a b : List Char} (ha : IsDigits a) (hb : IsDigits b) : IsDigits (a ++ b) :=
  fun c hc => (List.mem_append.1 hc).elim (ha c) (hb c)

theorem isDigits_replicate_zero (n : Nat) : IsDigits (List.replicate n '0') := fun c hc => by
  rw [List.eq_of_mem_replicate hc]; decide

theorem isDigits_toDigits (n : Nat) : IsDigits (Nat.toDigits 10 n) := fun c hc => by
  have := Nat.isDigit_of_mem_toDigits (by decide) (by decide) hc
  simp only [Char.isDigit, Bool.and_eq_true, decide_eq_true_eq] at this
  exact ⟨Char.le_def.2 this.1, Char.le_def.2 this.2⟩

theorem toDigits_lead {n : Nat} (hn : 0 < n) :
    ∃ d ds, Nat.toDigits 10 n = d :: ds ∧ '1' ≤ d ∧ d ≤ '9' := by
  induction n using Nat.strong_induction_on with
  | _ n ih =>
    rcases Nat.lt_or_ge n 10 with h | h
    · have hlead : ∀ k < 10, 0 < k → '1' ≤ Nat.digitChar k ∧ Nat.digitChar k ≤ '9' := by decide
      exact ⟨Nat.digitChar n, [], Nat.toDigits_of_lt_base h, hlead n h hn⟩
    · obtain ⟨d, ds, hds, hd⟩ := ih (n / 10) (by omega) (by omega)
      exact ⟨d, ds ++ [Nat.digitChar (n % 10)], by rw [Nat.toDigits_of_base_le (by decide) h, hds]; rfl, hd⟩

theorem spanDigits_append {ds r : List Char} (hds : IsDigits ds) (hr : NoDigitFirst r) :
    spanDigits (ds ++ r) = (ds, r) := by
  induction ds with
  | nil =>
    cases r with
    | nil => rfl
    | cons c r =>
      have := hr c rfl
      simp [spanDigits, this]
  | cons c ds ih =>
    have hc := hds c List.mem_cons_self
    have := ih (fun d hd => hds d (List.mem_cons_of_mem _ hd))
    simp only [spanDigits, Prod.mk.injEq] at this ⊢
    simp [hc, this]

theorem digitsValue_eq (ds : List Char) : digitsValue ds = Nat.ofDigitChars 10 ds 0 := by
  unfold digitsValue Nat.ofDigitChars
  congr 1
  funext n c
  rw [Nat.mul_comm]; rfl

theorem digitsValue_append (a b : List Char) :
    digitsValue (a ++ b) = digitsValue a * 10 ^ b.length + digitsValue b := by
  rw [digitsValue_eq, digitsValue_eq, digitsValue_eq, Nat.ofDigitChars_append,
    Nat.ofDigitChars_eq_ofDigitChars_zero, Nat.mul_comm]

@[simp] theorem digitsValue_replicate_zero (n : Nat) : digitsValue (List.replicate n '0') = 0 := by
  rw [digitsValue_eq, Nat.ofDigitChars_replicate_zero, Nat.mul_zero]

@[simp] theorem digitsValue_toDigits (n : Nat) : digitsValue (Nat.toDigits 10 n) = n := by
  rw [digitsValue_eq, Nat.ofDigitChars_ten_toDigits]

/-! ## The stages of reading a number -/

theorem readMinus_sign (neg : Bool) {c : Char} (r : List Char) (hc : '0' ≤ c ∧ c ≤ '9') :
    readMinus ((if neg then ['-'] else []) ++ c :: r) = (neg, c :: r) := by
  cases neg
  · have : c ≠ '-' := by rintro rfl; revert hc; decide
    simp [readMinus, this]
  · rfl

theorem readWhole_zero (r : List Char) : readWhole ('0' :: r) = some (['0'], r) := rfl

theorem readWhole_digits {c : Char} {ds r : List Char} (hc : '1' ≤ c ∧ c ≤ '9')
    (hds : IsDigits ds) (hr : NoDigitFirst r) : readWhole (c :: ds ++ r) = some (c :: ds, r) := by
  have hall : IsDigits (c :: ds) := fun d hd => (List.mem_cons.1 hd).elim
    (fun h => h ▸ ⟨Char.le_trans (by decide) hc.1, hc.2⟩) (hds d)
  have hspan := spanDigits_append hall hr
  have h0 : c ≠ '0' := by rintro rfl; revert hc; decide
  simp only [List.cons_append] at hspan ⊢
  unfold readWhole
  split
  · rename_i heq
    exact absurd (List.cons.inj heq).1 h0
  · rename_i heq
    obtain ⟨rfl, rfl⟩ := List.cons.inj heq
    rw [if_pos (by simp [hc]), hspan]
  · rename_i heq
    cases heq

theorem readFraction_digits {d : Char} {fs r : List Char} (hfs : IsDigits (d :: fs))
    (hr : NoDigitFirst r) : readFraction ('.' :: d :: fs ++ r) = (some (d :: fs), r) := by
  have hd := hfs d List.mem_cons_self
  have hspan := spanDigits_append hfs hr
  simp only [List.cons_append] at hspan ⊢
  simp [readFraction, hd, hspan]

theorem readFraction_none {r : List Char} (hr : ∀ c ∈ r.head?, c ≠ '.') :
    readFraction r = (none, r) := by
  match r with
  | [] => rfl
  | [c] => unfold readFraction; split <;> simp_all
  | c :: d :: r =>
    have : c ≠ '.' := hr c rfl
    simp [readFraction, this]

theorem readExponent_digits (s : Bool) {x : Char} {xs r : List Char} (hxs : IsDigits (x :: xs))
    (hr : NoDigitFirst r) :
    readExponent ('e' :: (if s then '-' else '+') :: x :: xs ++ r) =
      (some (s, digitsValue (x :: xs)), r) := by
  have hspan := spanDigits_append hxs hr
  simp only [List.cons_append] at hspan ⊢
  cases s <;> simp [readExponent, hspan]

theorem readExponent_none {r : List Char} (hr : ∀ c ∈ r.head?, c ≠ 'e' ∧ c ≠ 'E') :
    readExponent r = (none, r) := by
  match r with
  | [] => rfl
  | c :: r =>
    have := hr c rfl
    simp [readExponent, this.1, this.2]

/-! ## Decimal literals -/

/-- A JSON number with a fraction or an exponent, in the parts the reader takes it apart
into: the sign, the whole digits, the digits after the point (none when empty), and the
sign and digits of the exponent. -/
structure DecimalText where
  neg : Bool
  whole : List Char
  frac : List Char
  expo : Option (Bool × List Char)

/-- The text of an exponent: `e`, its sign, its digits. -/
def expoText : Option (Bool × List Char) → List Char
  | none => []
  | some (s, xs) => 'e' :: (if s then '-' else '+') :: xs

namespace DecimalText

def text (t : DecimalText) : List Char :=
  (if t.neg then ['-'] else []) ++ t.whole ++ ((if t.frac = [] then [] else '.' :: t.frac) ++
    expoText t.expo)

/-- The digits of a literal, read as one whole number. -/
def digits (t : DecimalText) : Nat := digitsValue (t.whole ++ t.frac)

/-- The power of ten the digits are scaled by. -/
def exponent (t : DecimalText) : Int :=
  (match t.expo with
    | none => 0
    | some (s, xs) => if s then -(digitsValue xs : Int) else digitsValue xs) - t.frac.length

/-- A literal as JSON writes one: whole digits `0` or not starting with `0`, digits after
the point, digits in the exponent, and a fraction or an exponent. -/
structure Wf (t : DecimalText) : Prop where
  whole : t.whole = ['0'] ∨ ∃ c ds, t.whole = c :: ds ∧ ('1' ≤ c ∧ c ≤ '9') ∧ IsDigits ds
  frac : IsDigits t.frac
  expo : ∀ s xs, t.expo = some (s, xs) → xs ≠ [] ∧ IsDigits xs
  point : t.frac ≠ [] ∨ t.expo ≠ none

end DecimalText

/-- What may follow a number and stay out of it: no digit and no exponent mark. -/
def NumberEnd (r : List Char) : Prop := ∀ c ∈ r.head?, ¬ ('0' ≤ c ∧ c ≤ '9') ∧ c ≠ 'e' ∧ c ≠ 'E'

theorem readExponent_expoText {e : Option (Bool × List Char)}
    (he : ∀ s xs, e = some (s, xs) → xs ≠ [] ∧ IsDigits xs) {r : List Char} (hr : NumberEnd r) :
    readExponent (expoText e ++ r) = (e.map fun p => (p.1, digitsValue p.2), r) := by
  match e, he with
  | none, _ => exact readExponent_none (fun c hc => (hr c hc).2)
  | some (s, xs), he =>
    obtain ⟨hne, hxs⟩ := he s xs rfl
    obtain ⟨x, xs, rfl⟩ := List.exists_cons_of_ne_nil hne
    exact readExponent_digits s hxs (fun c hc => (hr c hc).1)

theorem noDigitFirst_expoText (e : Option (Bool × List Char)) {r : List Char}
    (hr : NumberEnd r) : NoDigitFirst (expoText e ++ r) := by
  intro c hc
  cases e with
  | none => exact (hr c hc).1
  | some p =>
    simp only [expoText, List.cons_append, List.head?_cons, Option.mem_def,
      Option.some.injEq] at hc
    subst hc; decide

/-- `readNumber` reads a well-formed literal back: the double nearest to its digits scaled by
its power of ten. -/
theorem readNumber_text {t : DecimalText} (h : t.Wf) {r : List Char} (hr : NumberEnd r) :
    readNumber (t.text ++ r) =
      some (.num (Binary64.ofDecimal t.neg t.digits t.exponent), r, 0) := by
  obtain ⟨neg, whole, frac, expo⟩ := t
  -- the sign and the whole digits, then whatever follows them
  have hstart : ∀ tail, NoDigitFirst tail →
      readMinus ((if neg then ['-'] else []) ++ (whole ++ tail)) = (neg, whole ++ tail) ∧
        readWhole (whole ++ tail) = some (whole, tail) := by
    intro tail htail
    rcases h.whole with hw | ⟨c, ds, hw, hc, hds⟩
    · dsimp only at hw
      subst hw
      exact ⟨readMinus_sign neg _ (by decide), readWhole_zero _⟩
    · dsimp only at hw
      subst hw
      rw [List.cons_append]
      exact ⟨readMinus_sign neg _ ⟨Char.le_trans (by decide) hc.1, hc.2⟩,
        readWhole_digits hc hds htail⟩
  have hexpo := readExponent_expoText h.expo hr
  have hend := noDigitFirst_expoText expo hr
  rcases eq_or_ne frac [] with rfl | hf
  · -- no fraction: the exponent follows the whole digits
    obtain ⟨⟨s, xs⟩, rfl⟩ := Option.ne_none_iff_exists'.1 (h.point.resolve_left (by simp))
    have hfrac : readFraction (expoText (some (s, xs)) ++ r) = (none, expoText (some (s, xs)) ++ r) :=
      readFraction_none (by simp [expoText])
    obtain ⟨hm, hw⟩ := hstart _ hend
    simp only [DecimalText.text, if_pos, List.append_assoc, List.nil_append] at hm ⊢
    cases s <;> simp [readNumber, hm, hw, hfrac, hexpo, DecimalText.digits, DecimalText.exponent]
  · obtain ⟨d, fs, rfl⟩ := List.exists_cons_of_ne_nil hf
    have hfrac : readFraction ('.' :: d :: fs ++ (expoText expo ++ r)) =
        (some (d :: fs), expoText expo ++ r) := readFraction_digits h.frac hend
    obtain ⟨hm, hw⟩ := hstart ('.' :: d :: fs ++ (expoText expo ++ r)) (fun c hc => by
      simp only [List.cons_append, List.head?_cons, Option.mem_def, Option.some.injEq] at hc
      subst hc; decide)
    simp only [DecimalText.text, List.append_assoc, reduceCtorEq, if_false, List.cons_append] at hm hw hfrac ⊢
    rcases expo with _ | ⟨_ | _, xs⟩ <;>
      simp [readNumber, hm, hw, hfrac, hexpo, DecimalText.digits, DecimalText.exponent]

/-! ## The text of a double -/

theorem sign_toList (neg : Bool) :
    (if neg then "-" else "").toList = if neg then ['-'] else [] := by
  cases neg <;> rfl

theorem expSign_toList (p : Prop) [Decidable p] :
    (if p then "-" else "+").toList = [if p then '-' else '+'] := by
  split <;> rfl

theorem zeros_toList (n : Nat) : (Binary64.zeros n).toList = List.replicate n '0' :=
  String.toList_ofList

theorem IsDigits.of_cons {d : Char} {ds : List Char} (hds : IsDigits (d :: ds)) : IsDigits ds :=
  fun c hc => hds c (List.mem_cons_of_mem _ hc)

theorem repr_digits {c : Nat} (hc : 0 < c) :
    ∃ d ds, Nat.toDigits 10 c = d :: ds ∧ ('1' ≤ d ∧ d ≤ '9') ∧ IsDigits (d :: ds) ∧
      digitsValue (d :: ds) = c ∧ (Nat.repr c).length = ds.length + 1 := by
  obtain ⟨d, ds, hds, hd⟩ := toDigits_lead hc
  refine ⟨d, ds, hds, hd, hds ▸ isDigits_toDigits c, by rw [← hds, digitsValue_toDigits], ?_⟩
  rw [← String.length_toList, Nat.toList_repr, hds, List.length_cons]

/-- Positional text: the digits of `c` with the point after `point` of them, as a literal with
the value `c · 10^(point - n)` for `n` digits. -/
theorem placePoint_text (neg : Bool) {c : Nat} (hc : 0 < c) (point : Int) :
    ∃ t : DecimalText, t.Wf ∧ t.neg = neg ∧
      ((if neg then "-" else "") ++ Binary64.placePoint (Nat.repr c) point).toList = t.text ∧
      (t.digits : ℚ) * 10 ^ t.exponent = c * 10 ^ (point - (Nat.repr c).length) := by
  obtain ⟨d, ds', hds, hd, hdig, hc', hlen'⟩ := repr_digits hc
  have hlen : (Nat.repr c).length = (d :: ds').length := hlen'
  rw [String.toList_append, sign_toList, hlen]
  by_cases hp : point ≤ 0
  · -- `0.` and zeros before the digits
    refine ⟨⟨neg, ['0'], List.replicate (-point).toNat '0' ++ d :: ds', none⟩,
      ⟨.inl rfl, (isDigits_replicate_zero _).append hdig, (fun _ _ h => by cases h),
        .inl (by simp)⟩, rfl, ?_, ?_⟩
    · simp [Binary64.placePoint, hp, DecimalText.text, expoText, String.toList_append,
        zeros_toList, hds]
    · simp only [DecimalText.digits, DecimalText.exponent]
      rw [show ['0'] ++ (List.replicate (-point).toNat '0' ++ d :: ds') =
          List.replicate ((-point).toNat + 1) '0' ++ d :: ds' from rfl,
        digitsValue_append, digitsValue_replicate_zero, hc', zero_mul, zero_add]
      have he : (0 : Int) - ((List.replicate (-point).toNat '0' ++ d :: ds').length : Int) =
          point - (d :: ds').length := by
        simp only [List.length_append, List.length_replicate]; push_cast; omega
      rw [he]
  · by_cases hn : (d :: ds').length ≤ point.toNat
    · -- whole digits, zeros, and `.0`
      have hn' : ds'.length + 1 ≤ point.toNat := by simpa using hn
      refine ⟨⟨neg, d :: (ds' ++ List.replicate (point.toNat - (ds'.length + 1)) '0'), ['0'], none⟩,
        ⟨.inr ⟨d, _, rfl, hd, (hdig.of_cons).append (isDigits_replicate_zero _)⟩,
          (fun c hc => by simp at hc; subst hc; decide), (fun _ _ h => by cases h),
          .inl (by simp)⟩, rfl, ?_, ?_⟩
      · simp [Binary64.placePoint, hp, hn', hlen', DecimalText.text, expoText,
          String.toList_append, zeros_toList, hds]
      · simp only [DecimalText.digits, DecimalText.exponent]
        set j := point.toNat - (ds'.length + 1)
        rw [show d :: (ds' ++ List.replicate j '0') ++ ['0'] =
            (d :: ds') ++ List.replicate (j + 1) '0' by simp [List.replicate_succ'],
          digitsValue_append, digitsValue_replicate_zero, hc', add_zero, List.length_replicate]
        have hj : point - ((d :: ds').length : Int) = (j : Int) := by simp only [List.length_cons]; omega
        rw [hj, show (0 : Int) - (['0'].length : Int) = -1 by simp, zpow_neg, zpow_one,
          zpow_natCast]
        push_cast
        rw [pow_succ]
        field_simp
    · -- the point inside the digits
      set p := point.toNat
      obtain ⟨q, hq⟩ : ∃ q, p = q + 1 := ⟨p - 1, by omega⟩
      have hfrac : (d :: ds').drop p ≠ [] := by
        simp only [ne_eq, List.drop_eq_nil_iff, List.length_cons] at hn ⊢; omega
      refine ⟨⟨neg, (d :: ds').take p, (d :: ds').drop p, none⟩,
        ⟨.inr ⟨d, ds'.take q, by rw [hq]; rfl, hd,
          fun c hc => hdig.of_cons c (List.mem_of_mem_take hc)⟩,
          (fun c hc => hdig c (List.mem_of_mem_drop hc)), (fun _ _ h => by cases h),
          .inl hfrac⟩, rfl, ?_, ?_⟩
      · have hn' : ¬ ds'.length + 1 ≤ point.toNat := by
          simp only [List.length_cons] at hn; omega
        simp [Binary64.placePoint, hp, hn', hlen', DecimalText.text, expoText,
          String.toList_append, hds, p]
      · simp only [DecimalText.digits, DecimalText.exponent]
        rw [List.take_append_drop, hc']
        have he : (0 : Int) - (((d :: ds').drop p).length : Int) = point - (d :: ds').length := by
          rw [List.length_drop]; omega
        rw [he]

theorem padded_digits (n : Nat) :
    let xs := List.replicate (2 - (Nat.repr n).length) '0' ++ Nat.toDigits 10 n
    (xs ≠ [] ∧ IsDigits xs) ∧ digitsValue xs = n := by
  refine ⟨⟨by simp [Nat.toDigits_ne_nil], (isDigits_replicate_zero _).append (isDigits_toDigits n)⟩, ?_⟩
  rw [digitsValue_append, digitsValue_replicate_zero, digitsValue_toDigits, zero_mul, zero_add]

/-- Exponent text: the lead digit, the others after a point, and the exponent `point - 1`,
as a literal with the value `c · 10^(point - n)` for `n` digits. -/
theorem expForm_text (neg : Bool) {c : Nat} (hc : 0 < c) (point : Int) :
    ∃ t : DecimalText, t.Wf ∧ t.neg = neg ∧
      ((if neg then "-" else "") ++ Binary64.expForm .json (Nat.repr c) point).toList = t.text ∧
      (t.digits : ℚ) * 10 ^ t.exponent = c * 10 ^ (point - (Nat.repr c).length) := by
  obtain ⟨d, ds', hds, hd, hdig, hc', hlen⟩ := repr_digits hc
  obtain ⟨hxs, hxv⟩ := padded_digits (point - 1).natAbs
  refine ⟨⟨neg, [d], ds', some (decide (point - 1 < 0), _)⟩,
    ⟨.inr ⟨d, [], rfl, hd, fun _ h => by cases h⟩, hdig.of_cons,
      (fun s ys h => by cases h; exact hxs), .inr (by simp)⟩, rfl, ?_, ?_⟩
  · cases ds' <;>
      simp [Binary64.expForm, DecimalText.text, expoText, String.toList_append, sign_toList,
        zeros_toList, expSign_toList, Binary64.DecimalStyle.json, Nat.toList_repr, hds]
  · simp only [DecimalText.digits, DecimalText.exponent, List.singleton_append, hc', hxv, hlen]
    have he : (if decide (point - 1 < 0) = true then -((point - 1).natAbs : Int)
        else ((point - 1).natAbs : Int)) - (ds'.length : Int) = point - ((ds'.length + 1 : Nat) : Int) := by
      split <;> rename_i h <;> simp only [decide_eq_true_eq] at h <;> omega
    rw [he]

theorem pack_zero (neg : Bool) (q : Int) : Binary64.pack neg 0 q = Binary64.zero neg := by
  cases neg <;> rfl

theorem ofDecimal_of_rounds (neg : Bool) {d : Nat} {k : Int} {m : Nat} {e : Int} (hm : 0 < m)
    (hfit : Binary64.Fits m e) (hv : Binary64.RoundsTo m e (d * 10 ^ k)) :
    Binary64.ofDecimal neg d k = Binary64.pack neg m e := by
  have hd : 0 < d := by
    have hpos : (0 : ℚ) < d * 10 ^ k := lt_of_lt_of_le (by positivity) (hv.lower hm hfit)
    rcases Nat.eq_zero_or_pos d with h0 | h0
    · rw [h0, Nat.cast_zero, zero_mul] at hpos; exact absurd hpos (lt_irrefl 0)
    · exact h0
  exact Binary64.ofDecimal_eq_pack hm hfit hd hv

/-- The JSON text of a finite double is a literal that stands for the double: `0.0` with the
sign for a zero, and otherwise the shortest digits, placed or with an exponent. -/
theorem toText_spelled {x : Binary64} {neg : Bool} {m : Nat} {e : Int}
    (hx : x.view = .finite neg m e) :
    ∃ t : DecimalText, t.Wf ∧ (Binary64.toText .json x).toList = t.text ∧
      Binary64.ofDecimal t.neg t.digits t.exponent = x := by
  obtain ⟨hfit, hpack⟩ := Binary64.pack_of_view hx
  subst hpack
  unfold Binary64.toText
  rw [hx]
  dsimp only
  rcases Nat.eq_zero_or_pos m with rfl | hm
  · -- zero: the literal 0.0, with its sign
    refine ⟨⟨neg, ['0'], ['0'], none⟩, ⟨.inl rfl, (fun c hc => by simp at hc; subst hc; decide),
      (fun _ _ h => by cases h), .inl (by simp)⟩, ?_, ?_⟩
    · rw [if_pos rfl]
      cases neg <;> rfl
    · rw [pack_zero]
      rfl
  · rw [if_neg (by omega)]
    obtain ⟨hc, hround⟩ := Binary64.shortest_spec hm hfit
    rcases hs : Binary64.shortest m e with ⟨c, k⟩
    rw [hs] at hc hround
    dsimp only at hc hround ⊢
    -- both spellings are literals with the value `c · 10^k`
    have hspell : ∀ t : DecimalText, t.neg = neg →
        (t.digits : ℚ) * 10 ^ t.exponent =
          c * 10 ^ (((Nat.repr c).length + k : Int) - (Nat.repr c).length) →
        Binary64.ofDecimal t.neg t.digits t.exponent = Binary64.pack neg m e := by
      intro t hneg hval
      rw [hneg]
      refine ofDecimal_of_rounds neg hm hfit ?_
      rwa [hval, add_sub_cancel_left]
    by_cases hpos : Binary64.DecimalStyle.json.positionalAbove < (Nat.repr c).length + k ∧
        (Nat.repr c).length + k ≤ Binary64.DecimalStyle.json.positionalUpTo
    · obtain ⟨t, ht, hneg, htext, hval⟩ := placePoint_text neg hc ((Nat.repr c).length + k)
      rw [if_pos hpos]
      exact ⟨t, ht, htext, hspell t hneg hval⟩
    · obtain ⟨t, ht, hneg, htext, hval⟩ := expForm_text neg hc ((Nat.repr c).length + k)
      rw [if_neg hpos]
      exact ⟨t, ht, htext, hspell t hneg hval⟩

/-- The JSON text of a finite double reads back as that double, whatever follows it that
cannot continue a number. -/
theorem readNumber_toText {x : Binary64} {neg : Bool} {m : Nat} {e : Int}
    (hx : x.view = .finite neg m e) {r : List Char} (hr : NumberEnd r) :
    readNumber ((Binary64.toText .json x).toList ++ r) = some (.num x, r, 0) := by
  obtain ⟨t, ht, htext, hval⟩ := toText_spelled hx
  rw [htext, readNumber_text ht hr, hval]

def NumberChar (c : Char) : Prop := c = '-' ∨ c = '+' ∨ c = '.' ∨ c = 'e' ∨ ('0' ≤ c ∧ c ≤ '9')

instance : DecidablePred NumberChar := fun c => by unfold NumberChar; infer_instance

theorem DecimalText.numberChar {t : DecimalText} (h : t.Wf) : ∀ c ∈ t.text, NumberChar c := by
  have hdig : ∀ ds, IsDigits ds → ∀ c ∈ ds, NumberChar c :=
    fun ds hds c hc => .inr (.inr (.inr (.inr (hds c hc))))
  have hwhole : IsDigits t.whole := by
    rcases h.whole with hw | ⟨c, ds, hw, hc, hds⟩
    · rw [hw]; intro c hc; simp at hc; subst hc; decide
    · rw [hw]; intro d hd
      rcases List.mem_cons.1 hd with rfl | hd
      · exact ⟨Char.le_trans (by decide) hc.1, hc.2⟩
      · exact hds d hd
  intro c hc
  simp only [DecimalText.text, List.mem_append] at hc
  rcases hc with (hc | hc) | hc | hc
  · split at hc
    · exact .inl (List.mem_singleton.1 hc)
    · cases hc
  · exact hdig _ hwhole c hc
  · split at hc
    · cases hc
    · rcases List.mem_cons.1 hc with rfl | hc
      · exact .inr (.inr (.inl rfl))
      · exact hdig _ h.frac c hc
  · rcases hexpo : t.expo with _ | ⟨s, xs⟩
    · rw [hexpo] at hc; cases hc
    · rw [hexpo] at hc
      simp only [expoText, List.mem_cons] at hc
      rcases hc with rfl | hc | hc
      · exact .inr (.inr (.inr (.inl rfl)))
      · cases s <;> simp at hc <;> simp [NumberChar, hc]
      · exact hdig _ (h.expo s xs hexpo).2 c hc

/-- Every character of the JSON text of a finite double is a sign, a point, the exponent mark
or a digit. -/
theorem toText_numberChar {x : Binary64} {neg : Bool} {m : Nat} {e : Int}
    (hx : x.view = .finite neg m e) : ∀ c ∈ (Binary64.toText .json x).toList, NumberChar c := by
  obtain ⟨t, ht, htext, -⟩ := toText_spelled hx
  rw [htext]
  exact DecimalText.numberChar ht

end Json

end RankAdvisor