import RankAdvisor.Proofs.AdviceReadBack
import RankAdvisor.Proofs.FeedFailures

/-! # What reading an answer can give

`Advice.readText` takes the object of an answer from its last opening brace to the last
closing brace after it, drops the trailing commas, reads it as JSON and takes the
recommendation, the confidence and the summary out of it. Every step that finds nothing
usable gives unreadable advice that keeps the whole answer; two do not:

* a confidence that is a whole number too large for a double fails the reading with an
  overflow, as turning such a number into a double does;
* an object nested too deep for the JSON reader fails with the reader's own failure.

Main statement: `reading_outcomes`. Reading gives unreadable advice, or advice to buy or to
sell whose confidence lies in `[0, 1]`, whose summary is trimmed and whose narrative is the
cleaned text before the object, the latter exactly when the object holds a recommendation, a
usable confidence and a text summary (`Usable`); it fails only in the two ways above
(`Fails`). `huge_confidence_fails_reading` is an answer on which it fails.
-/

namespace RankAdvisor

set_option autoImplicit false

namespace Binary64

/-! ## Rounding never gives NaN -/

theorem pack_top {neg : Bool} {m : Nat} {q : Int} (hm : ¬ m < 2 ^ 52) (hq : q > 971) :
    (pack neg m q).isNaN = false := by
  have hbits : (pack neg m q).bits.toNat = (if neg then 2 ^ 63 else 0) + 2 ^ 52 * 2047 + 0 := by
    simp only [pack, Nat.pow_eq, hm, hq, if_false, if_true, UInt64.toNat_or, toNat_sign]
    rw [toNat_or_below (by decide)]
    rfl
  obtain ⟨-, he, hf⟩ := fields_of_toNat (by decide) (by decide) hbits
  simp [isNaN, view_of_top he, hf]

theorem pack_isNaN {neg : Bool} {m : Nat} {q : Int} (hm : m < 2 ^ 53) (hq : -1074 ≤ q) :
    (pack neg m q).isNaN = false := by
  by_cases hsub : m < 2 ^ 52
  · obtain ⟨-, he, -⟩ := pack_fields_of_sub neg q hsub
    simp [isNaN, view_of_sub he]
  · by_cases htop : q > 971
    · exact pack_top hsub htop
    · obtain ⟨-, he, -⟩ := pack_fields_of_normal neg (by omega) hm hq (by omega)
      simp [isNaN, view_of_normal (by omega : (pack neg m q).expField ≠ 0) (by omega)]

theorem roundAt_le {num den : Nat} (hnum : 0 < num) (hden : 0 < den) :
    roundAt num den (max (floorLog2 num den - 52) (-1074)) ≤ 2 ^ 53 := by
  obtain ⟨n, d, hd, hnd, hround⟩ := roundAt_scaled num (max (floorLog2 num den - 52) (-1074)) hden
  -- the scaled ratio lies below `2^53`, as the ratio lies below `2^(log + 1)`
  have hbelow : (n / d : ℚ) < 2 ^ 53 := by
    have hspec := (floorLog2_spec hnum hden).2
    have hq : floorLog2 num den + 1 ≤ 53 + max (floorLog2 num den - 52) (-1074) := by omega
    have hpow : (2 : ℚ) ^ (floorLog2 num den + 1) ≤ 2 ^ (53 + max (floorLog2 num den - 52) (-1074)) :=
      zpow_le_zpow_right₀ (by norm_num) hq
    rw [hnd, div_lt_iff₀ (zpow_pos two_pos _), ← zpow_natCast, ← zpow_add₀ two_ne_zero]
    push_cast
    linarith
  have hn : n < 2 ^ 53 * d := by
    have hdq : (0 : ℚ) < d := by exact_mod_cast hd
    rw [div_lt_iff₀ hdq] at hbelow
    exact_mod_cast hbelow
  rw [hround]
  have : n / d < 2 ^ 53 := Nat.div_lt_of_lt_mul (by rwa [Nat.mul_comm] at hn)
  unfold roundHalfEven
  dsimp only
  split <;> omega

theorem ofRatio_isNaN (neg : Bool) (num den : Nat) : (ofRatio neg num den).isNaN = false := by
  by_cases h0 : num = 0 ∨ den = 0
  · rw [ofRatio, if_pos h0]
    cases neg <;> decide
  · have hnum : 0 < num := by omega
    have hden : 0 < den := by omega
    have hq : -1074 ≤ max (floorLog2 num den - 52) (-1074) := le_max_right _ _
    have hle := roundAt_le hnum hden
    rw [ofRatio_of_roundAt hnum hden rfl rfl]
    split
    · exact pack_isNaN (by decide) (by omega)
    · exact pack_isNaN (by omega) hq

theorem ofInt_isNaN (n : Int) : (ofInt n).isNaN = false := ofRatio_isNaN _ _ _

end Binary64

namespace Advice

/-! ## The parts of an answer -/

/-- Where the object of an answer starts, and its text: from the last `{` to the last `}`
after it, with the trailing commas dropped. -/
def objectPart? (text : String) : Option (Nat × String) := do
  let start ← lastIndex? '\x7b' text.toList
  let stop ← lastIndex? '\x7d' (text.toList.drop start)
  pure (start, String.ofList (dropTrailingCommas ((text.toList.drop start).take (stop + 1))))

/-- The recommendation the fields of an object name: their `recommendation`, trimmed and in
capitals, reads `BUY` or `SELL`. -/
def recommendationOf (fields : Json) : Option Recommendation :=
  match capitals (Text.trimBlank ((fields.get? "recommendation").getD (.str "")).plainText) with
  | "BUY" => some .buy
  | "SELL" => some .sell
  | _ => none

/-- A confidence field that gives a confidence: a whole number within the doubles, a double
or a decimal numeral, and not NaN. -/
def UsableConfidence : Option Json → Prop
  | some (.int n) => (Binary64.ofInt n).isInf = false
  | some (.num x) => x.isNaN = false
  | some (.str s) => ∃ x, Numeral.readDecimal? s = some x ∧ x.isNaN = false
  | _ => False

/-- A confidence field holding a whole number too large for a double. -/
def HugeConfidence : Option Json → Prop
  | some (.int n) => (Binary64.ofInt n).isInf = true
  | _ => False

/-- Fields that hold a recommendation to buy or to sell, a usable confidence and a text
summary. -/
structure UsableFields (fields : Json) : Prop where
  recommendation : (recommendationOf fields).isSome
  confidence : UsableConfidence (fields.get? "confidence")
  summary : ∃ s, fields.get? "summary" = some (.str s)

/-- The object of the answer reads as JSON with usable fields. -/
def Usable (text : String) : Prop :=
  ∃ start body kvs, objectPart? text = some (start, body) ∧ Json.read body = .ok (.obj kvs) ∧
    UsableFields (.obj kvs)

/-- The two ways reading fails: an overflow for a whole-number confidence beyond the doubles
beside a usable recommendation, or the JSON reader's failure for an object nested too deep. -/
def Fails (text : String) (f : Fault) : Prop :=
  (f.kind = .overflow ∧ ∃ start body kvs, objectPart? text = some (start, body) ∧
    Json.read body = .ok (.obj kvs) ∧ (recommendationOf (.obj kvs)).isSome ∧
    HugeConfidence ((Json.obj kvs).get? "confidence")) ∨
  (f.kind = .recursion ∧ ∃ start body e, objectPart? text = some (start, body) ∧
    Json.read body = .error e ∧ e.passOn? = some f)

/-- Advice to buy or to sell as reading makes it: a confidence in `[0, 1]`, a trimmed text
summary, and the cleaned text before the last opening brace as narrative. -/
structure Sound (text : String) (r : Advice) : Prop where
  recommendation : r.recommendation = .buy ∨ r.recommendation = .sell
  confidence_nonneg : (Binary64.zero false).le r.confidence = true
  confidence_le_one : r.confidence.le (Binary64.ofInt 1) = true
  confidence_not_nan : r.confidence.isNaN = false
  summary_trimmed : ∃ s, r.summary = .str s ∧ Text.trimBlank s = s
  narrative_cleaned : ∃ start, lastIndex? '\x7b' text.toList = some start ∧
    r.narrative = .str (Narrative.clean (String.ofList (text.toList.take start)))

/-! ## Finding the object -/

theorem lastIndex?_go_mem {c : Char} :
    ∀ (cs : List Char) (i : Nat) (found : Option Nat) (j : Nat),
      lastIndex?.go c cs i found = some j → found = some j ∨ c ∈ cs
  | [], _, _, _, h => .inl h
  | d :: rest, i, found, j, h => by
    rcases lastIndex?_go_mem rest (i + 1) _ j h with h' | h'
    · by_cases hd : d = c
      · exact .inr (hd ▸ List.mem_cons_self)
      · simp only [beq_iff_eq, hd, if_false] at h'
        exact .inl h'
    · exact .inr (List.mem_cons_of_mem _ h')

theorem mem_of_lastIndex? {c : Char} {cs : List Char} {i : Nat} (h : lastIndex? c cs = some i) :
    c ∈ cs := by
  rcases lastIndex?_go_mem cs 0 none i h with h | h
  · cases h
  · exact h

theorem objectPart?_eq {text : String} {start stop : Nat}
    (h1 : lastIndex? '\x7b' text.toList = some start)
    (h2 : lastIndex? '\x7d' (text.toList.drop start) = some stop) :
    objectPart? text =
      some (start, String.ofList (dropTrailingCommas ((text.toList.drop start).take (stop + 1)))) := by
  simp [objectPart?, h1, h2]

theorem objectPart?_of_none_left {text : String} (h1 : lastIndex? '\x7b' text.toList = none) :
    objectPart? text = none := by
  simp [objectPart?, h1]

theorem objectPart?_of_none_right {text : String} {start : Nat}
    (h1 : lastIndex? '\x7b' text.toList = some start)
    (h2 : lastIndex? '\x7d' (text.toList.drop start) = none) : objectPart? text = none := by
  simp [objectPart?, h1, h2]

theorem isAllBlank_of_objectPart? {text : String} {part : Nat × String}
    (h : objectPart? text = some part) : Text.isAllBlank text = false := by
  obtain ⟨start, h1, -⟩ : ∃ start, lastIndex? '\x7b' text.toList = some start ∧ True := by
    cases h1 : lastIndex? '\x7b' text.toList with
    | none => rw [objectPart?_of_none_left h1] at h; cases h
    | some start => exact ⟨start, rfl, trivial⟩
  rw [Text.isAllBlank, List.all_eq_false]
  exact ⟨'\x7b', mem_of_lastIndex? h1, by decide⟩

/-! ## The confidence -/

theorem confidenceOf_eq_some_iff (v : Option Json) :
    (∃ c, confidenceOf v = .ok (some c)) ↔ UsableConfidence v := by
  rcases v with _ | (_ | _ | n | x | s | _ | _)
  case some.int =>
    cases hi : (Binary64.ofInt n).isInf <;>
      simp [confidenceOf, UsableConfidence, hi, Binary64.ofInt_isNaN, bind, Except.bind, pure,
        Except.pure, throw, throwThe, MonadExceptOf.throw]
  case some.num =>
    cases hx : x.isNaN <;>
      simp [confidenceOf, UsableConfidence, hx, bind, Except.bind, pure, Except.pure]
  case some.str =>
    cases hs : Numeral.readDecimal? s with
    | none => simp [confidenceOf, UsableConfidence, hs, bind, Except.bind, pure, Except.pure]
    | some x =>
      cases hx : x.isNaN <;>
        simp [confidenceOf, UsableConfidence, hs, hx, bind, Except.bind, pure, Except.pure]
  all_goals simp [confidenceOf, UsableConfidence, bind, Except.bind, pure, Except.pure]

theorem confidenceOf_eq_error {v : Option Json} {f : Fault} (h : confidenceOf v = .error f) :
    HugeConfidence v ∧ f.kind = .overflow := by
  rcases v with _ | (_ | _ | n | x | s | _ | _)
  case some.int =>
    cases hi : (Binary64.ofInt n).isInf
    · simp [confidenceOf, hi, Binary64.ofInt_isNaN, bind, Except.bind, pure, Except.pure] at h
    · simp [confidenceOf, hi, bind, Except.bind, throw, throwThe, MonadExceptOf.throw] at h
      subst h
      exact ⟨hi, rfl⟩
  case some.num =>
    cases hx : x.isNaN <;> simp [confidenceOf, hx, bind, Except.bind, pure, Except.pure] at h
  case some.str =>
    cases hs : Numeral.readDecimal? s with
    | none => simp [confidenceOf, hs, bind, Except.bind, pure, Except.pure] at h
    | some x =>
      cases hx : x.isNaN <;> simp [confidenceOf, hs, hx, bind, Except.bind, pure, Except.pure] at h
  all_goals simp [confidenceOf, bind, Except.bind, pure, Except.pure] at h

theorem not_usable_of_huge {v : Option Json} (h : HugeConfidence v) : ¬ UsableConfidence v := by
  rcases v with _ | (_ | _ | n | x | s | _ | _)
  all_goals simp_all [HugeConfidence, UsableConfidence]

/-! ## The outcomes of reading -/

/-- What reading makes of the fields of the object found at `start`. -/
def fromFields (text : String) (start : Nat) (fields : Json) : Except Fault Advice :=
  match recommendationOf fields with
  | none => .ok (unreadable text)
  | some rec =>
    match confidenceOf (fields.get? "confidence") with
    | .error f => .error f
    | .ok none => .ok (unreadable text)
    | .ok (some conf) =>
      match fields.get? "summary" with
      | some (.str s) =>
        .ok ⟨rec, conf, .str (Text.trimBlank s),
          .str (Narrative.clean (String.ofList (text.toList.take start)))⟩
      | _ => .ok (unreadable text)

theorem word_cases (word : String) :
    word = "BUY" ∨ word = "SELL" ∨ (word ≠ "BUY" ∧ word ≠ "SELL") := by
  by_cases hb : word = "BUY"
  · exact .inl hb
  · by_cases hs : word = "SELL"
    · exact .inr (.inl hs)
    · exact .inr (.inr ⟨hb, hs⟩)

theorem read_str (text : String) : read (.str text) = readText text := rfl

theorem readText_eq (text : String) : readText text =
    match objectPart? text with
    | none => .ok (unreadable text)
    | some (start, body) =>
      match Json.read body with
      | .ok (.obj kvs) => fromFields text start (.obj kvs)
      | .ok _ => .ok (unreadable text)
      | .error e =>
        match e.passOn? with
        | some f => .error f
        | none => .ok (unreadable text) := by
  cases hobj : objectPart? text with
  | none =>
    unfold readText
    split
    · rfl
    · cases h1 : lastIndex? '\x7b' text.toList with
      | none =>
        simp only [h1]
        rfl
      | some start =>
        cases h2 : lastIndex? '\x7d' (text.toList.drop start) with
        | none =>
          simp only [h1, h2]
          rfl
        | some stop =>
          rw [objectPart?_eq h1 h2] at hobj
          cases hobj
  | some part =>
    obtain ⟨start, body⟩ := part
    obtain ⟨stop, h1, h2, rfl⟩ : ∃ stop, lastIndex? '\x7b' text.toList = some start ∧
        lastIndex? '\x7d' (text.toList.drop start) = some stop ∧
        body = String.ofList (dropTrailingCommas ((text.toList.drop start).take (stop + 1))) := by
      simp only [objectPart?, Option.bind_eq_bind, Option.bind_eq_some_iff, Option.pure_def,
        Option.some.injEq, Prod.mk.injEq] at hobj
      obtain ⟨start', h1, stop, h2, rfl, rfl⟩ := hobj
      exact ⟨stop, h1, h2, rfl⟩
    unfold readText
    rw [if_neg (by simp [isAllBlank_of_objectPart? hobj])]
    simp only [h1, h2]
    generalize Json.read _ = res
    rcases res with e | v
    · rfl
    · cases v
      case obj kvs =>
        simp only [bind, Except.bind, pure, Except.pure]
        unfold fromFields recommendationOf
        generalize capitals _ = word
        generalize confidenceOf _ = conf?
        generalize (Json.obj kvs).get? "summary" = summary?
        rcases word_cases word with rfl | rfl | ⟨hb, hs⟩
        · simp only
          rcases conf? with f | _ | conf <;> rfl
        · simp only
          rcases conf? with f | _ | conf <;> rfl
        · -- a word that is neither gives no recommendation on either side
          split
          · rename_i heq
            split at heq <;> simp_all
          · split
            · rfl
            · rename_i heq
              split at heq <;> simp_all
      all_goals rfl

theorem readText_of_objectPart? {text : String} {start : Nat} {body : String}
    (h : objectPart? text = some (start, body)) :
    readText text =
      match Json.read body with
      | .ok (.obj kvs) => fromFields text start (.obj kvs)
      | .ok _ => .ok (unreadable text)
      | .error e =>
        match e.passOn? with
        | some f => .error f
        | none => .ok (unreadable text) := by
  rw [readText_eq, h]

/-! ## The fields -/

theorem recommendationOf_eq_some {fields : Json} {rec : Recommendation}
    (h : recommendationOf fields = some rec) : rec = .buy ∨ rec = .sell := by
  unfold recommendationOf at h
  split at h
  · cases h
    exact .inl rfl
  · cases h
    exact .inr rfl
  · cases h

theorem fromFields_cases (text : String) (start : Nat) (fields : Json) :
    (fromFields text start fields = .ok (unreadable text) ∧ ¬ UsableFields fields) ∨
    (∃ rec conf s, fromFields text start fields =
        .ok ⟨rec, conf, .str (Text.trimBlank s),
          .str (Narrative.clean (String.ofList (text.toList.take start)))⟩ ∧
      recommendationOf fields = some rec ∧
      confidenceOf (fields.get? "confidence") = .ok (some conf) ∧ UsableFields fields) ∨
    (∃ f, fromFields text start fields = .error f ∧ (recommendationOf fields).isSome ∧
      HugeConfidence (fields.get? "confidence") ∧ f.kind = .overflow) := by
  unfold fromFields
  cases hr : recommendationOf fields with
  | none => exact .inl ⟨rfl, fun ⟨h, _, _⟩ => by simp [hr] at h⟩
  | some rec =>
    cases hc : confidenceOf (fields.get? "confidence") with
    | error f =>
      obtain ⟨hh, hk⟩ := confidenceOf_eq_error hc
      exact .inr (.inr ⟨f, rfl, rfl, hh, hk⟩)
    | ok c? =>
      cases c? with
      | none =>
        refine .inl ⟨rfl, fun ⟨_, hu, _⟩ => ?_⟩
        obtain ⟨c, hc'⟩ := (confidenceOf_eq_some_iff _).2 hu
        rw [hc] at hc'
        cases hc'
      | some conf =>
        have hu : UsableConfidence (fields.get? "confidence") :=
          (confidenceOf_eq_some_iff _).1 ⟨conf, hc⟩
        cases hs : fields.get? "summary" with
        | none => exact .inl ⟨rfl, fun ⟨_, _, s, hs'⟩ => by rw [hs] at hs'; cases hs'⟩
        | some v =>
          cases v
          case str s => exact .inr (.inl ⟨rec, conf, s, rfl, rfl, rfl, ⟨by simp [hr], hu, s, hs⟩⟩)
          all_goals exact .inl ⟨rfl, fun ⟨_, _, s, hs'⟩ => by rw [hs] at hs'; cases hs'⟩

/-! ## The outcomes of reading -/

theorem start_of_objectPart? {text : String} {start : Nat} {body : String}
    (h : objectPart? text = some (start, body)) : lastIndex? '\x7b' text.toList = some start := by
  simp only [objectPart?, Option.bind_eq_bind, Option.bind_eq_some_iff, Option.pure_def,
    Option.some.injEq, Prod.mk.injEq] at h
  obtain ⟨start', h1, stop, -, rfl, -⟩ := h
  exact h1

theorem usable_iff {text : String} {start : Nat} {body : String}
    (h : objectPart? text = some (start, body)) :
    Usable text ↔ ∃ kvs, Json.read body = .ok (.obj kvs) ∧ UsableFields (.obj kvs) := by
  constructor
  · rintro ⟨start', body', kvs, h', hread, hu⟩
    rw [h] at h'
    cases h'
    exact ⟨kvs, hread, hu⟩
  · rintro ⟨kvs, hread, hu⟩
    exact ⟨start, body, kvs, h, hread, hu⟩

theorem sound_of_fields {text : String} {start : Nat} {rec : Recommendation} {conf : Binary64}
    {s : String} {fields : Json} (h1 : lastIndex? '\x7b' text.toList = some start)
    (hr : recommendationOf fields = some rec)
    (hc : confidenceOf (fields.get? "confidence") = .ok (some conf)) :
    Sound text ⟨rec, conf, .str (Text.trimBlank s),
      .str (Narrative.clean (String.ofList (text.toList.take start)))⟩ where
  recommendation := recommendationOf_eq_some hr
  confidence_nonneg := (confidenceOf_unit hc).1
  confidence_le_one := (confidenceOf_unit hc).2
  confidence_not_nan := Binary64.isNaN_of_le_right (confidenceOf_unit hc).1
  summary_trimmed := ⟨_, rfl, Text.trimBlank_trimBlank s⟩
  narrative_cleaned := ⟨start, h1, rfl⟩

/-- Every answer reads as unreadable advice, as sound advice, or fails in one of the two
ways; it reads as sound advice exactly when it is usable. -/
theorem readText_cases (text : String) :
    (readText text = .ok (unreadable text) ∧ ¬ Usable text) ∨
    (∃ r, readText text = .ok r ∧ Sound text r ∧ Usable text) ∨
    (∃ f, readText text = .error f ∧ Fails text f ∧ ¬ Usable text) := by
  cases hobj : objectPart? text with
  | none =>
    rw [readText_eq, hobj]
    exact .inl ⟨rfl, fun ⟨_, _, _, h, _⟩ => by rw [hobj] at h; cases h⟩
  | some part =>
    obtain ⟨start, body⟩ := part
    rw [readText_of_objectPart? hobj, usable_iff hobj]
    cases hread : Json.read body with
    | error e =>
      dsimp only
      have hno : ¬ ∃ kvs, Except.error e = Except.ok (Json.obj kvs) ∧ UsableFields (.obj kvs) :=
        fun ⟨_, h, _⟩ => by cases h
      cases hp : e.passOn? with
      | some f =>
        exact .inr (.inr ⟨f, rfl,
          .inr ⟨MarketData.passOn?_kind hp, start, body, e, hobj, hread, hp⟩, hno⟩)
      | none => exact .inl ⟨rfl, hno⟩
    | ok v =>
      cases v
      case obj kvs =>
        dsimp only
        -- the object read is the only candidate for a usable one
        have hone : (∃ kvs', Except.ok (Json.obj kvs) = Except.ok (ε := Json.ReadFailure) (Json.obj kvs') ∧
            UsableFields (.obj kvs')) ↔ UsableFields (.obj kvs) := by
          constructor
          · rintro ⟨kvs', h, hp⟩
            cases h
            exact hp
          · intro hp
            exact ⟨kvs, rfl, hp⟩
        rw [hone]
        rcases fromFields_cases text start (.obj kvs) with ⟨h, hn⟩ | ⟨rec, conf, s, h, hr, hc, hu⟩ |
          ⟨f, h, hr, hh, hk⟩
        · exact .inl ⟨h, hn⟩
        · exact .inr (.inl ⟨_, h, sound_of_fields (start_of_objectPart? hobj) hr hc, hu⟩)
        · refine .inr (.inr ⟨f, h, .inl ⟨hk, start, body, kvs, hobj, hread, hr, hh⟩, ?_⟩)
          exact fun ⟨_, hu, _⟩ => not_usable_of_huge hh hu
      all_goals exact .inl ⟨rfl, fun ⟨_, h, _⟩ => by cases h⟩

/-- Reading an answer fails only as `Fails` says; otherwise it gives unreadable advice
keeping the whole answer, or sound advice exactly when the answer's object is usable. -/
theorem reading_outcomes (text : String) :
    read .null = .ok (unreadable "") ∧
    (∀ f, read (.str text) = .error f → Fails text f) ∧
    (∀ r, read (.str text) = .ok r → r = unreadable text ∨ Sound text r) ∧
    ((∃ r, read (.str text) = .ok r ∧ r.recommendation ≠ .unreadable) ↔ Usable text) := by
  refine ⟨rfl, ?_⟩
  rw [read_str]
  rcases readText_cases text with ⟨h, hn⟩ | ⟨r, h, hs, hu⟩ | ⟨f, h, hf, hn⟩
  · rw [h]
    refine ⟨(fun f hf => nomatch hf), ?_, ⟨?_, fun hu => absurd hu hn⟩⟩
    · rintro r ⟨⟩
      exact .inl rfl
    · rintro ⟨r, ⟨⟩, hrec⟩
      exact absurd rfl hrec
  · rw [h]
    refine ⟨(fun f hf => nomatch hf), ?_, ⟨fun _ => hu, fun _ => ⟨r, rfl, ?_⟩⟩⟩
    · rintro r' ⟨⟩
      exact .inr hs
    · rcases hs.recommendation with hb | hb <;> rw [hb] <;> decide
  · rw [h]
    refine ⟨?_, (fun r hr => nomatch hr), ⟨?_, fun hu => absurd hu hn⟩⟩
    · rintro f' ⟨⟩
      exact hf
    · rintro ⟨r, hr, -⟩
      cases hr

/-- A confidence of a one followed by four hundred zeros is beyond the doubles: reading the
answer fails with the overflow of turning that whole number into a float, although its
recommendation and summary are usable. -/
theorem huge_confidence_fails_reading :
    (match read (.str ("n\n\x7b\"recommendation\": \"BUY\", \"confidence\": 1" ++
        String.ofList (List.replicate 400 '0') ++ ", \"summary\": \"s\"\x7d")) with
      | .error f => f.kind == .overflow && f.text == "int too large to convert to float"
      | .ok _ => false) = true := by
  -- the braces are found and the object read on characters: the kernel decodes no long text
  rw [read_str, readText_of_objectPart? (@objectPart?_eq _ 2 457 ?brace ?close), Json.read,
    String.toList_ofList]
  · generalize hcs : String.toList _ = cs
    simp only [String.toList_append, String.toList_ofList, String.reduceToList] at hcs
    subst hcs
    decide +kernel
  all_goals
    simp only [String.toList_append, String.toList_ofList, String.reduceToList]
    decide +kernel

end Advice

end RankAdvisor
