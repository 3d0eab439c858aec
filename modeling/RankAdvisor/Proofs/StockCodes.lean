import RankAdvisor.Market.Rows

/-! # Stock codes

A stock code is documented as six characters, each an ASCII digit or capital letter
(`Field.SixCode`). The check on a code text accepts those and one more form: the six
characters followed by a single line feed, which the end anchor of the code pattern lets
through (`Field.isStockCode_iff`, `line_feed_code_passes_check`).

A ranking row is checked on the trimmed text of its code field, and a trimmed text never
ends in a blank, so on rows the check is the documented form. A row is refused for its code
exactly when it is an object whose code text is not six code characters: a row that is not
an object, and a field that does not read, are refused with other texts.

Main statement: `stock_codes_checked`.
-/

namespace RankAdvisor

set_option autoImplicit false

namespace Field

/-! ## The documented form -/

/-- A character of a stock code: an ASCII digit or capital letter. -/
def IsCodeChar (c : Char) : Prop := ('0' ≤ c ∧ c ≤ '9') ∨ ('A' ≤ c ∧ c ≤ 'Z')

instance : DecidablePred IsCodeChar := fun _ => inferInstanceAs (Decidable (_ ∨ _))

/-- The documented form of a stock code: exactly six code characters. -/
def SixCode (s : String) : Prop := s.toList.length = 6 ∧ ∀ c ∈ s.toList, IsCodeChar c

instance : DecidablePred SixCode := fun _ => inferInstanceAs (Decidable (_ ∧ _))

theorem eq_six_of_length {α : Type} {l : List α} (h : l.length = 6) :
    ∃ a b c d e f, l = [a, b, c, d, e, f] := by
  rcases l with _ | ⟨a, _ | ⟨b, _ | ⟨c, _ | ⟨d, _ | ⟨e, _ | ⟨f, _ | ⟨g, l⟩⟩⟩⟩⟩⟩⟩ <;>
    simp at h
  exact ⟨a, b, c, d, e, f, rfl⟩

/-! ## The check on a text -/

theorem isStockCode_iff_chars (s : String) :
    isStockCode s = true ↔ (s.toList.length = 6 ∧ ∀ c ∈ s.toList, IsCodeChar c) ∨
      ∃ l : List Char, (l.length = 6 ∧ ∀ c ∈ l, IsCodeChar c) ∧ s.toList = l ++ ['\n'] := by
  unfold isStockCode
  generalize s.toList = l
  constructor
  · intro h
    split at h
    · left
      simpa [IsCodeChar] using h
    · right
      rename_i a b c d e f
      exact ⟨[a, b, c, d, e, f], by simpa [IsCodeChar] using h, rfl⟩
    · cases h
  · rintro (⟨hlen, hall⟩ | ⟨l, ⟨hlen, hall⟩, rfl⟩)
    · obtain ⟨a, b, c, d, e, f, rfl⟩ := eq_six_of_length hlen
      simpa [IsCodeChar] using hall
    · obtain ⟨a, b, c, d, e, f, rfl⟩ := eq_six_of_length hlen
      simpa [IsCodeChar] using hall

theorem isStockCode_iff (s : String) :
    isStockCode s = true ↔ SixCode s ∨ ∃ t, SixCode t ∧ s = t ++ "\n" := by
  rw [isStockCode_iff_chars]
  -- a text ending in a line feed is the text of its other characters, extended
  have hline : ∀ t : String, s = t ++ "\n" ↔ s.toList = t.toList ++ ['\n'] := fun t =>
    ⟨fun h => by simp [h, String.toList_append],
      fun h => String.toList_injective (by simp [h, String.toList_append])⟩
  simp only [SixCode, hline]
  refine or_congr_right ⟨?_, ?_⟩
  · rintro ⟨l, hl, hs⟩
    exact ⟨String.ofList l, by simpa using hl, by simpa using hs⟩
  · rintro ⟨t, ht, hs⟩
    exact ⟨t.toList, ht, hs⟩

theorem checkStockCode_str (s : String) : checkStockCode (.str s) = .ok (isStockCode s) := by
  unfold checkStockCode
  cases h : s.isEmpty
  · simp [Json.isEmptyish, h]
  · simp only [Json.isEmptyish, h, if_true]
    rw [String.isEmpty_iff.1 h]
    rfl

end Field

/-! ## Trimmed texts -/

namespace Text

theorem trimBlank_last_not_blank (s : String) :
    ∀ c ∈ (trimBlank s).toList.getLast?, isBlank c = false := by
  intro c hc
  -- the last character kept is the first of the reversed text that is not dropped
  unfold trimBlank dropBlankRight at hc
  rw [String.toList_ofList, List.getLast?_reverse] at hc
  have hfirst := List.head?_dropWhile_not isBlank (dropBlankLeft s).toList.reverse
  rw [Option.mem_def.1 hc] at hfirst
  exact hfirst

end Text

namespace Field

/-- A text that does not end in a blank passes the check exactly when it has the
documented form. -/
theorem isStockCode_iff_sixCode {s : String}
    (hs : ∀ c ∈ s.toList.getLast?, Text.isBlank c = false) : isStockCode s = true ↔ SixCode s := by
  rw [isStockCode_iff]
  refine ⟨?_, .inl⟩
  rintro (h | ⟨t, -, rfl⟩)
  · exact h
  · -- the line feed that the pattern's end lets through is a blank
    have hlf := hs '\n' (by simp [String.toList_append])
    exact absurd hlf (by decide)

/-! ## Faults of reading a field -/

/-- A fault of reading one field: its text begins with the word for field, or a whole number
overflowed. -/
def FieldFault (f : Fault) : Prop := f.text.toList.head? = some '字' ∨ f.kind = .overflow

theorem clean_fault {v : Json} {field : String} {f : Fault} (h : clean v field = .error f) :
    f.text.toList.head? = some '字' := by
  unfold clean at h
  split at h
  · cases h
    simp [Fault.parse, toString, String.toList_append]
  · generalize String.ofList _ = t at h
    dsimp only at h
    split at h
    · cases h
      simp [Fault.parse, toString, String.toList_append]
    · cases h

theorem readDecimal_fault {v : Json} {field : String} {f : Fault}
    (h : readDecimal v field = .error f) : FieldFault f := by
  unfold readDecimal at h
  cases hc : clean v field with
  | error e =>
    rw [hc] at h
    cases h
    exact .inl (clean_fault hc)
  | ok t =>
    rw [hc] at h
    dsimp only [bind, Except.bind] at h
    split at h
    · cases h
    · cases h
      exact .inl (by simp [Fault.parse, toString, String.toList_append])

theorem readWhole_fault {v : Json} {field : String} {f : Fault}
    (h : readWhole v field = .error f) : FieldFault f := by
  unfold readWhole at h
  cases hc : clean v field with
  | error e =>
    rw [hc] at h
    cases h
    exact .inl (clean_fault hc)
  | ok t =>
    rw [hc] at h
    dsimp only [bind, Except.bind] at h
    have hbad : FieldFault (Fault.parse s!"字段 {field} 不是合法整数: {v.literal}") :=
      .inl (by simp [Fault.parse, toString, String.toList_append])
    split at h
    · cases h
    · split at h
      · cases h
        exact hbad
      · split at h
        · cases h
          exact hbad
        · split at h
          · cases h
            exact .inr rfl
          · split at h
            · cases h
            · cases h
              exact hbad

end Field

namespace Market

/-! ## Rows refused for their code -/

theorem presentText_last_not_blank (row : Json) (k : String) :
    ∀ c ∈ (presentText row k).toList.getLast?, Text.isBlank c = false := by
  unfold presentText
  split
  · split
    · simp
    · exact Text.trimBlank_last_not_blank _
  · simp

theorem error_of_bind {ε α β : Type} {x : Except ε α} {g : α → Except ε β} {e : ε}
    (h : (x >>= g) = .error e) : x = .error e ∨ ∃ a, g a = .error e := by
  cases x with
  | error e' =>
    cases h
    exact .inl rfl
  | ok a => exact .inr ⟨a, h⟩

theorem ofRow_of_not_obj {row : Json} (rank : Json) (h : ∀ kvs, row ≠ .obj kvs) :
    Entry.ofRow row rank = .error (Fault.parse s!"排行数据行格式异常: {row.literal}") := by
  unfold Entry.ofRow
  split
  · exact absurd rfl (h _)
  · rfl

theorem ofRow_of_bad_code {kvs : List (String × Json)} (rank : Json)
    (h : Field.isStockCode (presentText (.obj kvs) "mksc_shrn_iscd") = false) :
    Entry.ofRow (.obj kvs) rank =
      .error (Fault.parse s!"排行数据行股票代码无效: {(Json.obj kvs).literal}") := by
  unfold Entry.ofRow
  simp only [h, Bool.not_false, if_true]
  rfl

theorem ofRow_fault_of_good_code {kvs : List (String × Json)} {rank : Json} {f : Fault}
    (hc : Field.isStockCode (presentText (.obj kvs) "mksc_shrn_iscd") = true)
    (h : Entry.ofRow (.obj kvs) rank = .error f) : Field.FieldFault f := by
  unfold Entry.ofRow at h
  simp only [hc, Bool.not_true] at h
  -- the four fields are read in turn; the entry is built only once all have read
  rcases error_of_bind h with h | ⟨_, h⟩
  · exact Field.readDecimal_fault h
  rcases error_of_bind h with h | ⟨_, h⟩
  · exact Field.readDecimal_fault h
  rcases error_of_bind h with h | ⟨_, h⟩
  · exact Field.readWhole_fault h
  rcases error_of_bind h with h | ⟨_, h⟩
  · exact Field.readWhole_fault h
  cases h

/-- A row is refused for its code exactly when it is an object whose code text fails the
check: the refusal of a row that is not an object, and the fault of a field, read
differently. -/
theorem ofRow_refused_for_code_iff (row rank : Json) :
    Entry.ofRow row rank = .error (Fault.parse s!"排行数据行股票代码无效: {row.literal}") ↔
      (∃ kvs, row = .obj kvs) ∧ Field.isStockCode (presentText row "mksc_shrn_iscd") = false := by
  by_cases hrow : ∃ kvs, row = .obj kvs
  · obtain ⟨kvs, rfl⟩ := hrow
    cases hc : Field.isStockCode (presentText (.obj kvs) "mksc_shrn_iscd") with
    | false => simp [ofRow_of_bad_code rank hc]
    | true =>
      simp only [Bool.true_eq_false, and_false, iff_false]
      intro h
      -- a field's fault begins with another word, or is an overflow
      rcases ofRow_fault_of_good_code hc h with hword | hkind
      · simp [Fault.parse, toString, String.toList_append] at hword
      · cases hkind
  · simp only [not_exists] at hrow
    simp only [ofRow_of_not_obj rank hrow, Except.error.injEq, not_exists.2 hrow, false_and,
      iff_false]
    intro h
    -- the two refusals part after their common opening words
    have htext := congrArg (fun f : Fault => f.text.toList) h
    simp [Fault.parse, toString, String.toList_append] at htext

end Market

/-- A stock code, checked as a text, passes exactly when it is six ASCII digits or capital
letters, possibly followed by one line feed; a ranking row, whose code is trimmed first, is
refused for its code exactly when that code is not six such characters. -/
theorem stock_codes_checked (s : String) (row rank : Json) :
    (Field.checkStockCode (.str s) = .ok true ↔
        Field.SixCode s ∨ ∃ t, Field.SixCode t ∧ s = t ++ "\n") ∧
      (Field.checkStockCode (.str s) = .ok false ↔
        ¬ (Field.SixCode s ∨ ∃ t, Field.SixCode t ∧ s = t ++ "\n")) ∧
      (Market.Entry.ofRow row rank =
          .error (Fault.parse s!"排行数据行股票代码无效: {row.literal}") ↔
        (∃ kvs, row = .obj kvs) ∧ ¬ Field.SixCode (Market.presentText row "mksc_shrn_iscd")) := by
  rw [Field.checkStockCode_str, ← Field.isStockCode_iff, Market.ofRow_refused_for_code_iff,
    ← Field.isStockCode_iff_sixCode (Market.presentText_last_not_blank _ _)]
  simp

/-- Six digits and a line feed pass the check, though they are seven characters. -/
theorem line_feed_code_passes_check :
    Field.checkStockCode (.str "005930\n") = .ok true ∧ ¬ Field.SixCode "005930\n" :=
  ⟨rfl, by decide⟩

end RankAdvisor
