import RankAdvisor.Proofs.JsonReadBack
import RankAdvisor.Advice.Reading
import Mathlib.Data.List.TakeWhile
import Mathlib.Data.List.DropRight

/-! # Written advice reads back

The provider is asked for a narrative and then, on the last line, the JSON object of its
advice. This module follows `Advice.readText` through such a text:

* the last opening brace is the object's when the texts in it hold none (`adviceText_brace`,
  `lastIndex?_of_last`);
* the comma repair works on one piece at a time (`dropCommaBefore_append`) and only deletes
  (`dropCommaBefore_sublist`), so it leaves the object alone when it leaves the quoted summary
  alone (`dropTrailingCommas_adviceText`);
* a line feed after the narrative changes nothing in its cleaning
  (`Narrative.clean_append_newline`);
* a confidence read from any field is clamped into `[0, 1]` (`confidenceOf_unit`), and one
  already there is kept (`Binary64.clamp_of_unit`).

`advice_line_reads_back` puts these together, and `reread_keeps_advice` applies it to the payload
of readable advice. `summary_text_breaks_reading` and `reread_changes_advice` are texts on which
reading does not give the advice back.
-/

namespace RankAdvisor

set_option autoImplicit false

namespace Binary64

/-! ## Clamping to the unit interval -/

theorem Place.compare_swap (a b : Place) : Place.compare b a = (Place.compare a b).swap := by
  cases a <;> cases b <;> simp [Place.compare, Int.compare_swap]

theorem compare?_swap (x y : Binary64) : compare? y x = (compare? x y).map Ordering.swap := by
  unfold compare?
  cases x.place? with
  | none => cases y.place? <;> rfl
  | some a =>
    cases y.place? with
    | none => rfl
    | some b => exact congrArg some (Place.compare_swap a b)

theorem place?_eq_none_iff (x : Binary64) : x.place? = none ↔ x.isNaN = true := by
  unfold place? isNaN
  split <;> simp_all

theorem lt_eq_false_of_le {x y : Binary64} (h : x.le y = true) : y.lt x = false := by
  unfold le at h
  unfold lt
  rw [compare?_swap]
  split at h <;> simp_all

theorem isNaN_of_le_right {x y : Binary64} (h : x.le y = true) : y.isNaN = false := by
  rw [← Bool.not_eq_true, ← place?_eq_none_iff]
  intro hy
  cases hx : x.place? <;> simp [le, compare?, hx, hy] at h

theorem place?_of_not_nan {x : Binary64} (hx : x.isNaN = false) : ∃ a, x.place? = some a :=
  Option.ne_none_iff_exists'.1 (mt (place?_eq_none_iff x).1 (by simp [hx]))

theorem compare?_of_places {x y : Binary64} {a b : Place} (ha : x.place? = some a)
    (hb : y.place? = some b) : compare? x y = some (a.compare b) := by
  simp [compare?, ha, hb, bind, Option.bind, pure]

theorem le_of_not_lt {x y : Binary64} (hx : x.isNaN = false) (hy : y.isNaN = false)
    (h : y.lt x = false) : x.le y = true := by
  obtain ⟨a, ha⟩ := place?_of_not_nan hx
  obtain ⟨b, hb⟩ := place?_of_not_nan hy
  have hxy := compare?_of_places ha hb
  unfold lt at h
  unfold le
  rw [compare?_swap, hxy] at h
  rw [hxy]
  cases hab : a.compare b <;> simp_all

theorem place?_zero : (zero false).place? = some (.steps 0) := by decide

theorem view_one : (ofInt 1).view = .finite false (2 ^ 52) (-52) := by decide +kernel

theorem zero_le_one : (zero false).le (ofInt 1) = true := by decide +kernel

theorem le_self_of_not_nan {x : Binary64} (hx : x.isNaN = false) : x.le x = true := by
  refine le_of_not_lt hx hx ?_
  obtain ⟨a, ha⟩ := place?_of_not_nan hx
  cases a <;> simp [lt, compare?_of_places ha ha, Place.compare]

theorem clamp_of_unit {c : Binary64} (hlo : (zero false).le c = true)
    (hhi : c.le (ofInt 1) = true) : (c.maxLeft (zero false)).minLeft (ofInt 1) = c := by
  rw [maxLeft, if_neg (by simp [lt_eq_false_of_le hlo]), minLeft,
    if_neg (by simp [lt_eq_false_of_le hhi])]

theorem clamp_unit {x : Binary64} (hx : x.isNaN = false) :
    (zero false).le ((x.maxLeft (zero false)).minLeft (ofInt 1)) = true ∧
      ((x.maxLeft (zero false)).minLeft (ofInt 1)).le (ofInt 1) = true := by
  have hzero : (zero false).isNaN = false := by decide
  have hone : (ofInt 1).isNaN = false := isNaN_of_le_right zero_le_one
  -- the lower clamp
  have hlo : (zero false).le (x.maxLeft (zero false)) = true := by
    unfold maxLeft
    split
    · exact le_self_of_not_nan hzero
    next hlt => exact le_of_not_lt hzero hx (Bool.eq_false_iff.2 hlt)
  unfold minLeft
  split
  · exact ⟨zero_le_one, le_self_of_not_nan hone⟩
  next hlt => exact ⟨hlo, le_of_not_lt (isNaN_of_le_right hlo) hone (Bool.eq_false_iff.2 hlt)⟩

theorem finite_of_unit {c : Binary64} (hlo : (zero false).le c = true)
    (hhi : c.le (ofInt 1) = true) : ∃ neg m e, c.view = .finite neg m e := by
  rcases hv : c.view with _ | neg | ⟨neg, m, e⟩
  · have := isNaN_of_le_right hlo
    simp [isNaN, hv] at this
  · -- an infinity lies beyond one end of the interval
    cases neg
    · have hc : c.place? = some .top := by simp [place?, hv]
      have hone : (ofInt 1).place? = some (.steps (unitsOf false (2 ^ 52) (-52))) := by
        simp only [place?, view_one]
      simp [le, compare?_of_places hc hone, Place.compare] at hhi
    · have hc : c.place? = some .bot := by simp [place?, hv]
      simp [le, compare?_of_places place?_zero hc, Place.compare] at hlo
  · exact ⟨neg, m, e, rfl⟩

end Binary64

namespace Text

theorem trimBlank_trimBlank (s : String) : trimBlank (trimBlank s) = trimBlank s := by
  unfold trimBlank dropBlankLeft dropBlankRight
  simp only [String.toList_ofList]
  -- with the leading blanks gone, trimming the end keeps a first character that is not blank
  have hfront : ∀ L : List Char, L.dropWhile isBlank = L →
      (L.rdropWhile isBlank).dropWhile isBlank = L.rdropWhile isBlank := by
    intro L hL
    rw [List.dropWhile_eq_self_iff]
    intro hl
    have hpre := List.rdropWhile_prefix (p := isBlank) (l := L)
    have hL0 : 0 < L.length := lt_of_lt_of_le hl hpre.length_le
    rw [hpre.getElem hl]
    have := List.dropWhile_get_zero_not (p := isBlank) L (by rw [hL]; exact hL0)
    simp only [hL, List.get_eq_getElem] at this
    exact this
  have hR : ∀ L : List Char, (L.reverse.dropWhile isBlank).reverse = L.rdropWhile isBlank :=
    fun _ => rfl
  simp only [hR]
  rw [hfront _ (List.dropWhile_idempotent _ _), List.rdropWhile_idempotent]

end Text

namespace Narrative

/-! ## A line feed at the end changes no cut -/

theorem fence_ne {l : List Char} (h : l.length < 3) : (l == fence) = false := by
  rw [beq_eq_false_iff_ne]
  intro heq
  rw [heq] at h
  simp [fence] at h

theorem afterFence_append_newline (ys : List Char) :
    afterFence (ys ++ ['\n']) = (afterFence ys).map (· ++ ['\n']) := by
  induction ys with
  | nil => rfl
  | cons c rest ih =>
    rcases Nat.lt_or_ge rest.length 2 with hshort | hlong
    · -- too short for a fence, with or without the line feed
      have h1 : ((c :: rest).take 3 == fence) = false := fence_ne (by simp; omega)
      have h2 : ((c :: (rest ++ ['\n'])).take 3 == fence) = false := by
        rw [beq_eq_false_iff_ne]
        intro heq
        have hmem : '\n' ∈ (c :: (rest ++ ['\n'])).take 3 := by
          rw [List.take_of_length_le (by simp; omega)]
          simp
        rw [heq] at hmem
        simp [fence] at hmem
      rw [List.cons_append, afterFence, h2, afterFence, h1]
      simp only [Bool.false_eq_true, if_false]
      exact ih
    · have htake : (c :: rest ++ ['\n']).take 3 = (c :: rest).take 3 :=
        List.take_append_of_le_length (by simp; omega)
      rw [List.cons_append, afterFence, ← List.cons_append, htake, afterFence]
      split
      · simp [List.drop_append_of_le_length hlong]
      · exact ih

theorem opensJsonBlock_append_newline (cs : List Char) :
    opensJsonBlock (cs ++ ['\n']) = opensJsonBlock cs := by
  rcases Nat.lt_or_ge cs.length 7 with hshort | hlong
  · -- the line feed lands in the fence or in the word
    match cs, hshort with
    | [], _ => rfl
    | [_], _ => simp [opensJsonBlock, fence]
    | [_, _], _ => simp [opensJsonBlock, fence]
    | [_, _, _], _ => simp [opensJsonBlock, isJsonWord]
    | [_, _, _, _], _ => simp [opensJsonBlock, isJsonWord]
    | [_, _, _, _, _], _ => simp [opensJsonBlock, isJsonWord]
    | [_, _, _, _, _, _], _ => simp [opensJsonBlock, isJsonWord]
  · unfold opensJsonBlock
    rw [List.take_append_of_le_length (by omega), List.drop_append_of_le_length (by omega),
      List.take_append_of_le_length (by simp; omega)]

theorem length_of_opensJsonBlock {cs : List Char} (h : opensJsonBlock cs = true) :
    7 ≤ cs.length := by
  have hword : ((cs.drop 3).take 4).length = 4 := by
    simp only [opensJsonBlock, Bool.and_eq_true] at h
    revert h
    generalize (cs.drop 3).take 4 = w
    intro h
    match w, h with
    | [_, _, _, _], _ => rfl
  simp only [List.length_take, List.length_drop] at hword
  omega

theorem opensJsonBlock_cons_append_newline (c : Char) (rest : List Char) :
    opensJsonBlock (c :: (rest ++ ['\n'])) = opensJsonBlock (c :: rest) := by
  rw [← List.cons_append, opensJsonBlock_append_newline]

theorem afterFence_drop_append_newline {c : Char} {rest : List Char}
    (h : opensJsonBlock (c :: rest) = true) :
    afterFence ((c :: (rest ++ ['\n'])).drop 7) =
      (afterFence ((c :: rest).drop 7)).map (· ++ ['\n']) := by
  rw [← List.cons_append, List.drop_append_of_le_length (length_of_opensJsonBlock h),
    afterFence_append_newline]

theorem cutJsonBlocks_append_newline (cs : List Char) :
    cutJsonBlocks (cs ++ ['\n']) = cutJsonBlocks cs ++ ['\n'] := by
  fun_induction cutJsonBlocks cs with
  | case1 => simp [cutJsonBlocks, opensJsonBlock, fence]
  | case2 c rest hopen r hr _ ih =>
    rw [List.cons_append, cutJsonBlocks, opensJsonBlock_cons_append_newline, if_pos hopen]
    split
    · rename_i r' heq
      rw [afterFence_drop_append_newline hopen, hr] at heq
      cases heq
      exact ih
    · rename_i heq
      rw [afterFence_drop_append_newline hopen, hr] at heq
      cases heq
  | case3 c rest hopen hnone ih =>
    rw [List.cons_append, cutJsonBlocks, opensJsonBlock_cons_append_newline, if_pos hopen]
    split
    · rename_i r' heq
      rw [afterFence_drop_append_newline hopen, hnone] at heq
      cases heq
    · rw [ih]
      rfl
  | case4 c rest hopen ih =>
    rw [List.cons_append, cutJsonBlocks, opensJsonBlock_cons_append_newline, if_neg hopen, ih]
    rfl

theorem clean_append_newline (n : String) : clean (n ++ "\n") = clean n := by
  have hnl : "\n".toList = ['\n'] := by simp
  unfold clean
  rw [String.toList_append, hnl, cutJsonBlocks_append_newline]
  dsimp only
  rw [List.reverse_append, List.reverse_singleton, List.singleton_append,
    List.dropWhile_cons_of_pos (by decide)]

end Narrative

namespace Advice

/-! ## The last brace -/

theorem lastIndex?_go_append (c : Char) (xs ys : List Char) (i : Nat) (found : Option Nat) :
    lastIndex?.go c (xs ++ ys) i found = lastIndex?.go c ys (i + xs.length) (lastIndex?.go c xs i found) := by
  induction xs generalizing i found with
  | nil => simp [lastIndex?.go]
  | cons d xs ih =>
    simp only [List.cons_append, lastIndex?.go, ih, List.length_cons]
    rw [Nat.add_assoc, Nat.add_comm 1]

theorem lastIndex?_go_of_not_mem {c : Char} {ys : List Char} (h : c ∉ ys) (i : Nat)
    (found : Option Nat) : lastIndex?.go c ys i found = found := by
  induction ys generalizing i with
  | nil => rfl
  | cons d ys ih =>
    have hd : (d == c) = false := by
      rw [beq_eq_false_iff_ne]
      exact fun h' => h (h' ▸ List.mem_cons_self)
    simp only [lastIndex?.go, hd, Bool.false_eq_true, if_false]
    exact ih (fun h' => h (List.mem_cons_of_mem _ h')) _

/-- The last `c` of `xs ++ c :: ys`, when `ys` holds none, is the one after `xs`. -/
theorem lastIndex?_of_last {c : Char} (xs : List Char) {ys : List Char} (h : c ∉ ys) :
    lastIndex? c (xs ++ c :: ys) = some xs.length := by
  unfold lastIndex?
  rw [lastIndex?_go_append]
  simp only [lastIndex?.go, beq_self_eq_true, if_true]
  rw [lastIndex?_go_of_not_mem h, Nat.zero_add]

/-! ## The comma repair -/

theorem dropCommaBefore_cons {close c : Char} (hc : c ≠ ',') (rest : List Char) :
    dropCommaBefore close (c :: rest) = c :: dropCommaBefore close rest := by
  rw [dropCommaBefore, if_neg (by simpa using hc)]

theorem dropCommaBefore_comma (close : Char) {d : Char} {rest' tail : List Char}
    (h : tail.dropWhile Text.isBlank = d :: rest') :
    dropCommaBefore close (',' :: tail) =
      if d = close then close :: dropCommaBefore close rest'
      else ',' :: dropCommaBefore close tail := by
  rw [dropCommaBefore, if_pos (beq_self_eq_true _)]
  split
  · rename_i d' rest'' heq
    rw [h] at heq
    obtain ⟨rfl, rfl⟩ := List.cons.inj heq
    by_cases hd : d = close
    · simp [hd]
    · simp [hd]
  · rename_i heq
    rw [h] at heq
    cases heq

/-- The repair only ever deletes. -/
theorem dropCommaBefore_sublist (close : Char) (l : List Char) :
    (dropCommaBefore close l).Sublist l := by
  fun_induction dropCommaBefore close l with
  | case1 => exact List.Sublist.refl _
  | case2 c rest hc d rest' h hd _ ih =>
    have hsuf : (d :: rest').Sublist rest := h ▸ (List.dropWhile_suffix _).sublist
    simp only [beq_iff_eq] at hd
    subst hd
    exact ((ih.cons_cons _).trans hsuf).cons _
  | case3 c rest _ _ _ _ _ ih => exact ih.cons_cons _
  | case4 c rest _ _ ih => exact ih.cons_cons _
  | case5 c rest _ ih => exact ih.cons_cons _

theorem dropCommaBefore_of_not_mem {close : Char} {l : List Char} (h : ',' ∉ l) :
    dropCommaBefore close l = l := by
  induction l with
  | nil => rw [dropCommaBefore]
  | cons c l ih =>
    have hc : c ≠ ',' := fun hc => h (hc ▸ List.mem_cons_self)
    rw [dropCommaBefore_cons hc, ih (fun h' => h (List.mem_cons_of_mem _ h'))]

theorem dropTrailingCommas_eq_self {l : List Char} (h : dropTrailingCommas l = l) :
    dropCommaBefore '\x7d' l = l ∧ dropCommaBefore ']' l = l := by
  have h1 := dropCommaBefore_sublist '\x7d' l
  have h2 := dropCommaBefore_sublist ']' (dropCommaBefore '\x7d' l)
  unfold dropTrailingCommas at h
  rw [h] at h2
  have hfirst : dropCommaBefore '\x7d' l = l := h1.eq_of_length (le_antisymm h1.length_le h2.length_le)
  rw [hfirst] at h
  exact ⟨hfirst, h⟩

/-- The characters a comma may stop at: the end of a piece must be one of them for the repair
to work on the piece alone. -/
def EndsFirm (a : List Char) : Prop := ∀ x ∈ a.getLast?, Text.isBlank x = false ∧ x ≠ ','

theorem EndsFirm.of_suffix {s l : List Char} (hl : EndsFirm l) (h : s <:+ l) : EndsFirm s := by
  intro x hx
  obtain ⟨p, rfl⟩ := h
  exact hl x (by rw [List.getLast?_append]; simp [Option.mem_def.1 hx])

/-- The repair of a piece that ends firmly does not look past the piece. -/
theorem dropCommaBefore_append (close : Char) (b : List Char) :
    ∀ a : List Char, EndsFirm a →
      dropCommaBefore close (a ++ b) = dropCommaBefore close a ++ dropCommaBefore close b
  | [], _ => by rw [List.nil_append, dropCommaBefore, List.nil_append]
  | c :: rest, ha => by
    have hrest : EndsFirm rest := ha.of_suffix (List.suffix_cons c rest)
    by_cases hc : c = ','
    · subst hc
      -- the comma is not last, and the blanks after it end before a firm character of `rest`
      obtain ⟨x, hx⟩ : ∃ x, rest.getLast? = some x := by
        cases hr : rest.getLast? with
        | some x => exact ⟨x, rfl⟩
        | none =>
          rw [List.getLast?_eq_none_iff] at hr
          subst hr
          exact absurd rfl (ha ',' rfl).2
      have hne : rest.dropWhile Text.isBlank ≠ [] := by
        intro h0
        rw [List.dropWhile_eq_nil_iff] at h0
        have := h0 x (List.mem_of_getLast? hx)
        rw [(hrest x hx).1] at this
        cases this
      obtain ⟨d, rest', hdw⟩ := List.exists_cons_of_ne_nil hne
      have hdw' : (rest ++ b).dropWhile Text.isBlank = d :: (rest' ++ b) := by
        rw [List.dropWhile_append, if_neg (by simp [hdw]), hdw, List.cons_append]
      have hsuf : rest' <:+ rest :=
        (List.suffix_cons d rest').trans (hdw ▸ List.dropWhile_suffix _)
      have hlt : rest'.length < rest.length + 1 := by
        have := hsuf.length_le
        have := (hdw ▸ List.dropWhile_suffix Text.isBlank : d :: rest' <:+ rest).length_le
        simp only [List.length_cons] at this
        omega
      rw [List.cons_append, dropCommaBefore_comma close hdw', dropCommaBefore_comma close hdw]
      split_ifs
      · rw [dropCommaBefore_append close b rest' (hrest.of_suffix hsuf), List.cons_append]
      · rw [dropCommaBefore_append close b rest hrest, List.cons_append]
    · rw [List.cons_append, dropCommaBefore_cons hc, dropCommaBefore_cons hc,
        dropCommaBefore_append close b rest hrest, List.cons_append]
termination_by a => a.length

theorem EndsFirm.cons (c : Char) {l : List Char} (hl : l ≠ []) (h : EndsFirm l) :
    EndsFirm (c :: l) := by
  obtain ⟨y, ys, rfl⟩ := List.exists_cons_of_ne_nil hl
  intro x hx
  rw [List.getLast?_cons_cons] at hx
  exact h x hx

theorem endsFirm_quote (s : String) : EndsFirm (Json.quote false s).toList := by
  intro x hx
  rw [Json.quote_toList, ← List.cons_append, List.getLast?_append] at hx
  simp only [List.getLast?_singleton, Option.some_or, Option.mem_def, Option.some.injEq] at hx
  subst hx
  decide

theorem quote_ne_nil (s : String) : (Json.quote false s).toList ≠ [] := by
  rw [Json.quote_toList]
  exact List.cons_ne_nil _ _

theorem endsFirm_sep_quote (p : Char) (s : String) :
    EndsFirm (p :: ' ' :: (Json.quote false s).toList) :=
  ((endsFirm_quote s).cons ' ' (quote_ne_nil s)).cons p (List.cons_ne_nil _ _)

theorem comma_not_mem_quote {k : String} (hk : ',' ∉ k.toList) :
    ',' ∉ (Json.quote false k).toList := fun h =>
  (Json.mem_quote h).elim hk (by decide)

theorem dropCommaBefore_separator {close : Char} (hclose : close ≠ '"') {k : String}
    (hk : ',' ∉ k.toList) :
    dropCommaBefore close (',' :: ' ' :: (Json.quote false k).toList) =
      ',' :: ' ' :: (Json.quote false k).toList := by
  have hdw : (' ' :: (Json.quote false k).toList).dropWhile Text.isBlank =
      '"' :: ((String.join (k.toList.map (Json.escapeChar false))).toList ++ ['"']) := by
    rw [Json.quote_toList, List.dropWhile_cons_of_pos (by decide),
      List.dropWhile_cons_of_neg (by decide)]
  rw [dropCommaBefore_comma close hdw, if_neg (Ne.symm hclose),
    dropCommaBefore_of_not_mem (l := ' ' :: (Json.quote false k).toList)]
  simp only [List.mem_cons, not_or]
  exact ⟨by decide, comma_not_mem_quote hk⟩

/-! ## The text of a piece of advice -/

theorem adviceText_pieces (w : String) (c : Binary64) (s : String) :
    (Json.write false
        (.obj [("recommendation", .str w), ("confidence", .num c), ("summary", .str s)])).toList =
      ('\x7b' :: (Json.quote false "recommendation").toList) ++
        ((':' :: ' ' :: (Json.quote false w).toList) ++
        ((',' :: ' ' :: (Json.quote false "confidence").toList) ++
        ((':' :: ' ' :: (Binary64.toText .json c).toList) ++
        ((',' :: ' ' :: (Json.quote false "summary").toList) ++
        ((':' :: ' ' :: (Json.quote false s).toList) ++ ['\x7d']))))) := by
  have hcolon : ": ".toList = [':', ' '] := by simp
  have hcomma : ", ".toList = [',', ' '] := by simp
  rw [Json.write_obj_toList, Json.writeMembers_cons_cons, Json.writeMembers_cons_cons,
    Json.writeMembers]
  simp only [String.toList_append, hcolon, hcomma, Json.write, List.append_assoc, List.cons_append,
    List.nil_append]

theorem numberChar_firm {x : Char} (h : Json.NumberChar x) : Text.isBlank x = false ∧ x ≠ ',' := by
  rcases h with rfl | rfl | rfl | rfl | ⟨h0, h9⟩
  · decide
  · decide
  · decide
  · decide
  · have h0' : 48 ≤ x.toNat := Char.le_def.1 h0
    have h9' : x.toNat ≤ 57 := Char.le_def.1 h9
    refine ⟨?_, fun hx => by subst hx; revert h0'; decide⟩
    simp only [Text.isBlank, Bool.or_eq_false_iff, Bool.and_eq_false_imp, decide_eq_true_eq,
      decide_eq_false_iff_not, beq_eq_false_iff_ne, ne_eq]
    omega

/-- The comma repair leaves written advice alone when it leaves the quoted summary alone. -/
theorem dropTrailingCommas_adviceText {w : String} (hw : ',' ∉ w.toList) {c : Binary64}
    {neg : Bool} {m : Nat} {e : Int} (hc : c.view = .finite neg m e) {s : String}
    (hs : dropTrailingCommas (Json.quote false s).toList = (Json.quote false s).toList) :
    dropTrailingCommas (Json.write false
        (.obj [("recommendation", .str w), ("confidence", .num c), ("summary", .str s)])).toList =
      (Json.write false
        (.obj [("recommendation", .str w), ("confidence", .num c), ("summary", .str s)])).toList := by
  -- the number's text is not empty and ends in a digit
  obtain ⟨d, rest, hd, -⟩ := (Json.readsBack_num hc).head
  rw [Json.write] at hd
  have hNne : (Binary64.toText .json c).toList ≠ [] := by rw [hd]; exact List.cons_ne_nil _ _
  have hNfirm : EndsFirm (Binary64.toText .json c).toList := fun x hx =>
    numberChar_firm (Json.toText_numberChar hc x (List.mem_of_getLast? hx))
  -- each pass leaves every piece alone
  have hpass : ∀ close, close ≠ '"' →
      dropCommaBefore close (Json.quote false s).toList = (Json.quote false s).toList →
      dropCommaBefore close (Json.write false
        (.obj [("recommendation", .str w), ("confidence", .num c), ("summary", .str s)])).toList =
      (Json.write false
        (.obj [("recommendation", .str w), ("confidence", .num c), ("summary", .str s)])).toList := by
    intro close hq hqs
    have hcolon : ∀ l : List Char, ',' ∉ l → dropCommaBefore close (':' :: ' ' :: l) = ':' :: ' ' :: l :=
      fun l hl => dropCommaBefore_of_not_mem (by simp only [List.mem_cons, not_or]; exact ⟨by decide, by decide, hl⟩)
    have p1 : dropCommaBefore close ('\x7b' :: (Json.quote false "recommendation").toList) =
        '\x7b' :: (Json.quote false "recommendation").toList := by
      rw [dropCommaBefore_cons (by decide), dropCommaBefore_of_not_mem (comma_not_mem_quote (by decide))]
    have p4 := hcolon _ fun h => (numberChar_firm (Json.toText_numberChar hc _ h)).2 rfl
    have p6 : dropCommaBefore close (':' :: ' ' :: (Json.quote false s).toList) =
        ':' :: ' ' :: (Json.quote false s).toList := by
      rw [dropCommaBefore_cons (by decide), dropCommaBefore_cons (by decide), hqs]
    rw [adviceText_pieces,
      dropCommaBefore_append close _ _ ((endsFirm_quote _).cons '\x7b' (quote_ne_nil _)),
      dropCommaBefore_append close _ _ (endsFirm_sep_quote ':' w),
      dropCommaBefore_append close _ _ (endsFirm_sep_quote ',' _),
      dropCommaBefore_append close _ _ ((hNfirm.cons ' ' hNne).cons ':' (List.cons_ne_nil _ _)),
      dropCommaBefore_append close _ _ (endsFirm_sep_quote ',' _),
      dropCommaBefore_append close _ _ (endsFirm_sep_quote ':' s),
      p1, hcolon _ (comma_not_mem_quote hw), dropCommaBefore_separator hq (by decide), p4,
      dropCommaBefore_separator hq (by decide), p6,
      dropCommaBefore_of_not_mem (l := ['\x7d']) (by decide)]
  obtain ⟨h1, h2⟩ := dropTrailingCommas_eq_self hs
  unfold dropTrailingCommas
  rw [hpass '\x7d' (by decide) h1, hpass ']' (by decide) h2]

theorem brace_not_mem_quote {k : String} (hk : '\x7b' ∉ k.toList) :
    '\x7b' ∉ (Json.quote false k).toList := fun h =>
  (Json.mem_quote h).elim hk (by decide)

/-- The opening brace of written advice is its only one, when the texts in it hold none. -/
theorem adviceText_brace {w : String} (hw : '\x7b' ∉ w.toList) {c : Binary64} {neg : Bool}
    {m : Nat} {e : Int} (hc : c.view = .finite neg m e) {s : String} (hs : '\x7b' ∉ s.toList) :
    ∃ rest, (Json.write false
        (.obj [("recommendation", .str w), ("confidence", .num c), ("summary", .str s)])).toList =
      '\x7b' :: (rest ++ ['\x7d']) ∧ '\x7b' ∉ rest := by
  refine ⟨(Json.quote false "recommendation").toList ++ ':' :: ' ' :: ((Json.quote false w).toList ++
      ',' :: ' ' :: ((Json.quote false "confidence").toList ++ ':' :: ' ' ::
      ((Binary64.toText .json c).toList ++ ',' :: ' ' :: ((Json.quote false "summary").toList ++
      ':' :: ' ' :: (Json.quote false s).toList)))),
    by rw [adviceText_pieces]; simp only [List.cons_append, List.append_assoc], ?_⟩
  have hN : '\x7b' ∉ (Binary64.toText .json c).toList := fun h =>
    absurd (Json.toText_numberChar hc _ h) (by decide)
  simp [brace_not_mem_quote hw, brace_not_mem_quote hs, hN,
    brace_not_mem_quote (k := "recommendation") (by decide),
    brace_not_mem_quote (k := "confidence") (by decide),
    brace_not_mem_quote (k := "summary") (by decide)]

theorem read_adviceText (w : String) {c : Binary64} {neg : Bool} {m : Nat} {e : Int}
    (hc : c.view = .finite neg m e) (s : String) :
    Json.read (Json.write false
        (.obj [("recommendation", .str w), ("confidence", .num c), ("summary", .str s)])) =
      .ok (.obj [("recommendation", .str w), ("confidence", .num c), ("summary", .str s)]) := by
  rw [Json.read_write_obj ?_ (List.cons_ne_nil _ _), Json.foldl_insertMember_nodup _ _ (by simp)]
  · rfl
  · intro kv hkv
    simp only [List.mem_cons, List.not_mem_nil, or_false] at hkv
    rcases hkv with rfl | rfl | rfl
    · exact Json.readsBack_str _
    · exact Json.readsBack_num hc
    · exact Json.readsBack_str _

/-! ## The confidence -/

theorem confidenceOf_num {x : Binary64} (hx : x.isNaN = false) :
    confidenceOf (some (.num x)) =
      .ok (some ((x.maxLeft (Binary64.zero false)).minLeft (Binary64.ofInt 1))) := by
  simp [confidenceOf, hx, bind, Except.bind, pure, Except.pure]

theorem confidence_of_value {m : Except Fault (Option Binary64)} {conf : Binary64}
    (h : (m >>= fun x? => match x? with
      | none => pure none
      | some x =>
        if x.isNaN then pure none
        else pure (some ((x.maxLeft (Binary64.zero false)).minLeft (Binary64.ofInt 1)))) =
      .ok (some conf)) :
    ∃ x : Binary64, x.isNaN = false ∧
      conf = (x.maxLeft (Binary64.zero false)).minLeft (Binary64.ofInt 1) := by
  rcases m with e | _ | x
  · cases h
  · cases h
  · by_cases hx : x.isNaN = true
    · simp [bind, Except.bind, hx, pure, Except.pure] at h
    · have hconf : (x.maxLeft (Binary64.zero false)).minLeft (Binary64.ofInt 1) = conf := by
        simpa [bind, Except.bind, hx, pure, Except.pure] using h
      exact ⟨x, Bool.eq_false_iff.2 hx, hconf.symm⟩

/-- A confidence read from a field lies in `[0, 1]`. -/
theorem confidenceOf_unit {v : Option Json} {conf : Binary64}
    (h : confidenceOf v = .ok (some conf)) :
    (Binary64.zero false).le conf = true ∧ conf.le (Binary64.ofInt 1) = true := by
  unfold confidenceOf at h
  dsimp only at h
  -- each kind of field hands its value, if any, to the NaN test and the clamp
  obtain ⟨x, hx, rfl⟩ : ∃ x : Binary64, x.isNaN = false ∧
      conf = (x.maxLeft (Binary64.zero false)).minLeft (Binary64.ofInt 1) := by
    split at h
    · split at h <;> exact confidence_of_value h
    all_goals exact confidence_of_value h
  exact Binary64.clamp_unit hx

theorem readText_readable {t : String} {r : Advice} (h : readText t = .ok r)
    (hr : r.recommendation ≠ .unreadable) :
    (Binary64.zero false).le r.confidence = true ∧ r.confidence.le (Binary64.ofInt 1) = true ∧
      (∃ s, r.summary = .str (Text.trimBlank s)) ∧ ∃ n, r.narrative = .str n := by
  have hun : ∀ {x : Advice}, (pure (unreadable t) : Except Fault Advice) = .ok x →
      x.recommendation = .unreadable := by
    intro x hx
    cases hx
    rfl
  unfold readText at h
  -- every exit but the last gives unreadable advice, or fails
  split at h
  · exact absurd (hun h) hr
  dsimp only at h
  split at h
  rotate_left
  · exact absurd (hun h) hr
  split at h
  rotate_left
  · exact absurd (hun h) hr
  split at h
  · -- the body is an object
    simp only [bind, Except.bind, pure, Except.pure] at h
    split at h
    rotate_left
    · exact absurd (hun h) hr
    split at h
    · cases h
    · rename_i conf? hconf
      split at h
      rotate_left
      · exact absurd (hun h) hr
      split at h
      rotate_left
      · exact absurd (hun h) hr
      cases h
      exact ⟨(confidenceOf_unit hconf).1, (confidenceOf_unit hconf).2, ⟨_, rfl⟩, ⟨_, rfl⟩⟩
  · exact absurd (hun h) hr
  · split at h
    · cases h
    · exact absurd (hun h) hr

/-- Advice written as the provider is asked to write it reads back, the summary trimmed and
the narrative cleaned, when the summary's quoted text is one the comma repair leaves alone. -/
theorem readText_adviceText {rec : Recommendation} (hrec : rec ≠ .unreadable) {c : Binary64}
    (hlo : (Binary64.zero false).le c = true) (hhi : c.le (Binary64.ofInt 1) = true)
    (n s : String) (hs : '\x7b' ∉ s.toList)
    (hcommas : dropTrailingCommas (Json.quote false s).toList = (Json.quote false s).toList) :
    readText (n ++ "\n" ++ Json.write false
        (.obj [("recommendation", .str rec.word), ("confidence", .num c), ("summary", .str s)])) =
      .ok ⟨rec, c, .str (Text.trimBlank s), .str (Narrative.clean n)⟩ := by
  obtain ⟨neg, m, e, hc⟩ := Binary64.finite_of_unit hlo hhi
  have hw : '\x7b' ∉ rec.word.toList ∧ ',' ∉ rec.word.toList := by cases rec <;> decide
  obtain ⟨rest, htext, hrest⟩ := adviceText_brace hw.1 hc hs
  have hcs : (n ++ "\n" ++ Json.write false
      (.obj [("recommendation", .str rec.word), ("confidence", .num c), ("summary", .str s)])).toList =
      (n.toList ++ ['\n']) ++ '\x7b' :: (rest ++ ['\x7d']) := by
    rw [String.toList_append, String.toList_append, htext]
    simp
  -- the text is not blank: it holds the brace
  have hblank : Text.isAllBlank (n ++ "\n" ++ Json.write false
      (.obj [("recommendation", .str rec.word), ("confidence", .num c), ("summary", .str s)])) =
        false := by
    rw [Text.isAllBlank, hcs, List.all_eq_false]
    exact ⟨'\x7b', by simp, by decide⟩
  -- the object runs from the last opening brace to the last closing one
  have hstart : lastIndex? '\x7b' (n.toList ++ ['\n'] ++ '\x7b' :: (rest ++ ['\x7d'])) =
      some (n.toList.length + 1) := by
    rw [lastIndex?_of_last _ (by simpa using hrest), List.length_append, List.length_singleton]
  have hstop : lastIndex? '\x7d' ('\x7b' :: (rest ++ ['\x7d'])) = some (rest.length + 1) := by
    rw [← List.cons_append, lastIndex?_of_last _ (List.not_mem_nil), List.length_cons]
  have hbody : dropTrailingCommas ('\x7b' :: (rest ++ ['\x7d'])) = '\x7b' :: (rest ++ ['\x7d']) := by
    rw [← htext]
    exact dropTrailingCommas_adviceText hw.2 hc hcommas
  have hread : Json.read (String.ofList ('\x7b' :: (rest ++ ['\x7d']))) =
      .ok (.obj [("recommendation", .str rec.word), ("confidence", .num c), ("summary", .str s)]) := by
    rw [← htext, String.ofList_toList, read_adviceText _ hc]
  have hconf : confidenceOf (some (.num c)) = .ok (some c) := by
    rw [confidenceOf_num (Binary64.isNaN_of_le_right hlo), Binary64.clamp_of_unit hlo hhi]
  have hnarr : Narrative.clean (String.ofList ((n.toList ++ ['\n'] ++ '\x7b' :: (rest ++ ['\x7d'])).take
      (n.toList.length + 1))) = Narrative.clean n := by
    have hline : String.ofList (n.toList ++ ['\n']) = n ++ "\n" := by simp
    rw [List.take_left' (by simp), hline, Narrative.clean_append_newline]
  unfold readText
  rw [hblank, hcs]
  have hdrop : (n.toList ++ ['\n'] ++ '\x7b' :: (rest ++ ['\x7d'])).drop (n.toList.length + 1) =
      '\x7b' :: (rest ++ ['\x7d']) := List.drop_left' (by simp)
  have htake : ('\x7b' :: (rest ++ ['\x7d'])).take (rest.length + 1 + 1) = '\x7b' :: (rest ++ ['\x7d']) :=
    List.take_of_length_le (by simp)
  -- the fields of the object
  have hgetRec : (Json.obj [("recommendation", .str rec.word), ("confidence", .num c),
      ("summary", .str s)]).get? "recommendation" = some (.str rec.word) := by simp [Json.get?]
  have hgetConf : (Json.obj [("recommendation", .str rec.word), ("confidence", .num c),
      ("summary", .str s)]).get? "confidence" = some (.num c) := by simp [Json.get?]
  have hgetSum : (Json.obj [("recommendation", .str rec.word), ("confidence", .num c),
      ("summary", .str s)]).get? "summary" = some (.str s) := by simp [Json.get?]
  simp only [Bool.false_eq_true, if_false, hstart, hdrop, hstop, htake, hbody, hread, hnarr, pure,
    Except.pure, bind, Except.bind, hgetRec, hgetConf, hgetSum, Option.getD_some,
    Json.plainText, hconf]
  -- the recommendation's word reads back as itself
  cases rec
  · rfl
  · rfl
  · exact absurd rfl hrec

/-! ## Reading written advice back -/

/-- Advice written on the line after a narrative, as the provider is asked to write it, reads
back: the recommendation and the confidence as written, the summary trimmed and the narrative
cleaned, for a summary with no opening brace whose quoted text the comma repair leaves alone. -/
theorem advice_line_reads_back {rec : Recommendation} (hrec : rec = .buy ∨ rec = .sell)
    {c : Binary64} (hc : (Binary64.zero false).le c = true ∧ c.le (Binary64.ofInt 1) = true)
    (n s : String) (hs : '\x7b' ∉ s.toList)
    (hcommas : dropTrailingCommas (Json.quote false s).toList = (Json.quote false s).toList) :
    readText (n ++ "\n" ++ Json.write false
        (.obj [("recommendation", .str rec.word), ("confidence", .num c), ("summary", .str s)])) =
      .ok ⟨rec, c, .str (Text.trimBlank s), .str (Narrative.clean n)⟩ :=
  readText_adviceText (by rcases hrec with rfl | rfl <;> decide) hc.1 hc.2 n s hs hcommas

theorem advice_line_reads_back_buy :
    readText ("Volume is rising." ++ "\n" ++ Json.write false
        (.obj [("recommendation", .str Recommendation.buy.word),
          ("confidence", .num ⟨0x3FE0000000000000⟩), ("summary", .str " Buy on dips. ")])) =
      .ok ⟨.buy, ⟨0x3FE0000000000000⟩, .str (Text.trimBlank " Buy on dips. "),
        .str (Narrative.clean "Volume is rising.")⟩ :=
  advice_line_reads_back (.inl rfl) ⟨by decide +kernel, by decide +kernel⟩ _ _ (by decide +kernel)
    (by decide +kernel)

/-- Reading the payload of readable advice back, after its narrative and a line feed, gives
the same advice with its narrative cleaned once more, for a summary with no opening brace whose
quoted text the comma repair leaves alone. -/
theorem reread_keeps_advice {t : String} {r : Advice} (h : readText t = .ok r)
    (hr : r.recommendation ≠ .unreadable) (hs : '\x7b' ∉ r.summary.plainText.toList)
    (hcommas : dropTrailingCommas (Json.quote false r.summary.plainText).toList =
      (Json.quote false r.summary.plainText).toList) :
    readText (r.narrative.plainText ++ "\n" ++ Json.write false r.payload) =
      .ok { r with narrative := .str (Narrative.clean r.narrative.plainText) } := by
  obtain ⟨hlo, hhi, ⟨s, hsum⟩, ⟨n, hnarr⟩⟩ := readText_readable h hr
  obtain ⟨rec, conf, summary, narrative⟩ := r
  dsimp only at hsum hnarr hlo hhi hr hs hcommas ⊢
  subst hsum hnarr
  simp only [Json.plainText] at hs hcommas ⊢
  rw [payload, readText_adviceText hr hlo hhi n (Text.trimBlank s) hs hcommas,
    Text.trimBlank_trimBlank]

theorem reread_keeps_advice_sample :
    readText ("Volume is rising." ++ "\n" ++ Json.write false
        (payload ⟨.buy, ⟨0x3FE0000000000000⟩, .str "Buy on dips.", .str "Volume is rising."⟩)) =
      .ok ⟨.buy, ⟨0x3FE0000000000000⟩, .str "Buy on dips.",
        .str (Narrative.clean "Volume is rising.")⟩ := by
  have hread := @readText_adviceText .buy (by decide) ⟨0x3FE0000000000000⟩
    (by decide +kernel) (by decide +kernel) "Volume is rising." "Buy on dips." (by decide +kernel)
    (by decide +kernel)
  rw [show Text.trimBlank "Buy on dips." = "Buy on dips." by decide +kernel,
    show Narrative.clean "Volume is rising." = "Volume is rising." by decide +kernel] at hread
  -- stated before it is used: checked against the goal, the reader would be unfolded
  have hagain := reread_keeps_advice hread (by decide) (by decide +kernel) (by decide +kernel)
  exact hagain

/-- A summary with an opening brace, or with a comma that blanks and a closing brace follow,
does not read back: the brace makes the advice unreadable, and the comma is dropped. -/
theorem summary_text_breaks_reading :
    (readText ("x" ++ "\n" ++ Json.write false (.obj [("recommendation", .str "BUY"),
      ("confidence", .num ⟨0x3FE0000000000000⟩), ("summary", .str "\x7b")]))).toOption.map
        (·.recommendation) = some .unreadable ∧
    (readText ("x" ++ "\n" ++ Json.write false (.obj [("recommendation", .str "BUY"),
      ("confidence", .num ⟨0x3FE0000000000000⟩), ("summary", .str "a, \x7d")]))).toOption.map
        (·.summary.plainText) = some "a\x7d" :=
  ⟨by decide +kernel, by decide +kernel⟩

/-- Reading the payload back does not give the same advice: a narrative that ends in two fences
is cleaned to one fence, which the second reading drops; and a summary read from an escaped
brace is written back as a brace, which makes the advice unreadable. -/
theorem reread_changes_advice :
    (readText (String.ofList (Narrative.fence ++ Narrative.fence) ++ "\n" ++
      Json.write false (.obj [("recommendation", .str "BUY"),
        ("confidence", .num ⟨0x3FE0000000000000⟩), ("summary", .str "a")]))).toOption.map
        (·.narrative.plainText) = some (String.ofList Narrative.fence) ∧
    (readText (String.ofList Narrative.fence ++ "\n" ++
      Json.write false (.obj [("recommendation", .str "BUY"),
        ("confidence", .num ⟨0x3FE0000000000000⟩), ("summary", .str "a")]))).toOption.map
        (·.narrative.plainText) = some "" ∧
    (readText ("x\n\x7b\"recommendation\": \"BUY\", \"confidence\": 0.5, \"summary\": \"\\u007b\"\x7d")).toOption.map
        (·.summary.plainText) = some "\x7b" ∧
    (readText ("x" ++ "\n" ++ Json.write false (.obj [("recommendation", .str "BUY"),
      ("confidence", .num ⟨0x3FE0000000000000⟩), ("summary", .str "\x7b")]))).toOption.map
        (·.recommendation) = some .unreadable :=
  ⟨by decide +kernel, by decide +kernel, by decide +kernel, by decide +kernel⟩

end Advice

end RankAdvisor
