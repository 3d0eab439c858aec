import RankAdvisor.Proofs.NumberText

/-! # Written JSON reads back

What `Json.write` writes without escaping beyond ASCII, `Json.read` reads back:

* `readString_escaped`: the escapes of any characters, then a quote, read back as those
  characters; every character is written raw or with a one-letter escape, except the control
  characters, which take four hexadecimal digits.
* `ReadsBack v`: `readValue` reads the text of `v` back as `v`; texts (`readsBack_str`) and
  finite doubles (`readsBack_num`) do.
* `read_write_obj`: an object of such values reads back as the members its text lists, put
  together as the reader puts them (`foldl_insertMember_nodup`: as they come, when their names
  differ).
* `mem_quote`: quoting adds only backslashes, quotes, digits and small letters.
-/

namespace RankAdvisor

set_option autoImplicit false

namespace Json

section
variable (total begin : Nat)

theorem readString_raw {c : Char} (hc : 0x1F < c.toNat) (hq : c ≠ '"') (hb : c ≠ '\\')
    (rest acc : List Char) :
    readString total begin (c :: rest) acc = readString total begin rest (c :: acc) := by
  rw [readString, if_neg (by omega)]
  · exact hq
  · exact hb

theorem hexValue?_digitChar : ∀ k < 16, hexValue? (Nat.digitChar k) = some k := by decide

theorem hex4_toList_small : ∀ n < 32,
    List.replicate (4 - (Nat.toDigits 16 n).length) '0' ++ Nat.toDigits 16 n =
      ['0', '0', Nat.digitChar (n / 16), Nat.digitChar (n % 16)] := by decide

theorem unicodeEscape_small {n : Nat} (hn : n < 32) {rest : List Char} (hrest : rest ≠ []) :
    unicodeEscape total ('u' :: '0' :: '0' :: Nat.digitChar (n / 16) :: Nat.digitChar (n % 16) :: rest) =
      .ok (Char.ofNat n, rest) := by
  obtain ⟨x, xs, rfl⟩ := List.exists_cons_of_ne_nil hrest
  have hhex : hex4? '0' '0' (Nat.digitChar (n / 16)) (Nat.digitChar (n % 16)) = some n := by
    simp only [hex4?, hexValue?_digitChar (n / 16) (by omega),
      hexValue?_digitChar (n % 16) (Nat.mod_lt _ (by decide))]
    simp [hexValue?]
    omega
  simp only [unicodeEscape, hhex]
  rw [if_neg (by omega)]
  simp [charOfCode, show ¬ (0xD800 ≤ n ∧ n < 0xE000) by omega]

theorem readString_escapeChar (c : Char) {rest : List Char} (hrest : rest ≠ []) (acc : List Char) :
    readString total begin ((escapeChar false c).toList ++ rest) acc =
      readString total begin rest (c :: acc) := by
  unfold escapeChar
  split
  rotate_left 7
  next hq hb _ _ _ _ _ =>
    dsimp only
    rcases hs : surrogateOf? c with _ | u
    · by_cases hlow : c.toNat < 0x20
      · -- a control character: four hexadecimal digits after \u
        obtain ⟨x, xs, rfl⟩ := List.exists_cons_of_ne_nil hrest
        simp only [if_pos hlow, hex4, String.toList_append, String.toList_ofList,
          hex4_toList_small _ hlow]
        have hu : "\\u".toList = ['\\', 'u'] := by simp
        simp only [hu, List.cons_append, List.nil_append]
        conv_lhs => rw [readString]
        simp only [unicodeEscape_small total hlow (List.cons_ne_nil x xs)]
        rw [if_pos (by simp), Char.ofNat_toNat]
      · simp only [if_neg hlow, Bool.false_and, Bool.false_eq_true, if_false,
          String.toList_singleton, List.singleton_append]
        exact readString_raw total begin (by omega) hq hb rest acc
    · have hbase : loneBase ≤ c.toNat := by
        unfold surrogateOf? at hs
        split at hs
        · assumption
        · cases hs
      simp only [Bool.false_eq_true, if_false, String.toList_singleton, List.singleton_append]
      exact readString_raw total begin (by unfold loneBase at hbase; omega) hq hb rest acc
  all_goals simp [readString, simpleEscape?]

theorem readString_escaped (l r acc : List Char) :
    readString total begin ((String.join (l.map (escapeChar false))).toList ++ '"' :: r) acc =
      .ok (String.ofList (acc.reverse ++ l), r) := by
  induction l generalizing acc with
  | nil => simp [readString]
  | cons c l ih =>
    rw [List.map_cons, String.join_cons, String.toList_append, List.append_assoc,
      readString_escapeChar total begin c (by simp) acc, ih]
    simp

-- by evaluation: the general equation of the mutual definition is slow to build
theorem readValue_quote_cons (depth fuel : Nat) (rest : List Char) :
    readValue total depth (fuel + 1) ('"' :: rest) =
      (readString total (posOf total ('"' :: rest)) rest []).map fun (s, r) => (.str s, r) :=
  rfl

theorem readValue_quote (depth fuel : Nat) (s : String) (r : List Char) :
    readValue total depth (fuel + 1) ((quote false s).toList ++ r) = .ok (.str s, r) := by
  have hq : "\"".toList = ['"'] := by simp
  simp only [quote, String.toList_append, hq, List.cons_append, List.nil_append, List.append_assoc]
  rw [readValue_quote_cons, readString_escaped]
  simp [Except.map]

theorem readWhole_head {d : Char} {r : List Char} (h : readWhole (d :: r) ≠ none) :
    '0' ≤ d ∧ d ≤ '9' := by
  by_cases h0 : d = '0'
  · subst h0; decide
  · simp only [readWhole, ne_eq, ite_eq_right_iff, reduceCtorEq, imp_false, not_not,
      Bool.and_eq_true, decide_eq_true_eq] at h
    exact ⟨Char.le_trans (by decide) h.1, h.2⟩

theorem readNumber_head {c : Char} {rest : List Char} {x : Json × List Char × Nat}
    (h : readNumber (c :: rest) = some x) :
    ('0' ≤ c ∧ c ≤ '9') ∨ c = '-' ∧ ∃ d rest', rest = d :: rest' ∧ '0' ≤ d ∧ d ≤ '9' := by
  have hwhole : readWhole (readMinus (c :: rest)).2 ≠ none := by
    intro h0
    simp only [readNumber] at h
    rw [h0] at h
    cases h
  by_cases hm : c = '-'
  · subst hm
    right
    refine ⟨rfl, ?_⟩
    cases rest with
    | nil => exact absurd rfl hwhole
    | cons d rest' => exact ⟨d, rest', rfl, readWhole_head hwhole⟩
  · left
    have : readMinus (c :: rest) = (false, c :: rest) := by
      unfold readMinus
      split
      · rename_i heq; exact absurd (List.cons.inj heq).1 hm
      · rfl
    rw [this] at hwhole
    exact readWhole_head hwhole

theorem readValue_number {cs : List Char} {v : Json} {r : List Char}
    (h : readNumber cs = some (v, r, 0)) (depth fuel : Nat) :
    readValue total depth (fuel + 1) cs = .ok (v, r) := by
  match cs, h with
  | [], h => simp [readNumber, readMinus, readWhole] at h
  | c :: rest, h =>
    rcases readNumber_head h with hd | ⟨rfl, d, rest', rfl, hd⟩
    · rw [readValue, h]
      · rfl
      all_goals (intro _ heq; obtain ⟨rfl, -⟩ := List.cons.inj heq; revert hd; decide)
    · rw [readValue, h]
      · rfl
      all_goals (intro _ heq; simp only [List.cons.injEq] at heq)
      -- only the spelling of negative infinity starts with a minus sign
      all_goals first
        | exact absurd heq.1 (by decide)
        | (obtain ⟨-, rfl, -⟩ := heq; revert hd; decide)

theorem isWs_digit {c : Char} (hc : '0' ≤ c ∧ c ≤ '9') : isWs c = false := by
  by_contra h
  simp only [isWs, Bool.not_eq_false, Bool.or_eq_true, beq_iff_eq] at h
  rcases h with ((rfl | rfl) | rfl) | rfl <;> revert hc <;> decide

/-- A value that `readValue` reads back from its text, whatever follows that a number cannot
continue into; its text starts with a character that is not a blank. -/
structure ReadsBack (v : Json) : Prop where
  head : ∃ c rest, (write false v).toList = c :: rest ∧ isWs c = false
  read : ∀ total depth fuel r, NumberEnd r →
    readValue total depth (fuel + 1) ((write false v).toList ++ r) = .ok (v, r)

theorem readsBack_str (s : String) : ReadsBack (.str s) where
  head := ⟨'"', _, by simp [write, quote]; rfl, rfl⟩
  read total depth fuel r _ := by rw [write]; exact readValue_quote total depth fuel s r

theorem readsBack_num {x : Binary64} {neg : Bool} {m : Nat} {e : Int}
    (hx : x.view = .finite neg m e) : ReadsBack (.num x) where
  head := by
    have h := readNumber_toText hx (r := []) (fun _ h => by cases h)
    rw [List.append_nil] at h
    rw [write]
    match hcs : (Binary64.toText .json x).toList, h with
    | [], h => simp [readNumber, readMinus, readWhole] at h
    | c :: rest, h =>
      refine ⟨c, rest, rfl, ?_⟩
      rcases readNumber_head h with hd | ⟨rfl, -⟩
      · exact isWs_digit hd
      · decide
  read total depth fuel r hr := by
    rw [write]
    exact readValue_number total (readNumber_toText hx hr) depth fuel


theorem quote_toList (s : String) :
    (quote false s).toList = '"' :: ((String.join (s.toList.map (escapeChar false))).toList ++ ['"']) := by
  have hq : "\"".toList = ['"'] := by simp
  rw [quote, String.toList_append, String.toList_append, hq, List.singleton_append,
    List.cons_append]

theorem skipWs_cons {c : Char} (rest : List Char) (hc : isWs c = false) :
    skipWs (c :: rest) = c :: rest := by
  simp [skipWs, List.dropWhile, hc]

theorem readMembers_member (depth g : Nat) (acc : List (String × Json)) (first : Bool)
    (k : String) {v : Json} (hv : ReadsBack v) {tail : List Char} (htail : NumberEnd tail) :
    readMembers total depth (g + 2) acc first
        ((quote false k).toList ++ ':' :: ' ' :: ((write false v).toList ++ tail)) =
      match skipWs tail with
      | '}' :: rest => .ok (.obj (insertMember acc k v), rest)
      | ',' :: rest => readMembers total depth (g + 1) (insertMember acc k v) false (skipWs rest)
      | r' => .error ⟨.expectingComma, posOf total r'⟩ := by
  obtain ⟨c, cs, hcs, hc⟩ := hv.head
  have hskip : skipWs (' ' :: ((write false v).toList ++ tail)) = (write false v).toList ++ tail := by
    rw [hcs, List.cons_append, skipWs, List.dropWhile_cons_of_pos (by decide), ← skipWs,
      skipWs_cons _ hc]
  rw [quote_toList, List.cons_append, List.append_assoc, List.singleton_append, readMembers,
    readString_escaped]
  simp only [List.reverse_nil, List.nil_append, String.ofList_toList, bind, Except.bind]
  rw [skipWs_cons _ (by decide)]
  simp only []
  -- both sides end in the same match, written once in the statement and once in readMembers
  rewrite [hskip, hv.read total depth g tail htail]
  rfl

theorem writeMembers_cons_cons (k : String) (v : Json) (kv : String × Json)
    (rest : List (String × Json)) :
    writeMembers false ((k, v) :: kv :: rest) =
      quote false k ++ ": " ++ write false v ++ ", " ++ writeMembers false (kv :: rest) := by
  rw [writeMembers]
  intro h
  cases h

theorem numberEnd_cons {c : Char} (r : List Char)
    (hc : ¬ ('0' ≤ c ∧ c ≤ '9') ∧ c ≠ 'e' ∧ c ≠ 'E') : NumberEnd (c :: r) := by
  intro x hx
  cases hx
  exact hc

theorem writeMembers_head {kvs : List (String × Json)} (hne : kvs ≠ []) :
    ∃ rest, (writeMembers false kvs).toList = '"' :: rest := by
  match kvs, hne with
  | [(k, v)], _ => exact ⟨_, by rw [writeMembers, String.toList_append, String.toList_append,
      quote_toList, List.cons_append, List.cons_append]⟩
  | (k, v) :: kv :: rest, _ => exact ⟨_, by
      rw [writeMembers_cons_cons, String.toList_append, String.toList_append, String.toList_append,
        String.toList_append, quote_toList]
      simp only [List.cons_append]
      rfl⟩

/-- Written members, then the closing brace, read back as the object they make. -/
theorem readMembers_written (depth : Nat) :
    ∀ (kvs : List (String × Json)), (∀ kv ∈ kvs, ReadsBack kv.2) → kvs ≠ [] →
      ∀ (g : Nat) (acc : List (String × Json)) (first : Bool) (r : List Char),
        kvs.length ≤ g + 1 →
        readMembers total depth (g + 2) acc first ((writeMembers false kvs).toList ++ '\x7d' :: r) =
          .ok (.obj (kvs.foldl (fun acc kv => insertMember acc kv.1 kv.2) acc), r)
  | [], _, hne, _, _, _, _, _ => absurd rfl hne
  | [(k, v)], hkvs, _, g, acc, first, r, _ => by
    have hv := hkvs (k, v) List.mem_cons_self
    have hcolon : ": ".toList = [':', ' '] := by simp
    rw [writeMembers, String.toList_append, String.toList_append, hcolon, List.append_assoc,
      List.append_assoc, List.cons_append, List.cons_append, List.nil_append,
      readMembers_member total depth g acc first k hv (numberEnd_cons _ (by decide)),
      skipWs_cons _ (by decide)]
    rfl
  | (k, v) :: kv :: rest, hkvs, _, g, acc, first, r, hlen => by
    have hv := hkvs (k, v) List.mem_cons_self
    obtain ⟨g, rfl⟩ : ∃ g', g = g' + 1 := ⟨g - 1, by simp at hlen; omega⟩
    obtain ⟨more, hmore⟩ := writeMembers_head (List.cons_ne_nil kv rest)
    have hcolon : ": ".toList = [':', ' '] := by simp
    have hcomma : ", ".toList = [',', ' '] := by simp
    have ih := readMembers_written depth (kv :: rest)
      (fun x hx => hkvs x (List.mem_cons_of_mem _ hx)) (List.cons_ne_nil _ _) g
      (insertMember acc k v) false r (by simp at hlen ⊢; omega)
    rw [writeMembers_cons_cons, String.toList_append, String.toList_append, String.toList_append,
      String.toList_append, hcolon, hcomma]
    simp only [List.append_assoc, List.cons_append, List.nil_append]
    rw [readMembers_member total depth (g + 1) acc first k hv (numberEnd_cons _ (by decide)),
      skipWs_cons _ (by decide)]
    have hskip : skipWs (' ' :: ((writeMembers false (kv :: rest)).toList ++ '\x7d' :: r)) =
        (writeMembers false (kv :: rest)).toList ++ '\x7d' :: r := by
      rw [hmore, List.cons_append, skipWs, List.dropWhile_cons_of_pos (by decide), ← skipWs,
        skipWs_cons _ (by decide)]
    simp only [hskip]
    exact ih


theorem length_writeMembers :
    ∀ kvs : List (String × Json), kvs.length ≤ (writeMembers false kvs).toList.length
  | [] => by simp
  | [(k, v)] => by
    obtain ⟨more, hmore⟩ := writeMembers_head (List.cons_ne_nil (k, v) [])
    rw [hmore]
    simp
  | (k, v) :: kv :: rest => by
    have ih := length_writeMembers (kv :: rest)
    rw [writeMembers_cons_cons]
    simp only [String.toList_append, List.length_append, quote_toList, List.length_cons]
    simp only [List.length_cons] at ih
    omega

theorem write_obj_toList (kvs : List (String × Json)) :
    (write false (.obj kvs)).toList = '\x7b' :: ((writeMembers false kvs).toList ++ ['\x7d']) := by
  rw [write, String.toList_append, String.toList_append]
  rfl

end

/-- A written object whose values read back reads back as the object its members build, one
after another, the way the reader keeps them. -/
theorem read_write_obj {kvs : List (String × Json)} (hkvs : ∀ kv ∈ kvs, ReadsBack kv.2)
    (hne : kvs ≠ []) :
    read (write false (.obj kvs)) = .ok (.obj (kvs.foldl (fun acc kv => insertMember acc kv.1 kv.2) [])) := by
  obtain ⟨more, hmore⟩ := writeMembers_head hne
  have hlen := length_writeMembers kvs
  unfold read
  rw [write_obj_toList]
  simp only [List.head?_cons, skipWs_cons _ (by decide : isWs '\x7b' = false)]
  rw [if_neg (by decide)]
  generalize htotal : ('\x7b' :: ((writeMembers false kvs).toList ++ ['\x7d'])).length = total
  have hfuel : kvs.length ≤ 2 * total + 1 + 1 := by
    rw [← htotal, List.length_cons, List.length_append]
    omega
  have hskip : skipWs ((writeMembers false kvs).toList ++ ['\x7d']) =
      (writeMembers false kvs).toList ++ ['\x7d'] := by
    rw [hmore, List.cons_append, skipWs_cons _ (by decide)]
  have hval : readValue total maxDepth (2 * total + 4)
      ('\x7b' :: ((writeMembers false kvs).toList ++ ['\x7d'])) =
        .ok (.obj (kvs.foldl (fun acc kv => insertMember acc kv.1 kv.2) []), []) := by
    rw [show maxDepth = 989 + 1 from rfl, show 2 * total + 4 = (2 * total + 1 + 2) + 1 by omega,
      readValue]
    rw [hskip]
    exact readMembers_written total 989 kvs hkvs hne (2 * total + 1) [] true [] hfuel
  rw [hval]
  rfl


theorem insertMember_new {acc : List (String × Json)} {k : String} (hk : k ∉ acc.map (·.1))
    (x : Json) : insertMember acc k x = acc ++ [(k, x)] := by
  have hany : acc.any (·.1 == k) = false := by
    rw [List.any_eq_false]
    intro kv hkv hbeq
    exact hk (List.mem_map.2 ⟨kv, hkv, beq_iff_eq.1 hbeq⟩)
  simp [insertMember, hany]

/-- Members with different names are kept as they come. -/
theorem foldl_insertMember_nodup :
    ∀ (kvs acc : List (String × Json)), ((acc ++ kvs).map (·.1)).Nodup →
      kvs.foldl (fun acc kv => insertMember acc kv.1 kv.2) acc = acc ++ kvs
  | [], acc, _ => by simp
  | (k, v) :: rest, acc, h => by
    have hk : k ∉ acc.map (·.1) := by
      intro hmem
      rw [List.map_append, List.nodup_append] at h
      exact h.2.2 _ hmem _ List.mem_cons_self rfl
    rw [List.foldl_cons, insertMember_new hk, foldl_insertMember_nodup rest (acc ++ [(k, v)])
      (by simpa using h)]
    simp

/-- The characters an escape adds: the backslash, the quote, digits and small letters. -/
def EscapeChar (c : Char) : Prop := c = '\\' ∨ c = '"' ∨ ('0' ≤ c ∧ c ≤ '9') ∨ ('a' ≤ c ∧ c ≤ 'z')

instance : DecidablePred EscapeChar := fun c => by unfold EscapeChar; infer_instance

theorem escapeChar_digitChar : ∀ k < 16, EscapeChar (Nat.digitChar k) := by decide

theorem mem_escapeChar {c ch : Char} (h : ch ∈ (escapeChar false c).toList) :
    ch = c ∨ EscapeChar ch := by
  unfold escapeChar at h
  split at h
  rotate_left 7
  · dsimp only at h
    rcases hs : surrogateOf? c with _ | u
    · by_cases hlow : c.toNat < 0x20
      · -- a control character: a backslash, a u and four hexadecimal digits
        have hu : "\\u".toList = ['\\', 'u'] := by simp
        simp only [hs, if_pos hlow, hex4, String.toList_append, String.toList_ofList,
          hex4_toList_small _ hlow, hu, List.cons_append, List.nil_append, List.mem_cons,
          List.not_mem_nil, or_false] at h
        right
        rcases h with rfl | rfl | rfl | rfl | rfl | rfl
        · decide
        · decide
        · decide
        · decide
        · exact escapeChar_digitChar _ (by omega)
        · exact escapeChar_digitChar _ (Nat.mod_lt _ (by decide))
      · simp only [hs, if_neg hlow, Bool.false_and, Bool.false_eq_true, if_false,
          String.toList_singleton, List.mem_singleton] at h
        exact .inl h
    · simp only [hs, Bool.false_eq_true, if_false, String.toList_singleton,
        List.mem_singleton] at h
      exact .inl h
  all_goals
    right
    simp at h
    rcases h with rfl | rfl <;> decide

theorem mem_quote {s : String} {ch : Char} (h : ch ∈ (quote false s).toList) :
    ch ∈ s.toList ∨ EscapeChar ch := by
  rw [quote_toList] at h
  simp only [List.mem_cons, List.mem_append, List.not_mem_nil, or_false] at h
  rcases h with rfl | h | rfl
  · exact .inr (by decide)
  · simp only [String.toList_join, List.mem_flatMap, List.mem_map] at h
    obtain ⟨_, ⟨c, hc, rfl⟩, hch⟩ := h
    rcases mem_escapeChar hch with rfl | h
    · exact .inl hc
    · exact .inr h
  · exact .inr (by decide)

end Json

end RankAdvisor
