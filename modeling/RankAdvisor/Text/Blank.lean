/-! # Blank characters

The characters that count as blank when a text is trimmed or a numeral is read: the
ASCII tab, line feed, vertical tab, form feed and carriage return, the four ASCII
separators `0x1C`–`0x1F`, the space, and the Unicode spaces and line and paragraph
separators (next line, no-break space, ogham space, the en quad to hair space block, the
narrow no-break space, the medium mathematical space and the ideographic space).
-/

namespace RankAdvisor

namespace Text

def isBlank (c : Char) : Bool :=
  let n := c.toNat
  (0x09 ≤ n && n ≤ 0x0D) || (0x1C ≤ n && n ≤ 0x20) || n == 0x85 || n == 0xA0 ||
  n == 0x1680 || (0x2000 ≤ n && n ≤ 0x200A) || n == 0x2028 || n == 0x2029 ||
  n == 0x202F || n == 0x205F || n == 0x3000

theorem isBlank_of_isWhitespace (c : Char) (h : c.isWhitespace = true) : isBlank c = true := by
  simp only [Char.isWhitespace, Bool.or_eq_true, decide_eq_true_eq] at h
  simp only [isBlank, Bool.or_eq_true, Bool.and_eq_true, decide_eq_true_eq, beq_iff_eq]
  rcases h with ((h | h) | h) | h <;> subst h <;> decide

def dropBlankLeft (s : String) : String := String.ofList (s.toList.dropWhile isBlank)

def dropBlankRight (s : String) : String :=
  String.ofList (s.toList.reverse.dropWhile isBlank).reverse

/-- The text without blanks at either end. -/
def trimBlank (s : String) : String := dropBlankRight (dropBlankLeft s)

def isAllBlank (s : String) : Bool := s.toList.all isBlank

end Text

end RankAdvisor
