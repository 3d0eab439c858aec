import RankAdvisor.Text.Blank
import RankAdvisor.Fault

/-! # Narratives

The narrative of an answer is the text before its JSON line, cleaned: every fenced block
that opens with three backquotes and `json` (any case) is cut out up to the next three
backquotes, a fence left open at the very end (three backquotes, an optional `json`, blanks)
is dropped, and blanks at either end are trimmed.
-/

namespace RankAdvisor

namespace Narrative

def fence : List Char := List.replicate 3 (Char.ofNat 96)

/-- The word `json` in any case; the long s counts as an `s`. -/
def isJsonWord : List Char → Bool
  | [j, s, o, n] =>
    (j == 'j' || j == 'J') && (s == 's' || s == 'S' || s == 'ſ') && (o == 'o' || o == 'O') &&
      (n == 'n' || n == 'N')
  | _ => false

def opensJsonBlock (cs : List Char) : Bool :=
  cs.take 3 == fence && isJsonWord ((cs.drop 3).take 4)

/-- The characters after the first fence in `cs`, if there is one. -/
def afterFence : List Char → Option (List Char)
  | [] => none
  | c :: rest => if (c :: rest).take 3 == fence then some (rest.drop 2) else afterFence rest

theorem afterFence_length : ∀ {cs r : List Char}, afterFence cs = some r → r.length < cs.length
  | [], _, h => by simp [afterFence] at h
  | c :: rest, r, h => by
    unfold afterFence at h
    split at h
    · cases h
      simp only [List.length_drop, List.length_cons]
      omega
    · have := afterFence_length h
      simp only [List.length_cons]
      omega

/-- Cuts out every fenced `json` block, leftmost first. -/
def cutJsonBlocks (cs : List Char) : List Char :=
  match cs with
  | [] => []
  | c :: rest =>
    if opensJsonBlock (c :: rest) then
      match h : afterFence ((c :: rest).drop 7) with
      | some r =>
        have : r.length < rest.length + 1 := by
          have := afterFence_length h
          simp only [List.length_drop, List.length_cons] at this
          omega
        cutJsonBlocks r
      | none => c :: cutJsonBlocks rest
    else c :: cutJsonBlocks rest
termination_by cs.length

/-- `cs` is a fence, an optional `json`, then blanks to the end. -/
def isTrailingFence (cs : List Char) : Bool :=
  cs.take 3 == fence &&
    (((cs.drop 3).all Text.isBlank) ||
      (isJsonWord ((cs.drop 3).take 4) && (cs.drop 7).all Text.isBlank))

/-- Drops the leftmost suffix that is a trailing fence. -/
def dropTrailingFence : List Char → List Char
  | [] => []
  | c :: rest => if isTrailingFence (c :: rest) then [] else c :: dropTrailingFence rest

def clean (text : String) : String :=
  let cut := cutJsonBlocks text.toList
  let trimmedRight := (cut.reverse.dropWhile Text.isBlank).reverse
  Text.trimBlank (String.ofList (dropTrailingFence trimmedRight))

/-- The cleaned narrative of a value of any kind; only a text can be searched. -/
def cleanOf (v : Json) : Except Fault String :=
  match v with
  | .str s => .ok (clean s)
  | v => .error (Fault.notText v.kindName)

end Narrative

end RankAdvisor
