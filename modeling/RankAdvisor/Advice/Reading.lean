import RankAdvisor.Advice.Basic
import RankAdvisor.Advice.Narrative
import RankAdvisor.Json.Read
import RankAdvisor.Json.Literal
import RankAdvisor.Text.Numeral
import RankAdvisor.Fault

/-! # Reading advice from an answer

The provider is asked for a narrative and then, on the last line, a JSON object with the
recommendation, the confidence and the summary. `Advice.read` takes the JSON object from the
last `{` to the last `}` after it, with a comma before a closing brace or bracket dropped.
The object must hold a recommendation that reads `BUY` or `SELL` once trimmed and put in
capitals, a confidence that is a number or numeral (not a truth value, not NaN), clamped to
`[0, 1]`, and a text summary. Anything else gives unreadable advice that keeps the whole
answer; reading fails only for a whole-number confidence too large for a double.
-/

namespace RankAdvisor

namespace Advice

def lastIndex? (c : Char) (cs : List Char) : Option Nat :=
  let rec go : List Char → Nat → Option Nat → Option Nat
    | [], _, found => found
    | d :: rest, i, found => go rest (i + 1) (if d == c then some i else found)
  go cs 0 none

/-- Drops every comma that only blanks separate from a following `close`. -/
def dropCommaBefore (close : Char) (cs : List Char) : List Char :=
  match cs with
  | [] => []
  | c :: rest =>
    if c == ',' then
      match h : rest.dropWhile Text.isBlank with
      | d :: rest' =>
        if d == close then
          have : rest'.length < rest.length := by
            have h1 := (List.dropWhile_suffix Text.isBlank (l := rest)).length_le
            rw [h] at h1; simp at h1; omega
          close :: dropCommaBefore close rest'
        else c :: dropCommaBefore close rest
      | [] => c :: dropCommaBefore close rest
    else c :: dropCommaBefore close rest
termination_by cs.length

/-- Drops trailing commas before `}`, then before `]`. -/
def dropTrailingCommas (cs : List Char) : List Char :=
  dropCommaBefore ']' (dropCommaBefore '}' cs)

/-- Capitals of a text, as far as they can spell an ASCII word: ASCII letters are raised,
and the sharp s, the dotless i, the long s and the Latin ligatures expand to their
capitals; other characters stay as they are. -/
def capitals (s : String) : String :=
  String.join (s.toList.map fun c =>
    if 'a' ≤ c ∧ c ≤ 'z' then String.singleton c.toUpper
    else match c.toNat with
      | 0xDF => "SS"
      | 0x131 => "I"
      | 0x17F => "S"
      | 0xFB00 => "FF"
      | 0xFB01 => "FI"
      | 0xFB02 => "FL"
      | 0xFB03 => "FFI"
      | 0xFB04 => "FFL"
      | 0xFB05 => "ST"
      | 0xFB06 => "ST"
      | _ => String.singleton c)

/-- The confidence of a field: a number or numeral, not NaN, clamped to `[0, 1]`. `none`
when the field cannot give one; a failure for a whole number beyond doubles. -/
def confidenceOf (v : Option Json) : Except Fault (Option Binary64) := do
  let x? : Option Binary64 ← match v with
    | some (.int n) =>
      let x := Binary64.ofInt n
      if x.isInf then throw (Fault.overflow "int too large to convert to float") else pure (some x)
    | some (.num x) => pure (some x)
    | some (.str s) => pure (Numeral.readDecimal? s)
    | _ => pure none
  match x? with
  | none => pure none
  | some x =>
    if x.isNaN then pure none
    else pure (some ((x.maxLeft (Binary64.zero false)).minLeft (Binary64.ofInt 1)))

def readText (text : String) : Except Fault Advice := do
  if Text.isAllBlank text then return unreadable text
  let cs := text.toList
  let some start := lastIndex? '{' cs | return unreadable text
  let part := cs.drop start
  let some stop := lastIndex? '}' part | return unreadable text
  let body := String.ofList (dropTrailingCommas (part.take (stop + 1)))
  let fields ← match Json.read body with
    | .ok (.obj kvs) => pure (Json.obj kvs)
    | .ok _ => return unreadable text
    | .error e => match e.passOn? with
      | some f => throw f
      | none => return unreadable text
  let word := capitals (Text.trimBlank ((fields.get? "recommendation").getD (.str "")).plainText)
  let some rec := (match word with
    | "BUY" => some Recommendation.buy
    | "SELL" => some Recommendation.sell
    | _ => none) | return unreadable text
  let some conf ← confidenceOf (fields.get? "confidence") | return unreadable text
  let some (.str summary) := fields.get? "summary" | return unreadable text
  let narrative := Narrative.clean (String.ofList (cs.take start))
  pure ⟨rec, conf, .str (Text.trimBlank summary), .str narrative⟩

/-- The advice in an answer of any kind. An answer that is not text is unreadable advice
with an empty narrative when it counts as empty (null stands for no answer at all), and
otherwise fails, as only text can be trimmed. -/
def read (answer : Json) : Except Fault Advice :=
  match answer with
  | .str text => readText text
  | v => if v.isEmptyish then .ok (unreadable "") else .error (Fault.noAttribute v.kindName "strip")

end Advice

end RankAdvisor
