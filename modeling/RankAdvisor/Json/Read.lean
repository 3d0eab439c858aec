import RankAdvisor.Fault
import RankAdvisor.Binary64.Round

/-! # Reading JSON text

`Json.read` reads one JSON value surrounded by blanks (space, tab, line feed, carriage
return). Besides standard JSON it takes the words `NaN`, `Infinity` and `-Infinity` as
doubles. A number with a fraction or an exponent is a double, rounded once; any other
number is a whole number. A member name that occurs twice keeps its first place and its
last value. Arrays and objects nest at most `maxDepth` deep. A `\u` escape of a surrogate
pair gives one character; a surrogate that stands alone becomes the character that stands
for it.

A failure names what was expected and where, as a character index; `ReadFailure.message`
adds the line and column.
-/

namespace RankAdvisor

namespace Json

/-- What the reader expected and did not find. -/
inductive ReadError where
  | expectingValue
  | expectingName
  | expectingColon
  | expectingComma
  | unterminatedString
  | controlCharacter
  | badEscape
  | badUnicodeEscape
  | extraData
  | byteOrderMark
  /-- A whole number with more digits than `Json.maxWholeDigits`. -/
  | tooManyDigits (n : Nat)
  /-- An array (or object) nested deeper than `Json.maxDepth`. -/
  | tooDeep (array : Bool)
  deriving DecidableEq, Repr

def ReadError.text : ReadError → String
  | .expectingValue => "Expecting value"
  | .expectingName => "Expecting property name enclosed in double quotes"
  | .expectingColon => "Expecting ':' delimiter"
  | .expectingComma => "Expecting ',' delimiter"
  | .unterminatedString => "Unterminated string starting at"
  | .controlCharacter => "Invalid control character at"
  | .badEscape => "Invalid \\escape"
  | .badUnicodeEscape => "Invalid \\uXXXX escape"
  | .extraData => "Extra data"
  | .byteOrderMark => "Unexpected UTF-8 BOM (decode using utf-8-sig)"
  | .tooManyDigits n => s!"Exceeds the limit (4300 digits) for integer string conversion: value has {n} digits; use sys.set_int_max_str_digits() to increase the limit"
  | .tooDeep array =>
    let what := if array then "array" else "object"
    s!"maximum recursion depth exceeded while decoding a JSON {what} from a unicode string"

/-- A failure and the character index where it was found. -/
structure ReadFailure where
  error : ReadError
  pos : Nat
  deriving DecidableEq, Repr

/-- The failure with its line (counted from one), its column (the distance from the last
line feed before it, or its index plus one on the first line) and its index. -/
def ReadFailure.message (f : ReadFailure) (doc : String) : String :=
  match f.error with
  | .tooManyDigits _ | .tooDeep _ => f.error.text
  | _ =>
  let before := doc.toList.take f.pos
  let line := before.count '\n' + 1
  let col := match (before.reverse.findIdx? (· == '\n')) with
    | some i => i + 1
    | none => f.pos + 1
  s!"{f.error.text}: line {line} column {col} (char {f.pos})"

/-- The most digits a whole number may have. -/
def maxWholeDigits : Nat := 4300

/-- The deepest nesting of arrays and objects the reader follows. -/
def maxDepth : Nat := 990

/-- A failure is a malformed document, rather than a number too long to convert or a
nesting too deep to follow. -/
def ReadFailure.isMalformed (f : ReadFailure) : Bool :=
  match f.error with
  | .tooManyDigits _ | .tooDeep _ => false
  | _ => true

/-- A failure is a nesting too deep to follow: the reader gave up, and callers that turn
a malformed document into a failure of their own pass this one on unchanged. -/
def ReadFailure.isTooDeep (f : ReadFailure) : Bool :=
  match f.error with
  | .tooDeep _ => true
  | _ => false

/-- The failure a reader's caller passes on unchanged: a nesting too deep to follow. -/
def ReadFailure.passOn? (f : ReadFailure) : Option Fault :=
  if f.isTooDeep then some ⟨.recursion, f.error.text, none⟩ else none

def isWs (c : Char) : Bool := c == ' ' || c == '\t' || c == '\n' || c == '\r'

def skipWs (cs : List Char) : List Char := cs.dropWhile isWs

def hexValue? (c : Char) : Option Nat :=
  if '0' ≤ c ∧ c ≤ '9' then some (c.toNat - 48)
  else if 'a' ≤ c ∧ c ≤ 'f' then some (c.toNat - 87)
  else if 'A' ≤ c ∧ c ≤ 'F' then some (c.toNat - 55)
  else none

def hex4? (a b c d : Char) : Option Nat := do
  let w ← hexValue? a
  let x ← hexValue? b
  let y ← hexValue? c
  let z ← hexValue? d
  pure (((w * 16 + x) * 16 + y) * 16 + z)

def simpleEscape? : Char → Option Char
  | '"' => some '"'
  | '\\' => some '\\'
  | '/' => some '/'
  | 'b' => some '\x08'
  | 'f' => some '\x0c'
  | 'n' => some '\n'
  | 'r' => some '\r'
  | 't' => some '\t'
  | _ => none

/-- A code point as a character; a lone surrogate becomes the character standing for it. -/
def charOfCode (n : Nat) : Char :=
  if 0xD800 ≤ n ∧ n < 0xE000 then loneSurrogate n else Char.ofNat n

section
variable (total : Nat)

/-- The index of the first character of `cs` in a text of `total` characters. -/
def posOf (cs : List Char) : Nat := total - cs.length

/-- A `\u` escape after its `u`: `cs` starts at the `u`. A high surrogate followed by an
escaped low surrogate joins it. -/
def unicodeEscape (cs : List Char) : Except ReadFailure (Char × List Char) :=
  match cs with
  | _ :: a :: b :: c :: d :: rest@(_ :: _) =>
    match hex4? a b c d with
    | none => .error ⟨.badUnicodeEscape, posOf total cs⟩
    | some hi =>
      if 0xD800 ≤ hi ∧ hi < 0xDC00 then
        match rest with
        | '\\' :: u2@('u' :: e :: f :: g :: h :: rest2@(_ :: _)) =>
          match hex4? e f g h with
          | none => .error ⟨.badUnicodeEscape, posOf total u2⟩
          | some lo =>
            if 0xDC00 ≤ lo ∧ lo < 0xE000 then
              .ok (Char.ofNat (0x10000 + (hi - 0xD800) * 0x400 + (lo - 0xDC00)), rest2)
            else .ok (charOfCode hi, rest)
        | _ => .ok (charOfCode hi, rest)
      else .ok (charOfCode hi, rest)
  | _ => .error ⟨.badUnicodeEscape, posOf total cs⟩

/-- The rest of a string after its opening quote at index `begin`; `acc` holds the
characters read so far, last first. -/
def readString (begin : Nat) (cs : List Char) (acc : List Char) :
    Except ReadFailure (String × List Char) :=
  match cs with
  | [] => .error ⟨.unterminatedString, begin⟩
  | '"' :: rest => .ok (String.ofList acc.reverse, rest)
  | '\\' :: rest =>
    match rest with
    | [] => .error ⟨.unterminatedString, begin⟩
    | 'u' :: more =>
      match unicodeEscape total ('u' :: more) with
      | .error e => .error e
      | .ok (c, rest') =>
        if rest'.length < more.length then readString begin rest' (c :: acc)
        else .error ⟨.badUnicodeEscape, posOf total rest⟩
    | e :: more =>
      match simpleEscape? e with
      | some c => readString begin more (c :: acc)
      | none => .error ⟨.badEscape, posOf total cs⟩
  | c :: rest =>
    if c.toNat ≤ 0x1F then .error ⟨.controlCharacter, posOf total cs⟩
    else readString begin rest (c :: acc)
termination_by cs.length
decreasing_by all_goals simp_all <;> omega

def spanDigits (cs : List Char) : List Char × List Char :=
  (cs.takeWhile fun c => '0' ≤ c && c ≤ '9', cs.dropWhile fun c => '0' ≤ c && c ≤ '9')

def digitsValue (ds : List Char) : Nat := ds.foldl (fun n c => n * 10 + (c.toNat - 48)) 0

/-- A leading minus sign, and the rest. -/
def readMinus : List Char → Bool × List Char
  | '-' :: r => (true, r)
  | cs => (false, cs)

/-- The whole digits of a number: `0` alone, or digits not starting with `0`. -/
def readWhole : List Char → Option (List Char × List Char)
  | '0' :: r => some (['0'], r)
  | c :: r => if '1' ≤ c && c ≤ '9' then some (spanDigits (c :: r)) else none
  | [] => none

/-- The digits after a point, when a digit follows the point. -/
def readFraction : List Char → Option (List Char) × List Char
  | '.' :: d :: r =>
    if '0' ≤ d && d ≤ '9' then
      let (fs, r') := spanDigits (d :: r)
      (some fs, r')
    else (none, '.' :: d :: r)
  | r => (none, r)

/-- The sign and value of an exponent after `e` or `E`, when digits end it. -/
def readExponent : List Char → Option (Bool × Nat) × List Char
  | e :: r =>
    if e == 'e' || e == 'E' then
      let (eneg, r') := match r with
        | '-' :: x => (true, x)
        | '+' :: x => (false, x)
        | x => (false, x)
      let (xs, r'') := spanDigits r'
      if xs.isEmpty then (none, e :: r) else (some (eneg, digitsValue xs), r'')
    else (none, e :: r)
  | [] => (none, [])

/-- A number: `-`, then `0` or digits not starting with `0`, then `.digits` if a digit follows
the point, then an exponent if a digit ends it. `none` if no number starts here; a whole
number of more than `maxWholeDigits` digits is read as `.null` with its digit count, for the
caller to refuse. -/
def readNumber (cs : List Char) : Option (Json × List Char × Nat) :=
  let (neg, r) := readMinus cs
  match readWhole r with
  | none => none
  | some (whole, r) =>
    let (frac, r) := readFraction r
    let (expo, r) := readExponent r
    match frac, expo with
    | none, none =>
      if maxWholeDigits < whole.length then some (.null, r, whole.length)
      else
        let n := digitsValue whole
        some (.int (if neg then -(n : Int) else n), r, 0)
    | _, _ =>
      let fs := frac.getD []
      let d := digitsValue (whole ++ fs)
      let x : Int := match expo with
        | some (true, x) => -(x : Int)
        | some (false, x) => x
        | none => 0
      some (.num (Binary64.ofDecimal neg d (x - fs.length)), r, 0)

mutual

/-- One value at the start of `cs` (no blanks before it), inside at most `depth` more
levels of nesting. -/
def readValue : Nat → Nat → List Char → Except ReadFailure (Json × List Char)
  | _, 0, cs => .error ⟨.expectingValue, posOf total cs⟩
  | depth, fuel + 1, cs =>
    match cs with
    | '"' :: rest => do
      let (s, r) ← readString total (posOf total cs) rest []
      pure (.str s, r)
    | '{' :: rest =>
      match depth with
      | 0 => .error ⟨.tooDeep false, posOf total cs⟩
      | d + 1 => readMembers d fuel [] true (skipWs rest)
    | '[' :: rest =>
      match depth with
      | 0 => .error ⟨.tooDeep true, posOf total cs⟩
      | d + 1 => readItems d fuel [] true (skipWs rest)
    | 'n' :: 'u' :: 'l' :: 'l' :: rest => .ok (.null, rest)
    | 't' :: 'r' :: 'u' :: 'e' :: rest => .ok (.bool true, rest)
    | 'f' :: 'a' :: 'l' :: 's' :: 'e' :: rest => .ok (.bool false, rest)
    | 'N' :: 'a' :: 'N' :: rest => .ok (.num Binary64.nan, rest)
    | 'I' :: 'n' :: 'f' :: 'i' :: 'n' :: 'i' :: 't' :: 'y' :: rest =>
      .ok (.num (Binary64.infinity false), rest)
    | '-' :: 'I' :: 'n' :: 'f' :: 'i' :: 'n' :: 'i' :: 't' :: 'y' :: rest =>
      .ok (.num (Binary64.infinity true), rest)
    | _ =>
      match readNumber cs with
      | some (v, r, 0) => .ok (v, r)
      | some (_, _, n) => .error ⟨.tooManyDigits n, posOf total cs⟩
      | none => .error ⟨.expectingValue, posOf total cs⟩

/-- The items of an array after `[` or `,` and blanks; `first` before the first item, where
`]` may close the array at once. -/
def readItems : Nat → Nat → List Json → Bool → List Char → Except ReadFailure (Json × List Char)
  | _, 0, _, _, cs => .error ⟨.expectingValue, posOf total cs⟩
  | depth, fuel + 1, acc, first, cs =>
    match first, cs with
    | true, ']' :: rest => .ok (.arr [], rest)
    | _, _ => do
      let (v, r) ← readValue depth fuel cs
      match skipWs r with
      | ']' :: rest => .ok (.arr (acc ++ [v]), rest)
      | ',' :: rest => readItems depth fuel (acc ++ [v]) false (skipWs rest)
      | r' => .error ⟨.expectingComma, posOf total r'⟩

/-- The members of an object after `{` or `,` and blanks; `first` before the first member,
where `}` may close the object at once. -/
def readMembers : Nat → Nat → List (String × Json) → Bool → List Char →
    Except ReadFailure (Json × List Char)
  | _, 0, _, _, cs => .error ⟨.expectingValue, posOf total cs⟩
  | depth, fuel + 1, acc, first, cs =>
    match first, cs with
    | true, '}' :: rest => .ok (.obj [], rest)
    | _, '"' :: rest => do
      let (k, r) ← readString total (posOf total cs) rest []
      match skipWs r with
      | ':' :: r => do
        let (v, r) ← readValue depth fuel (skipWs r)
        let acc := insertMember acc k v
        match skipWs r with
        | '}' :: rest => .ok (.obj acc, rest)
        | ',' :: rest => readMembers depth fuel acc false (skipWs rest)
        | r' => .error ⟨.expectingComma, posOf total r'⟩
      | r' => .error ⟨.expectingColon, posOf total r'⟩
    | _, _ => .error ⟨.expectingName, posOf total cs⟩

end

end

def read (s : String) : Except ReadFailure Json := do
  let cs := s.toList
  let total := cs.length
  if cs.head? == some '\uFEFF' then throw ⟨.byteOrderMark, 0⟩
  let (v, rest) ← readValue total maxDepth (2 * total + 4) (skipWs cs)
  match skipWs rest with
  | [] => pure v
  | r => throw ⟨.extraData, posOf total r⟩

end Json

end RankAdvisor
