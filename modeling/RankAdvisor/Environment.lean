import RankAdvisor.Json.Literal
import RankAdvisor.Fault

/-! # Process environments

A process environment maps variable names to texts. Names and values are stored as UTF-8
bytes, so a text is refused before it is stored when it holds a lone surrogate that has no
byte: only the surrogates `0xDC80` to `0xDCFF` stand for the single bytes `0x80` to `0xFF`.
The refusal names the stretch of adjacent surrogates, from the first one without a byte to
the end of the stretch, by positions in characters.

After both texts are written as bytes, a NUL in the name and then in the value is refused,
then a name holding `=`, and last an empty name, which the system itself refuses.
`Environment.ofList` sets the variables in order, and the first refusal stops it.
-/

namespace RankAdvisor

/-- Variables and their values, each name once, in the order they were first set. -/
structure Environment where
  vars : List (String × String) := []
  deriving Repr, Inhabited

namespace Environment

/-- Whether a lone surrogate stands for a single byte. -/
def isByte (u : Nat) : Bool := 0xDC80 ≤ u && u ≤ 0xDCFF

/-- The first stretch of a text that has no bytes: its first and last positions and its
first character. `bad` is the first character without a byte in the current stretch of
surrogates, with its position. -/
def unwritable (cs : List Char) (i : Nat) (bad : Option (Nat × Char)) :
    Option (Nat × Nat × Char) :=
  match cs, bad with
  | [], some (p, c) => some (p, i - 1, c)
  | [], none => none
  | c :: rest, bad =>
    match Json.surrogateOf? c, bad with
    | some u, none => unwritable rest (i + 1) (if isByte u then none else some (i, c))
    | some _, some b => unwritable rest (i + 1) (some b)
    | none, some (p, c0) => some (p, i - 1, c0)
    | none, none => unwritable rest (i + 1) none

/-- The refusal of a text with a stretch that has no bytes. -/
def encodeFault (first last : Nat) (c : Char) : Fault :=
  let what := if first == last then
      let u := ((Json.surrogateOf? c).getD 0)
      let shown := "'\\u" ++ Json.hexPad 4 u ++ "'"
      s!"character {shown} in position {first}"
    else s!"characters in position {first}-{last}"
  ⟨.unencodable, s!"'utf-8' codec can't encode {what}: surrogates not allowed", none⟩

def writable (s : String) : Except Fault Unit :=
  match unwritable s.toList 0 none with
  | some (p, q, c) => .error (encodeFault p q c)
  | none => .ok ()

/-- Checks a variable as it is set, in the order the refusals are tried. -/
def check (name value : String) : Except Fault Unit := do
  writable name
  writable value
  if name.contains (Char.ofNat 0) || value.contains (Char.ofNat 0) then
    throw (Fault.badValue "embedded null byte")
  if name.contains '=' then throw (Fault.badValue "illegal environment variable name")
  if name.isEmpty then throw ⟨.system, "[Errno 22] Invalid argument", none⟩

def get? (e : Environment) (name : String) : Option String := e.vars.lookup name

/-- Sets a variable, replacing its value in place when it is already set. -/
def set (e : Environment) (name value : String) : Except Fault Environment := do
  check name value
  if e.vars.any (·.1 == name) then
    pure ⟨e.vars.map fun (k, v) => if k == name then (k, value) else (k, v)⟩
  else pure ⟨e.vars ++ [(name, value)]⟩

/-- The environment of the given variables, set in order. -/
def ofList (vars : List (String × String)) : Except Fault Environment :=
  vars.foldlM (fun e (k, v) => e.set k v) {}

end Environment

end RankAdvisor
