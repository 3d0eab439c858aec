import RankAdvisor.Binary64.Basic

/-! # JSON values

The data that crosses the wire: the bodies of the market data service and of the advice
providers, and the payloads this library writes. Whole numbers and doubles are kept apart,
as the wire format keeps them apart (`1` and `1.0`), and objects keep their members in
order. A member name occurs at most once in an object produced by `Json.Read`; lookups
take the first member of a name.

JSON text may escape a surrogate that stands alone (`\ud800`), which is no character. Such a
surrogate `u` is kept in text as the character `loneBase + (u - 0xD800)`, at the top of the
last private use plane, and is written back as the same escape.
-/

namespace RankAdvisor

/-- A JSON value with ordered object members. -/
inductive Json where
  | null
  | bool (b : Bool)
  | int (n : Int)
  | num (x : Binary64)
  | str (s : String)
  | arr (xs : List Json)
  | obj (kvs : List (String × Json))
  deriving Inhabited, Repr

namespace Json

/-- The first of the characters that stand for lone surrogates. -/
def loneBase : Nat := 0x10F800

/-- The character that stands for the lone surrogate `u` (from `0xD800` to `0xDFFF`). -/
def loneSurrogate (u : Nat) : Char := Char.ofNat (loneBase + (u - 0xD800))

/-- The surrogate a character stands for, if it stands for one. -/
def surrogateOf? (c : Char) : Option Nat :=
  if loneBase ≤ c.toNat then some (c.toNat - loneBase + 0xD800) else none

/-- The member of an object with the given name; `none` for a missing name or a value
that is not an object. -/
def get? (v : Json) (k : String) : Option Json :=
  match v with
  | .obj kvs => (kvs.find? (·.1 == k)).map (·.2)
  | _ => none

/-- The member of an object with the given name, or `d`. -/
def getD (v : Json) (k : String) (d : Json) : Json := (v.get? k).getD d

/-- Sets a member: replaces the value of the first member of that name in place, or adds
the member at the end. -/
def insertMember (kvs : List (String × Json)) (k : String) (x : Json) : List (String × Json) :=
  if kvs.any (·.1 == k) then
    let rec go : List (String × Json) → List (String × Json)
      | [] => []
      | (k', v) :: rest => if k' == k then (k', x) :: rest else (k', v) :: go rest
    go kvs
  else kvs ++ [(k, x)]

/-- Builds an object from members, a later member of a name replacing the value of an
earlier one in its place. -/
def objOf (kvs : List (String × Json)) : Json :=
  .obj (kvs.foldl (fun acc (k, v) => insertMember acc k v) [])

/-- A value that counts as empty: null, false, zero, `0.0`, an empty text, list or
object. -/
def isEmptyish : Json → Bool
  | .null => true
  | .bool b => !b
  | .int n => n == 0
  | .num x => x.isZero
  | .str s => s.isEmpty
  | .arr xs => xs.isEmpty
  | .obj kvs => kvs.isEmpty

/-- The name of the kind of value, as error messages spell it. -/
def kindName : Json → String
  | .null => "NoneType"
  | .bool _ => "bool"
  | .int _ => "int"
  | .num _ => "float"
  | .str _ => "str"
  | .arr _ => "list"
  | .obj _ => "dict"

end Json

end RankAdvisor
