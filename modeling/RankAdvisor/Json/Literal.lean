import RankAdvisor.Json.Value
import RankAdvisor.Binary64.Shortest
import RankAdvisor.Text.Printable

/-! # Literal text of values

The text that error messages quote a value by: `None`, `True` and `False`, whole numbers in
decimal, doubles by their shortest text, lists in brackets and objects in braces with
`: ` after each name, items parted by `, `. Text is quoted with single quotes, or with
double quotes when it holds a single quote and no double quote; the quote, the backslash,
tab, line feed and carriage return are escaped, and characters that are not printable are
written as `\xhh`, `\uhhhh` or `\Uhhhhhhhh`; a lone surrogate as `\uhhhh`.
-/

namespace RankAdvisor

namespace Json

/-- `n` in lower-case hexadecimal with at least `w` digits. -/
def hexPad (w n : Nat) : String :=
  let ds := Nat.toDigits 16 n
  String.ofList (List.replicate (w - ds.length) '0' ++ ds)

def literalChar (q : Char) (c : Char) : String :=
  if c == q || c == '\\' then String.ofList ['\\', c]
  else if c == '\t' then "\\t"
  else if c == '\n' then "\\n"
  else if c == '\r' then "\\r"
  else if let some u := surrogateOf? c then "\\u" ++ hexPad 4 u
  else
    let n := c.toNat
    if n < 0x20 || n == 0x7F then "\\x" ++ hexPad 2 n
    else if n < 0x7F || Text.isPrintable c then String.singleton c
    else if n ≤ 0xFF then "\\x" ++ hexPad 2 n
    else if n ≤ 0xFFFF then "\\u" ++ hexPad 4 n
    else "\\U" ++ hexPad 8 n

def quoteLiteral (s : String) : String :=
  let q := if s.toList.contains '\'' && !s.toList.contains '"' then '"' else '\''
  String.singleton q ++ String.join (s.toList.map (literalChar q)) ++ String.singleton q

mutual

def literal : Json → String
  | .null => "None"
  | .bool true => "True"
  | .bool false => "False"
  | .int n => toString n
  | .num x => Binary64.toText .literal x
  | .str s => quoteLiteral s
  | .arr xs => "[" ++ literalItems xs ++ "]"
  | .obj kvs => "\x7b" ++ literalMembers kvs ++ "\x7d"

def literalItems : List Json → String
  | [] => ""
  | [x] => literal x
  | x :: rest => literal x ++ ", " ++ literalItems rest

def literalMembers : List (String × Json) → String
  | [] => ""
  | [(k, v)] => quoteLiteral k ++ ": " ++ literal v
  | (k, v) :: rest => quoteLiteral k ++ ": " ++ literal v ++ ", " ++ literalMembers rest

end

/-- The plain text of a value: a text as it is, anything else as its literal. -/
def plainText : Json → String
  | .str s => s
  | v => literal v

end Json

end RankAdvisor
