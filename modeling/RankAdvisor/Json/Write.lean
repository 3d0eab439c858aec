import RankAdvisor.Json.Value
import RankAdvisor.Binary64.Shortest

/-! # Writing JSON text

`Json.write` writes a value with a comma and a blank between items and a colon and a blank
after each member name. Text is quoted with the two-character escapes for the quote, the
backslash and the five usual control characters, and `\u00xx` for the other control
characters. With `asciiOnly`, every character beyond ASCII (and `DEL`) is escaped too, a
character beyond the basic plane as its two surrogate halves, and a character standing for
a lone surrogate as that surrogate's escape; without it such a character is written as it is. Doubles take their shortest
text, non-finite ones the words `NaN`, `Infinity` and `-Infinity`.
-/

namespace RankAdvisor

namespace Json

def hex4 (n : Nat) : String :=
  let ds := Nat.toDigits 16 n
  String.ofList (List.replicate (4 - ds.length) '0' ++ ds)

def escapeChar (asciiOnly : Bool) (c : Char) : String :=
  match c with
  | '"' => "\\\""
  | '\\' => "\\\\"
  | '\n' => "\\n"
  | '\r' => "\\r"
  | '\t' => "\\t"
  | '\x08' => "\\b"
  | '\x0c' => "\\f"
  | _ =>
    let n := c.toNat
    if let some u := surrogateOf? c then
      if asciiOnly then "\\u" ++ hex4 u else String.singleton c
    else if n < 0x20 then "\\u" ++ hex4 n
    else if asciiOnly && 0x7F ≤ n then
      if n < 0x10000 then "\\u" ++ hex4 n
      else
        let v := n - 0x10000
        "\\u" ++ hex4 (0xD800 + v / 0x400) ++ "\\u" ++ hex4 (0xDC00 + v % 0x400)
    else String.singleton c

def quote (asciiOnly : Bool) (s : String) : String :=
  "\"" ++ String.join (s.toList.map (escapeChar asciiOnly)) ++ "\""

mutual

def write (asciiOnly : Bool) : Json → String
  | .null => "null"
  | .bool true => "true"
  | .bool false => "false"
  | .int n => toString n
  | .num x => Binary64.toText .json x
  | .str s => quote asciiOnly s
  | .arr xs => "[" ++ writeItems asciiOnly xs ++ "]"
  | .obj kvs => "\x7b" ++ writeMembers asciiOnly kvs ++ "\x7d"

def writeItems (asciiOnly : Bool) : List Json → String
  | [] => ""
  | [x] => write asciiOnly x
  | x :: rest => write asciiOnly x ++ ", " ++ writeItems asciiOnly rest

def writeMembers (asciiOnly : Bool) : List (String × Json) → String
  | [] => ""
  | [(k, v)] => quote asciiOnly k ++ ": " ++ write asciiOnly v
  | (k, v) :: rest => quote asciiOnly k ++ ": " ++ write asciiOnly v ++ ", " ++ writeMembers asciiOnly rest

end

end Json

end RankAdvisor
