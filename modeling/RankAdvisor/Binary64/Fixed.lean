import RankAdvisor.Binary64.Round

/-! # Fixed places

`Binary64.fixed` writes a double with a fixed number of places after the point. The exact
binary value is rounded once to that many places, an exact half going to the even last
digit, so `2.675` (stored just below) gives `2.67` and `0.5` gives `0`. A set sign bit is
always written, also when the digits round to zero, and whole digits may be grouped by
threes.
-/

namespace RankAdvisor

namespace Binary64

/-- How a fixed-place number is written: places after the point, a `+` on values without a
minus, and a comma between groups of three whole digits. -/
structure FixedStyle where
  places : Nat
  plus : Bool := false
  group : Bool := false

/-- Groups a string of digits by threes from the right with commas. -/
def groupThousands (ds : String) : String :=
  let rec chunks : List Char → List (List Char)
    | a :: b :: c :: d :: rest => [a, b, c] :: chunks (d :: rest)
    | cs => [cs]
  let groups := (chunks ds.toList.reverse).map (fun g => String.ofList g.reverse)
  ",".intercalate groups.reverse

/-- The digits of `n` written with at least `width` digits, zeros in front. -/
def padDigits (n width : Nat) : String :=
  let ds := Nat.repr n
  String.ofList (List.replicate (width - ds.length) '0') ++ ds

/-- A double with `st.places` places, correctly rounded with ties to even. -/
def fixed (st : FixedStyle) (x : Binary64) : String :=
  let plus := if st.plus then "+" else ""
  match x.view with
  | .nan => plus ++ "nan"
  | .inf neg => (if neg then "-" else plus) ++ "inf"
  | .finite neg m e =>
    let sign := if neg then "-" else plus
    let scale := Nat.pow 10 st.places
    let n := if 0 ≤ e then m * Nat.pow 2 e.toNat * scale
      else roundHalfEven (m * scale) (Nat.pow 2 (-e).toNat)
    let ds := padDigits n (st.places + 1)
    let whole := String.ofList (ds.toList.take (ds.length - st.places))
    let frac := String.ofList (ds.toList.drop (ds.length - st.places))
    let whole := if st.group then groupThousands whole else whole
    sign ++ whole ++ (if st.places = 0 then "" else "." ++ frac)

end Binary64

end RankAdvisor
