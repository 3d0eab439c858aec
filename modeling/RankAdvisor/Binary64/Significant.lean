import RankAdvisor.Binary64.Fixed

/-! # Significant digits

`Binary64.significant n x` writes a double with `n` significant digits, the exact value
rounded to the nearest with halves away from zero. The layout suits the size: with `X` the
decimal exponent of the rounded value (`10^X ≤ |v| < 10^(X+1)`), the value is written
positionally when `-4 ≤ X < n`, and otherwise as one digit, a point, the other digits and
`e±XX` (at least two exponent digits). Trailing zeros after the point are dropped, but one
digit always follows it. Zero of either sign is `0.0`, the infinities are `Inf` and `-Inf`,
and NaN has no text.
-/

namespace RankAdvisor

namespace Binary64

/-- The decimal exponent of a positive fraction `num / den`: the `X` with
`10^X ≤ num / den < 10^(X+1)`. The digit counts of `num` and `den` fix it up to one. -/
def decimalExponent (num den : Nat) : Int :=
  let guess : Int := ((Nat.toDigits 10 num).length : Int) - (Nat.toDigits 10 den).length
  let below := if 0 ≤ guess then num < den * Nat.pow 10 guess.toNat
    else num * Nat.pow 10 (-guess).toNat < den
  if below then guess - 1 else guess

/-- `num / den · 10^k` rounded to the nearest whole number, halves up. -/
def scaleRound (num den : Nat) (k : Int) : Nat :=
  let (a, b) := if 0 ≤ k then (num * Nat.pow 10 k.toNat, den) else (num, den * Nat.pow 10 (-k).toNat)
  (2 * a + b) / (2 * b)

/-- Digits without their trailing zeros, or `0` when none are left. -/
def trimZeros (ds : List Char) : String :=
  match (ds.reverse.dropWhile (· == '0')).reverse with
  | [] => "0"
  | kept => String.ofList kept

/-- The `n` significant digits of a finite non-zero value `num / den` and its decimal
exponent after rounding. -/
def significantDigits (n : Nat) (num den : Nat) : List Char × Int :=
  let x := decimalExponent num den
  let d := scaleRound num den ((n : Int) - 1 - x)
  let (d, x) := if Nat.pow 10 n ≤ d then (d / 10, x + 1) else (d, x)
  ((padDigits d n).toList, x)

/-- A double with `n` significant digits (at least one); none for NaN. -/
def significant (n : Nat) (x : Binary64) : Option String :=
  match x.view with
  | .nan => none
  | .inf neg => some (if neg then "-Inf" else "Inf")
  | .finite neg m e =>
    if m = 0 then some "0.0"
    else
      let n := max n 1
      let (num, den) := if 0 ≤ e then (m * Nat.pow 2 e.toNat, 1) else (m, Nat.pow 2 (-e).toNat)
      let (ds, x) := significantDigits n num den
      let sign := if neg then "-" else ""
      if x < -4 ∨ (n : Int) ≤ x then
        let expSign := if x < 0 then "-" else "+"
        some (sign ++ String.ofList (ds.take 1) ++ "." ++ trimZeros (ds.drop 1) ++ "e" ++ expSign ++
          padDigits x.natAbs 2)
      else if 0 ≤ x then
        some (sign ++ String.ofList (ds.take (x.toNat + 1)) ++ "." ++ trimZeros (ds.drop (x.toNat + 1)))
      else
        some (sign ++ "0." ++ String.ofList (List.replicate ((-x).toNat - 1) '0') ++ trimZeros ds)

end Binary64

end RankAdvisor
