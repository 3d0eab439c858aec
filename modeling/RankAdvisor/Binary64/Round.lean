import RankAdvisor.Binary64.Basic

/-! # Rounding to binary64

Every value this library computes with doubles is first found exactly, as a ratio of
naturals, and then rounded once by `Binary64.ofRatio`: to the nearest double, a tie going
to the even significand, and past the largest finite double to infinity. Sums, products and
quotients of doubles (`add`, `mul`, `div`), decimal literals (`ofDecimal`) and integers
(`ofInt`) all go through it, so each is correctly rounded by construction.
-/

namespace RankAdvisor

namespace Binary64

/-! ## Building a pattern -/

/-- The pattern of `±m · 2^q`, for `m < 2^53` with `q ≥ -1074`, and `m ≥ 2^52` unless
`q = -1074`; an exponent past `971` gives infinity. -/
def pack (neg : Bool) (m : Nat) (q : Int) : Binary64 :=
  let s : UInt64 := if neg then 0x8000000000000000 else 0
  if m < Nat.pow 2 52 then ⟨s ||| m.toUInt64⟩
  else if q > 971 then ⟨s ||| 0x7FF0000000000000⟩
  else ⟨s ||| ((q + 1075).toNat.toUInt64 <<< 52) ||| (m - Nat.pow 2 52).toUInt64⟩

/-- `num ≥ den · 2^t`, for an integer `t` of either sign. -/
def atLeastPow2 (num den : Nat) (t : Int) : Bool :=
  if 0 ≤ t then den <<< t.toNat ≤ num else den ≤ num <<< (-t).toNat

/-- `⌊log₂ (num / den)⌋` for positive `num` and `den`: it is the difference of the two
bit lengths, or one less. -/
def floorLog2 (num den : Nat) : Int :=
  let t : Int := (Nat.log2 num : Int) - (Nat.log2 den : Int)
  if atLeastPow2 num den t then t else t - 1

/-- `n / d` rounded to a whole number, a half going to the even one. -/
def roundHalfEven (n d : Nat) : Nat :=
  let q := n / d
  let r := n % d
  if d < 2 * r || (2 * r == d && q % 2 == 1) then q + 1 else q

/-- The double nearest to `±num / den` (`den > 0`), a tie going to the even significand.
A zero keeps the sign `neg`. -/
def ofRatio (neg : Bool) (num den : Nat) : Binary64 :=
  if num = 0 ∨ den = 0 then zero neg
  else
    let q : Int := max (floorLog2 num den - 52) (-1074)
    let m := if 0 ≤ q then roundHalfEven num (den <<< q.toNat)
      else roundHalfEven (num <<< (-q).toNat) den
    if m = Nat.pow 2 53 then pack neg (Nat.pow 2 52) (q + 1) else pack neg m q

/-- The double nearest to the integer `n`. -/
def ofInt (n : Int) : Binary64 := ofRatio (n < 0) n.natAbs 1

/-- The double nearest to `±d · 10^e`. Far beyond the range of doubles the answer is
decided from bit lengths alone: a value below `2^-1076` is a zero, one of at least
`2^1025` is infinite. -/
def ofDecimal (neg : Bool) (d : Nat) (e : Int) : Binary64 :=
  if d = 0 then zero neg
  else
    let l : Int := Nat.log2 d
    if 0 ≤ e then
      if 1025 ≤ l + 3 * e then infinity neg else ofRatio neg (d * Nat.pow 10 e.toNat) 1
    else
      if l + 1 + 3 * e < -1076 then zero neg else ofRatio neg d (Nat.pow 10 (-e).toNat)

/-! ## Arithmetic -/

/-- A signed count of `2^-1074` steps, rounded; an exact zero takes the sign `zeroNeg`. -/
def ofUnits (u : Int) (zeroNeg : Bool) : Binary64 :=
  if u = 0 then zero zeroNeg else ofRatio (u < 0) u.natAbs (Nat.pow 2 1074)

/-- IEEE addition, rounded to nearest. Opposite infinities give NaN; an exact zero sum is
`+0` unless both operands are `-0`. -/
def add (x y : Binary64) : Binary64 :=
  match x.view, y.view with
  | .nan, _ => nan
  | _, .nan => nan
  | .inf a, .inf b => if a == b then infinity a else nan
  | .inf a, _ => infinity a
  | _, .inf b => infinity b
  | .finite a m e, .finite b n f =>
    ofUnits (unitsOf a m e + unitsOf b n f) (a && b)

def sub (x y : Binary64) : Binary64 := x.add y.neg

/-- IEEE multiplication, rounded to nearest. Infinity times zero is NaN. -/
def mul (x y : Binary64) : Binary64 :=
  match x.view, y.view with
  | .nan, _ => nan
  | _, .nan => nan
  | .inf a, .inf b => infinity (a != b)
  | .inf a, .finite b n _ => if n = 0 then nan else infinity (a != b)
  | .finite a m _, .inf b => if m = 0 then nan else infinity (a != b)
  | .finite a m e, .finite b n f =>
    let s := a != b
    ofRatio s (m * n * Nat.pow 2 (e + f + 2148).toNat) (Nat.pow 2 2148)

/-- IEEE division, rounded to nearest. A non-zero over zero is a signed infinity,
zero over zero and infinity over infinity are NaN. -/
def div (x y : Binary64) : Binary64 :=
  match x.view, y.view with
  | .nan, _ => nan
  | _, .nan => nan
  | .inf _, .inf _ => nan
  | .inf a, .finite b _ _ => infinity (a != b)
  | .finite a _ _, .inf b => zero (a != b)
  | .finite a m e, .finite b n f =>
    let s := a != b
    if n = 0 then (if m = 0 then nan else infinity s)
    else ofRatio s (m * Nat.pow 2 (e + 1074).toNat) (n * Nat.pow 2 (f + 1074).toNat)

/-! ## Back to integers -/

/-- The integer part of a finite value, cut toward zero; `none` for NaN or infinity. -/
def truncate? (x : Binary64) : Option Int :=
  match x.view with
  | .finite neg m e =>
    let a : Nat := if 0 ≤ e then m * Nat.pow 2 e.toNat else m / Nat.pow 2 (-e).toNat
    some (if neg then -(a : Int) else a)
  | _ => none

instance (n : Nat) : OfNat Binary64 n := ⟨ofInt n⟩

end Binary64

end RankAdvisor
