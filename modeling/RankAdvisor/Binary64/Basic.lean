/-! # Binary64 numbers

An IEEE 754 double is kept as its 64-bit pattern. `Binary64.view` reads a pattern as NaN, a
signed infinity, or a signed finite value `m · 2^e`, and every finite double is a whole
number of the smallest step `2^-1074` (`Binary64.units`). Comparison is stated on that
integer, so order questions about prices and confidences are questions about `Int`.

* `view`: NaN, `inf neg`, or `finite neg m e` with `m < 2^53` and `-1074 ≤ e ≤ 971`.
* `units`: the signed count of `2^-1074` steps of a finite value.
* `compare?`: the IEEE order; `none` exactly when one side is NaN, and `-0 = +0`.
-/

namespace RankAdvisor

/-- A double, as its bit pattern. -/
structure Binary64 where
  bits : UInt64
  deriving DecidableEq, Inhabited, Repr

namespace Binary64

/-! ## Reading a pattern -/

/-- What a bit pattern stands for. -/
inductive View where
  | nan
  | inf (neg : Bool)
  | finite (neg : Bool) (m : Nat) (e : Int)
  deriving DecidableEq, Repr

def signBit (x : Binary64) : Bool := (x.bits >>> 63) == 1

def expField (x : Binary64) : Nat := ((x.bits >>> 52) &&& 0x7FF).toNat

def fracField (x : Binary64) : Nat := (x.bits &&& 0xFFFFFFFFFFFFF).toNat

/-- A pattern read as NaN, a signed infinity or `±m · 2^e`. Subnormals have exponent
`-1074` and no hidden bit. -/
def view (x : Binary64) : View :=
  let f := x.fracField
  let k := x.expField
  if k = 0 then .finite x.signBit f (-1074)
  else if k = 2047 then (if f = 0 then .inf x.signBit else .nan)
  else .finite x.signBit (f + Nat.pow 2 52) ((k : Int) - 1075)

/-! ## Named values -/

/-- The quiet NaN with a clear sign bit. -/
def nan : Binary64 := ⟨0x7FF8000000000000⟩

def infinity (neg : Bool) : Binary64 :=
  ⟨if neg then 0xFFF0000000000000 else 0x7FF0000000000000⟩

def zero (neg : Bool) : Binary64 := ⟨if neg then 0x8000000000000000 else 0⟩

/-- The same number with the other sign; NaN stays NaN in value. -/
def neg (x : Binary64) : Binary64 := ⟨x.bits ^^^ 0x8000000000000000⟩

def isNaN (x : Binary64) : Bool := x.view == .nan

def isInf (x : Binary64) : Bool :=
  match x.view with
  | .inf _ => true
  | _ => false

def isFinite (x : Binary64) : Bool :=
  match x.view with
  | .finite _ _ _ => true
  | _ => false

def isZero (x : Binary64) : Bool :=
  match x.view with
  | .finite _ m _ => m == 0
  | _ => false

/-! ## Exact values -/

/-- Signed count of `2^-1074` steps of a finite value `±m · 2^e`. -/
def unitsOf (neg : Bool) (m : Nat) (e : Int) : Int :=
  let u : Int := (m * Nat.pow 2 (e + 1074).toNat : Nat)
  if neg then -u else u

/-- The place of a double on the extended line: below every finite value, a finite
number of steps, or above every finite value. -/
inductive Place where
  | bot
  | steps (u : Int)
  | top
  deriving DecidableEq, Repr

/-- The place of a non-NaN double; `none` for NaN. -/
def place? (x : Binary64) : Option Place :=
  match x.view with
  | .nan => none
  | .inf true => some .bot
  | .inf false => some .top
  | .finite n m e => some (.steps (unitsOf n m e))

/-- Order of places: `bot` below all steps, `top` above. -/
def Place.compare : Place → Place → Ordering
  | .bot, .bot => .eq
  | .bot, _ => .lt
  | _, .bot => .gt
  | .top, .top => .eq
  | .top, _ => .gt
  | _, .top => .lt
  | .steps a, .steps b => Ord.compare a b

/-- The IEEE order of two doubles; `none` when either is NaN. -/
def compare? (x y : Binary64) : Option Ordering := do
  let a ← x.place?
  let b ← y.place?
  pure (a.compare b)

/-- `x < y`, false when either is NaN. -/
def lt (x y : Binary64) : Bool := x.compare? y == some .lt

/-- `x ≤ y`, false when either is NaN. -/
def le (x y : Binary64) : Bool :=
  match x.compare? y with
  | some .lt | some .eq => true
  | _ => false

/-- Numeric equality: false when either is NaN, and `-0` equals `+0`. -/
def eqNum (x y : Binary64) : Bool := x.compare? y == some .eq

/-- The larger of two values, keeping the first unless the second is strictly larger:
a NaN first argument is kept, a NaN second argument is passed over. -/
def maxLeft (x y : Binary64) : Binary64 := if x.lt y then y else x

/-- The smaller of two values, keeping the first unless the second is strictly smaller. -/
def minLeft (x y : Binary64) : Binary64 := if y.lt x then y else x

end Binary64

end RankAdvisor
