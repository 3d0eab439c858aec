import RankAdvisor.Binary64.Round
import RankAdvisor.Fault

/-! # Numbers

A number as prices, volumes and settings carry it: a whole number of any size, or a double.
Whole numbers are compared with doubles exactly, and take part in double arithmetic only
after rounding to a double, which fails for a whole number beyond the largest double.
-/

namespace RankAdvisor

/-- A whole number or a double. -/
inductive Number where
  | whole (n : Int)
  | double (x : Binary64)
  deriving Repr, Inhabited

namespace Number

/-- The nearest double, or an overflow for a whole number too large for one. -/
def toDouble : Number → Except Fault Binary64
  | .double x => .ok x
  | .whole n =>
    let x := Binary64.ofInt n
    if x.isInf then .error (Fault.overflow "int too large to convert to float") else .ok x

/-- The place of a number on the line, in steps of `2^-1074`, with the ends for
infinities; `none` for NaN. -/
def place? : Number → Option Binary64.Place
  | .double x => x.place?
  | .whole n => some (.steps (n * Nat.pow 2 1074))

/-- The exact order of two numbers; `none` when one is NaN. -/
def compare? (a b : Number) : Option Ordering := do
  let p ← a.place?
  let q ← b.place?
  pure (p.compare q)

def ge (a b : Number) : Bool :=
  match a.compare? b with
  | some .gt | some .eq => true
  | _ => false

/-- Numerically zero (either zero double, or the whole number zero). -/
def isZero (a : Number) : Bool := a.compare? (.whole 0) == some .eq

def ofDouble (d : Binary64) : Number := .double d

/-- Subtraction: exact on whole numbers, rounded once on doubles. -/
def sub : Number → Number → Except Fault Number
  | .whole a, .whole b => .ok (.whole (a - b))
  | a, b => do pure (.double ((← a.toDouble).sub (← b.toDouble)))

/-- Addition: exact on whole numbers, rounded once on doubles. -/
def add : Number → Number → Except Fault Number
  | .whole a, .whole b => .ok (.whole (a + b))
  | a, b => do pure (.double ((← a.toDouble).add (← b.toDouble)))

/-- `a < b`, exactly; false when one is NaN. -/
def lt (a b : Number) : Bool := a.compare? b == some .lt

/-- Multiplication: exact on whole numbers, rounded once on doubles. -/
def mul : Number → Number → Except Fault Number
  | .whole a, .whole b => .ok (.whole (a * b))
  | a, b => do pure (.double ((← a.toDouble).mul (← b.toDouble)))

/-- True division. Two whole numbers divide exactly before one rounding; a zero divisor
fails. -/
def div : Number → Number → Except Fault Number
  | .whole a, .whole b =>
    if b = 0 then .error ⟨.divisionByZero, "division by zero", none⟩
    else
      let q := Binary64.ofRatio ((a < 0) != (b < 0)) a.natAbs b.natAbs
      if q.isInf then .error (Fault.overflow "integer division result too large for a float")
      else .ok (.double q)
  | a, b => do
    let x ← a.toDouble
    let y ← b.toDouble
    if y.isZero then .error ⟨.divisionByZero, "float division by zero", none⟩
    else pure (.double (x.div y))

end Number

end RankAdvisor
