import RankAdvisor.Number

/-! # Equality and order of values of any kind

Values that arrive as JSON carry their kind with them, and a figure or a clock reading may
be handed a value of any kind. They are compared by one set of rules:

* whole numbers, switches (as 0 and 1) and doubles form one kind, compared exactly; NaN is
  equal to nothing and ordered against nothing;
* texts compare character by character, lists item by item: the first pair of items that
  are not equal decides, and when one list runs out first it is the smaller;
* objects are equal when they have the same names with equal values, and have no order;
* values of different kinds are not equal, and ordering them fails, naming both kinds.

Addition and subtraction are defined here on numbers only, and fail naming both kinds
otherwise. A list is cut at a whole number (a switch counts as one) or null; a cut at any
other value fails.
-/

namespace RankAdvisor

namespace Json

def ofNumber : Number → Json
  | .whole n => .int n
  | .double x => .num x

/-- The number a value is, counting a switch as 0 or 1. -/
def number? : Json → Option Number
  | .int n => some (.whole n)
  | .bool b => some (.whole (if b then 1 else 0))
  | .num x => some (.double x)
  | _ => none

mutual

def sameValue : Json → Json → Bool
  | .null, .null => true
  | .str a, .str b => a == b
  | .arr xs, .arr ys => sameItems xs ys
  | .obj kvs, .obj other => kvs.length == other.length && sameMembers kvs other
  | a, b =>
    match a.number?, b.number? with
    | some x, some y => x.compare? y == some .eq
    | _, _ => false

def sameItems : List Json → List Json → Bool
  | [], [] => true
  | x :: xs, y :: ys => sameValue x y && sameItems xs ys
  | _, _ => false

/-- Whether every member has an equal value under its name in `other`. -/
def sameMembers : List (String × Json) → List (String × Json) → Bool
  | [], _ => true
  | (k, v) :: rest, other =>
    (match other.lookup k with
     | some w => sameValue v w
     | none => false) && sameMembers rest other

end

/-- The failure of ordering two values of kinds that have no order between them. -/
def unordered (op : String) (a b : Json) : Fault :=
  Fault.wrongType s!"'{op}' not supported between instances of '{a.kindName}' and '{b.kindName}'"

mutual

/-- How `a` stands to `b`; `none` when a NaN makes them unordered. `op` names the
comparison in a failure. -/
def order? (op : String) : Json → Json → Except Fault (Option Ordering)
  | .str a, .str b => .ok (some (compare a b))
  | .arr xs, .arr ys => orderItems op xs ys
  | a, b =>
    match a.number?, b.number? with
    | some x, some y => .ok (x.compare? y)
    | _, _ => .error (unordered op a b)

/-- How two lists stand: by the first pair of items that are not equal, else by length. -/
def orderItems (op : String) : List Json → List Json → Except Fault (Option Ordering)
  | [], [] => .ok (some .eq)
  | [], _ :: _ => .ok (some .lt)
  | _ :: _, [] => .ok (some .gt)
  | x :: xs, y :: ys => if sameValue x y then orderItems op xs ys else order? op x y

end

def lt (a b : Json) : Except Fault Bool := do
  pure ((← order? "<" a b) == some .lt)

def le (a b : Json) : Except Fault Bool := do
  match ← order? "<=" a b with
  | some .lt | some .eq => pure true
  | _ => pure false

def gt (a b : Json) : Except Fault Bool := do
  pure ((← order? ">" a b) == some .gt)

def ge (a b : Json) : Except Fault Bool := do
  match ← order? ">=" a b with
  | some .gt | some .eq => pure true
  | _ => pure false

/-- The smaller of two values, the first unless the second is smaller. -/
def smaller (a b : Json) : Except Fault Json := do
  if ← lt b a then pure b else pure a

/-- The larger of two values, the first unless the second is larger. -/
def larger (a b : Json) : Except Fault Json := do
  if ← gt b a then pure b else pure a

/-- The whole number a value stands for as a position in a list: whole numbers and
switches. -/
def index? : Json → Option Int
  | .int n => some n
  | .bool b => some (if b then 1 else 0)
  | _ => none

/-- The failure of cutting a list at a value that is not a position. -/
def notIndex : Fault :=
  Fault.wrongType "slice indices must be integers or None or have an __index__ method"

/-- The items before position `stop`, a negative position counting from the end; all of
them for null. -/
def sliceTo {α : Type} (xs : List α) (stop : Json) : Except Fault (List α) :=
  match stop, stop.index? with
  | .null, _ => .ok xs
  | _, some k => .ok (xs.take (if k < 0 then ((xs.length : Int) + k).toNat else k.toNat))
  | _, none => .error notIndex

/-- The items from position `start` on, a negative position counting from the end; all of
them for null. -/
def sliceFrom {α : Type} (xs : List α) (start : Json) : Except Fault (List α) :=
  match start, start.index? with
  | .null, _ => .ok xs
  | _, some k => .ok (xs.drop (if k < 0 then ((xs.length : Int) + k).toNat else k.toNat))
  | _, none => .error notIndex

/-- The negation of a number; switches count as 0 and 1. -/
def negate : Json → Option Json
  | .int n => some (.int (-n))
  | .bool b => some (.int (if b then -1 else 0))
  | .num x => some (.num x.neg)
  | _ => none

def noMinus (a b : Json) : Fault :=
  Fault.wrongType s!"unsupported operand type(s) for -: '{a.kindName}' and '{b.kindName}'"

/-- The failure of adding values that are not both numbers: a text or a list on the left
can only be joined to one of its own kind. -/
def noPlus (a b : Json) : Fault :=
  match a with
  | .str _ | .arr _ =>
    Fault.wrongType s!"can only concatenate {a.kindName} (not \"{b.kindName}\") to {a.kindName}"
  | _ => Fault.wrongType s!"unsupported operand type(s) for +: '{a.kindName}' and '{b.kindName}'"

/-- `a + b` where a number is wanted: defined on numbers, failing otherwise. -/
def plus (a b : Json) : Except Fault Number :=
  match a.number?, b.number? with
  | some x, some y => x.add y
  | _, _ => .error (noPlus a b)

def minus (a b : Json) : Except Fault Number :=
  match a.number?, b.number? with
  | some x, some y => x.sub y
  | _, _ => .error (noMinus a b)

end Json

end RankAdvisor
