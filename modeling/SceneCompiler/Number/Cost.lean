/-!
# Costs

The order search adds up estimated costs. It is written over `CostScale`, so that the same search
can be run in double precision and studied over exact numbers.

Double precision brings values that are no number. The search never compares through them except
in one place, the total order that breaks ties, and there a sign decides on which end of the order
such a value stands. `Cost` is therefore a double together with that sign: an operation on numbers
whose result is undefined yields the negative one, and a value that is no number passes through
every operation with its sign.
-/

namespace SceneCompiler

/-- A kind of number in which costs are added up and compared. -/
class CostScale (C : Type) extends Zero C, Add C, Sub C, Mul C where
  /-- A count as a cost. -/
  ofNat : Nat → C
  /-- The strict order of numbers. -/
  less : C → C → Bool
  /-- The order of numbers. -/
  atMost : C → C → Bool
  /-- A total order that refines the order of numbers. -/
  compare : C → C → Ordering
  /-- The smaller of two numbers. -/
  least : C → C → C
  /-- The larger of two numbers. -/
  greatest : C → C → C
  /-- Whether the value is a number other than an infinity. -/
  isFinite : C → Bool

namespace CostScale

variable {C : Type} [CostScale C]

def sum : List C → C
  | [] => 0
  | first :: rest => rest.foldl (· + ·) first

/-- The first of the elements whose cost is least in the total order. -/
def cheapest {α : Type} (cost : α → C) : List α → Option α
  | [] => none
  | first :: rest => some (rest.foldl (fun best next =>
      if CostScale.compare (cost next) (cost best) = .lt then next else best) first)

end CostScale

/-- A cost in double precision. -/
structure Cost where
  /-- The amount. -/
  value : Float
  /-- If the amount is no number, whether it stands below all numbers in the total order. -/
  below : Bool := false

namespace Cost

def ofFloat (value : Float) : Cost := { value }

def result (a b : Cost) (value : Float) : Cost :=
  if value.isNaN then
    if a.value.isNaN then a
    else if b.value.isNaN then b
    else { value, below := true }
  else { value }

/-- The place of a cost in the total order: values that are no number at the ends, negative zero
before zero. -/
def rank (a : Cost) : Int :=
  let bits := a.value.toBits.toNat
  let size : Nat := bits % Nat.pow 2 63
  let negative := if a.value.isNaN then a.below else decide (Nat.pow 2 63 ≤ bits)
  if negative then -(size : Int) - 1 else (size : Int)

instance : CostScale Cost where
  zero := ofFloat 0.0
  add a b := result a b (a.value + b.value)
  sub a b := result a b (a.value - b.value)
  mul a b := result a b (a.value * b.value)
  ofNat n := ofFloat (Float.ofNat n)
  less a b := a.value < b.value
  atMost a b := a.value ≤ b.value
  compare a b := Ord.compare a.rank b.rank
  least a b := if a.value.isNaN then b else if b.value < a.value then b else a
  greatest a b := if a.value.isNaN then b else if a.value < b.value then b else a
  isFinite a := a.value.isFinite

end Cost

end SceneCompiler
