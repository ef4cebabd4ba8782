/-!
# Coordinates

Vectors, surfaces and planar projections are written once for every kind of number that can serve
as a coordinate. `Scalar` lists what such a kind has to offer. The program computes with single
precision; over exact numbers the same definitions are the geometry they approximate.

A single precision value may be no number at all. `least` and `greatest` pass over such a value
when the other one is a number, and `less` and `atMost` hold of no pair that contains one.
-/

namespace SceneCompiler

instance singleZero : Zero Float32 := ⟨0.0⟩

instance singleOne : One Float32 := ⟨1.0⟩

/-- A kind of number that can serve as a coordinate. -/
class Scalar (α : Type) extends
    Zero α, One α, Add α, Sub α, Mul α, Div α, Neg α, OfScientific α where
  /-- The square root. -/
  sqrt : α → α
  /-- The strict order of numbers. -/
  less : α → α → Bool
  /-- The order of numbers. -/
  atMost : α → α → Bool
  /-- The smaller of two numbers. -/
  least : α → α → α
  /-- The larger of two numbers. -/
  greatest : α → α → α
  /-- The value itself, or the largest finite one if it exceeds that or is no number. -/
  capped : α → α

/-- The larger of two single precision values, passing over one that is no number. -/
def Float32.greater (a b : Float32) : Float32 :=
  if a.isNaN then b else if a < b then b else a

/-- The smaller of two single precision values, passing over one that is no number. -/
def Float32.smaller (a b : Float32) : Float32 :=
  if a.isNaN then b else if b < a then b else a

/-- The largest finite single precision value, (2 - 2⁻²³) · 2¹²⁷. -/
def Float32.largest : Float32 := Float32.ofBits 0x7f7fffff

instance : Scalar Float32 where
  sqrt := Float32.sqrt
  less a b := a < b
  atMost a b := a ≤ b
  least := Float32.smaller
  greatest := Float32.greater
  capped a := Float32.smaller Float32.largest a

namespace Scalar

variable {α : Type} [Scalar α]

def magnitude (a : α) : α := if less a 0 then -a else a

/-- A length up to this one is taken for zero: 2⁻²³, the step of single precision at one. -/
def tolerance : α := 1.1920928955078125e-7

def smallest (first : α) (rest : List α) : α := capped (rest.foldl least first)

end Scalar

end SceneCompiler
