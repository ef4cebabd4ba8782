import SceneCompiler.Number.Scalar

/-!
# Vectors

Vectors of three and of two coordinates. Sums run over the coordinates in order and from left to
right, which in floating point fixes the result to the last bit.
-/

namespace SceneCompiler

/-- A position or direction in space. -/
structure Vec3 (α : Type) where
  x : α
  y : α
  z : α
  deriving DecidableEq, Repr

/-- A position in a texture. -/
structure Vec2 (α : Type) where
  x : α
  y : α
  deriving DecidableEq, Repr

namespace Vec3

variable {α β : Type}

/-- The function applied to every coordinate. -/
def map (f : α → β) (v : Vec3 α) : Vec3 β := ⟨f v.x, f v.y, f v.z⟩

/-- The function applied to the coordinates of two vectors. -/
def zipWith (f : α → α → β) (v w : Vec3 α) : Vec3 β := ⟨f v.x w.x, f v.y w.y, f v.z w.z⟩

def toList (v : Vec3 α) : List α := [v.x, v.y, v.z]

variable [Scalar α]

def zero : Vec3 α := ⟨0, 0, 0⟩

def xAxis : Vec3 α := ⟨1, 0, 0⟩

def yAxis : Vec3 α := ⟨0, 1, 0⟩

def zAxis : Vec3 α := ⟨0, 0, 1⟩

instance : Add (Vec3 α) := ⟨zipWith (· + ·)⟩

instance : Sub (Vec3 α) := ⟨zipWith (· - ·)⟩

/-- The vector with every coordinate multiplied by `factor`. -/
def scale (v : Vec3 α) (factor : α) : Vec3 α := v.map (· * factor)

def dot (v w : Vec3 α) : α := v.x * w.x + v.y * w.y + v.z * w.z

def cross (v w : Vec3 α) : Vec3 α :=
  ⟨v.y * w.z - v.z * w.y, v.z * w.x - v.x * w.z, v.x * w.y - v.y * w.x⟩

def length (v : Vec3 α) : α := Scalar.sqrt (v.dot v)

/-- The vector of length one in the same direction, unless the length is too small to tell. If the
length is no number, neither are the coordinates of the result. -/
def normalized? (v : Vec3 α) : Option (Vec3 α) :=
  if Scalar.atMost v.length Scalar.tolerance then none else some (v.map (· / v.length))

def sum (vectors : List (Vec3 α)) : Vec3 α := vectors.foldl (· + ·) zero

def least (v w : Vec3 α) : Vec3 α := zipWith Scalar.least v w

def greatest (v w : Vec3 α) : Vec3 α := zipWith Scalar.greatest v w

end Vec3

end SceneCompiler
