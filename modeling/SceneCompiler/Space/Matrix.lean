import SceneCompiler.Space.Vector

/-!
# Matrices

Four by four matrices in single precision, acting on points by homogeneous coordinates. An entry of
a product is the sum of the four products of entries from left to right.
-/

namespace SceneCompiler

/-- A row of four entries. -/
structure Row where
  x : Float32
  y : Float32
  z : Float32
  w : Float32

/-- A matrix by its rows. -/
structure Matrix where
  first : Row
  second : Row
  third : Row
  fourth : Row

namespace Row

/-- Every entry multiplied by `factor` from the left. -/
def scaled (factor : Float32) (r : Row) : Row :=
  ⟨factor * r.x, factor * r.y, factor * r.z, factor * r.w⟩

def add (r s : Row) : Row := ⟨r.x + s.x, r.y + s.y, r.z + s.z, r.w + s.w⟩

def head (r : Row) : Vec3 Float32 := ⟨r.x, r.y, r.z⟩

def toList (r : Row) : List Float32 := [r.x, r.y, r.z, r.w]

end Row

namespace Matrix

def rows (m : Matrix) : List Row := [m.first, m.second, m.third, m.fourth]

/-- The matrix that maps three vectors by its upper left part and moves nothing. -/
def ofLinear (x y z : Vec3 Float32) : Matrix where
  first := ⟨x.x, x.y, x.z, 0⟩
  second := ⟨y.x, y.y, y.z, 0⟩
  third := ⟨z.x, z.y, z.z, 0⟩
  fourth := ⟨0, 0, 0, 1⟩

/-- The matrix that multiplies the coordinates by the given factors. -/
def scaling (factors : Vec3 Float32) : Matrix :=
  ofLinear ⟨factors.x, 0, 0⟩ ⟨0, factors.y, 0⟩ ⟨0, 0, factors.z⟩

/-- The matrix that multiplies all coordinates by one factor. -/
def uniformScaling (factor : Float32) : Matrix := scaling ⟨factor, factor, factor⟩

/-- The matrix that maps every point to itself. -/
def identity : Matrix := uniformScaling 1

/-- The matrix that moves points by an offset. -/
def translation (offset : Vec3 Float32) : Matrix where
  first := ⟨1, 0, 0, offset.x⟩
  second := ⟨0, 1, 0, offset.y⟩
  third := ⟨0, 0, 1, offset.z⟩
  fourth := ⟨0, 0, 0, 1⟩

def combine (r : Row) (m : Matrix) : Row :=
  (((m.first.scaled r.x).add (m.second.scaled r.y)).add (m.third.scaled r.z)).add
    (m.fourth.scaled r.w)

instance : Mul Matrix where
  mul a b := ⟨combine a.first b, combine a.second b, combine a.third b, combine a.fourth b⟩

/-- The image of a direction, which is not moved. -/
def onDirection (m : Matrix) (v : Vec3 Float32) : Vec3 Float32 :=
  ⟨m.first.head.dot v, m.second.head.dot v, m.third.head.dot v⟩

/-- The image of a point. The homogeneous coordinate of the image is divided out unless it is
zero. -/
def onPoint (m : Matrix) (p : Vec3 Float32) : Vec3 Float32 :=
  let depth := m.fourth.head.dot p + m.fourth.w
  let moved := m.onDirection p + ⟨m.first.w, m.second.w, m.third.w⟩
  if depth == 0 then moved else moved.map (· / depth)

/-- The image of a direction of length one, if its length can be told from zero. -/
def onNormal (m : Matrix) (normal : Vec3 Float32) : Vec3 Float32 :=
  (m.onDirection normal).normalized?.getD normal

end Matrix

end SceneCompiler
