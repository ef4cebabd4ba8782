import SceneCompiler.Space.Matrix

/-!
# Rotations

Rotations as quaternions in single precision. They are taken as given: nothing here normalises one,
and the matrix of a quaternion that is not of length one scales as well.
-/

namespace SceneCompiler

/-- The quaternion `w + x i + y j + z k`. -/
structure Rotation where
  i : Float32
  j : Float32
  k : Float32
  w : Float32

namespace Rotation

def identity : Rotation := ⟨0, 0, 0, 1⟩

/-- The components in the order of the axes, the real part last. -/
def toList (q : Rotation) : List Float32 := [q.i, q.j, q.k, q.w]

def imaginary (q : Rotation) : Vec3 Float32 := ⟨q.i, q.j, q.k⟩

/-- The quaternion with all components negated; it is the same rotation. -/
def negated (q : Rotation) : Rotation := ⟨-q.i, -q.j, -q.k, -q.w⟩

def compose (p q : Rotation) : Rotation where
  w := p.w * q.w - p.i * q.i - p.j * q.j - p.k * q.k
  i := p.w * q.i + p.i * q.w + p.j * q.k - p.k * q.j
  j := p.w * q.j - p.i * q.k + p.j * q.w + p.k * q.i
  k := p.w * q.k + p.i * q.j - p.j * q.i + p.k * q.w

def onVector (q : Rotation) (v : Vec3 Float32) : Vec3 Float32 :=
  let turned := (q.imaginary.cross v).scale 2
  turned.scale q.w + q.imaginary.cross turned + v

def degree : Float32 := 3.14159265358979323846 / 180

/-- The rotation about the first, then the second, then the third axis, by angles in degrees. -/
def ofEulerDegrees (angles : Vec3 Float32) : Rotation :=
  let half := angles.map fun angle => angle * degree * 0.5
  let sine := half.map Float32.sin
  let cosine := half.map Float32.cos
  { i := sine.x * cosine.y * cosine.z - cosine.x * sine.y * sine.z
    j := cosine.x * sine.y * cosine.z + sine.x * cosine.y * sine.z
    k := cosine.x * cosine.y * sine.z - sine.x * sine.y * cosine.z
    w := cosine.x * cosine.y * cosine.z + sine.x * sine.y * sine.z }

def toMatrix (q : Rotation) : Matrix :=
  let ww := q.w * q.w
  let ii := q.i * q.i
  let jj := q.j * q.j
  let kk := q.k * q.k
  let ij := q.i * q.j * 2
  let wk := q.w * q.k * 2
  let wj := q.w * q.j * 2
  let ik := q.i * q.k * 2
  let jk := q.j * q.k * 2
  let wi := q.w * q.i * 2
  Matrix.ofLinear
    ⟨ww + ii - jj - kk, ij - wk, wj + ik⟩
    ⟨wk + ij, ww - ii + jj - kk, jk - wi⟩
    ⟨ik - wj, wi + jk, ww - ii - jj + kk⟩

/-- The quaternion of a rotation matrix given by its rows. The component of largest magnitude is
found from the diagonal, so that the division by it loses no precision. -/
def ofRows (a b c : Vec3 Float32) : Rotation :=
  let trace := a.x + b.y + c.z
  if 0 < trace then
    let s := (trace + 1).sqrt * 2
    ⟨(c.y - b.z) / s, (a.z - c.x) / s, (b.x - a.y) / s, s / 4⟩
  else if b.y < a.x && c.z < a.x then
    let s := (1 + a.x - b.y - c.z).sqrt * 2
    ⟨s / 4, (a.y + b.x) / s, (a.z + c.x) / s, (c.y - b.z) / s⟩
  else if c.z < b.y then
    let s := (1 + b.y - a.x - c.z).sqrt * 2
    ⟨(a.y + b.x) / s, s / 4, (b.z + c.y) / s, (a.z - c.x) / s⟩
  else
    let s := (1 + c.z - a.x - b.y).sqrt * 2
    ⟨(a.z + c.x) / s, (b.z + c.y) / s, s / 4, (b.x - a.y) / s⟩

end Rotation

end SceneCompiler
