import SceneCompiler.Space.Rotation

/-!
# Poses

A pose places a bone relative to its parent: it scales, then rotates, then moves.
-/

namespace SceneCompiler

/-- A position, a rotation and a factor for every axis. -/
structure Pose where
  position : Vec3 Float32 := .zero
  rotation : Rotation := .identity
  scale : Vec3 Float32 := ⟨1, 1, 1⟩

namespace Pose

def toMatrix (p : Pose) : Matrix :=
  Matrix.translation p.position * p.rotation.toMatrix * Matrix.scaling p.scale

/-- The pose of a matrix that has no shear and no vanishing axis: the factors are the lengths of
the columns, and the rotation is what is left when they are divided out. -/
def ofMatrix (m : Matrix) : Pose :=
  let scale : Vec3 Float32 :=
    ⟨Vec3.length ⟨m.first.x, m.second.x, m.third.x⟩,
      Vec3.length ⟨m.first.y, m.second.y, m.third.y⟩,
      Vec3.length ⟨m.first.z, m.second.z, m.third.z⟩⟩
  let unscaled (r : Row) : Vec3 Float32 := Vec3.zipWith (· / ·) r.head scale
  { position := ⟨m.first.w, m.second.w, m.third.w⟩
    rotation := Rotation.ofRows (unscaled m.first) (unscaled m.second) (unscaled m.third)
    scale }

/-- The pose in a frame that is turned by `rotation` and scaled by `factor`. The pose's own factors
belong to the bone's axes and stay. -/
def reframed (p : Pose) (rotation : Rotation) (factor : Float32) : Pose where
  position := (rotation.onVector p.position).scale factor
  rotation := rotation.compose p.rotation
  scale := p.scale

end Pose

def Rotation.afterScaling (q : Rotation) (factor : Float32) : Matrix :=
  q.toMatrix * Matrix.uniformScaling factor

end SceneCompiler
