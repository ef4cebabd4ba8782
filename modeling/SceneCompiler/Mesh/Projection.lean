import SceneCompiler.Mesh.Connectivity

/-!
# Projected texture coordinates

A surface with a repeating texture gets its texture coordinates by projection along an axis. Each
group of connected faces is looked at along the axis that its normal mostly points to, and its
coordinates start at zero in both directions.
-/

namespace SceneCompiler

variable {α : Type} [Scalar α]

/-- The directions of the two texture coordinates for a normal: those of the floor for a normal
that is nearly upright, those of the wall it faces otherwise. -/
def projectionAxes (normal : Vec3 α) : Vec3 α × Vec3 α :=
  if Scalar.less 0.7 (Scalar.magnitude normal.y) then (Vec3.xAxis, Vec3.zAxis)
  else if Scalar.less 0.7 (Scalar.magnitude normal.z) then (Vec3.xAxis, Vec3.yAxis)
  else (Vec3.zAxis, Vec3.yAxis)

namespace Surface

/-- The direction that a face points to: the sum of the normals at its corners if there are any, and
otherwise the normal of its plane, in proportion to its area. -/
def faceNormal (s : Surface α) (face : Face) : Vec3 α :=
  match s.normals with
  | some normals => Vec3.sum (face.corners.map fun vertex => normals[vertex]?.getD .zero)
  | none =>
    (s.position face.b - s.position face.a).cross (s.position face.c - s.position face.a)

/-- The direction that some faces point to together, or zero if they cancel out. -/
def groupNormal (s : Surface α) (faces : List Face) : Vec3 α :=
  (Vec3.sum (faces.map s.faceNormal)).normalized?.getD .zero

/-- The smallest coordinate of some vertices in a direction. -/
def lowest (s : Surface α) (vertices : List Nat) (direction : Vec3 α) : α :=
  match vertices.map fun vertex => (s.position vertex).dot direction with
  | [] => 0
  | first :: rest => Scalar.smallest first rest

/-- The texture coordinates after one group of faces is projected. -/
def projectGroup (s : Surface α) (scaleS scaleT : α) (uvs : List (Vec2 α)) (group : List Nat) :
    List (Vec2 α) :=
  let faces := group.filterMap fun i => s.faces[i]?
  let (left, up) := projectionAxes (s.groupNormal faces)
  let vertices := faces.flatMap Face.corners
  let lowestLeft := s.lowest vertices left
  let lowestUp := s.lowest vertices up
  uvs.mapIdx fun vertex uv =>
    if vertices.contains vertex then
      { x := ((s.position vertex).dot left - lowestLeft) * scaleS
        y := ((s.position vertex).dot up - lowestUp) * scaleT }
    else uv

/-- The texture coordinates after all groups are projected. A vertex of no face keeps its own, or
gets zero if there are none. -/
def projectedUVs (s : Surface α) (scaleS scaleT : α) : List (Vec2 α) :=
  s.connectedFaceGroups.foldl (s.projectGroup scaleS scaleT)
    (s.uvs.getD (List.replicate s.vertexCount ⟨0, 0⟩))

/-- Whether a projection finds all that it needs of a vertex. -/
def projectsVertex (s : Surface α) (vertex : Nat) : Bool :=
  vertex < s.vertexCount && coversVertices s.normals (vertex + 1) &&
    coversVertices s.uvs (vertex + 1)

/-- Whether a projection finds all that it needs of the vertices of every face. -/
def isProjectable (s : Surface α) : Bool :=
  s.faces.all fun face => face.corners.all s.projectsVertex

/-- The surface with projected texture coordinates. -/
def projected (s : Surface α) (scaleS scaleT : α) : Surface α :=
  { s with uvs := some (s.projectedUVs scaleS scaleT) }

end Surface

end SceneCompiler
