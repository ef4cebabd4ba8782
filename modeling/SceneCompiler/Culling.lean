import SceneCompiler.Hardware.Pipeline
import SceneCompiler.VertexBuffer

/-!
# Culling

A list can start with a test of the box around everything it draws, and end there if the box is off
screen. The corners of the box are loaded into the first slots with lighting off, since they have no
normals to be lit by; lighting comes back on if it is on at rest. What the slots held is lost.
-/

namespace SceneCompiler.Culling

def cornerCount : Nat := 8

/-- The box around several meshes, if any of them has a vertex. -/
def combinedBounds? (meshes : List SkinnedMesh) : Option (Vec3 Float32 × Vec3 Float32) :=
  match meshes.filterMap (·.surface.bounds?) with
  | [] => none
  | first :: rest =>
    some (rest.foldl (fun box next => (box.1.least next.1, box.2.greatest next.2)) first)

/-- The corners of a box; the last coordinate changes fastest. -/
def corners (low high : Vec3 Float32) : List (Vec3 Float32) :=
  [low.x, high.x].flatMap fun x =>
    [low.y, high.y].flatMap fun y => [low.z, high.z].map fun z => ⟨x, y, z⟩

/-- The buffer that holds the corners of a unit's box, and the reports about it. -/
def buffer (settings : Settings) (id : BufferId) (name : String)
    (bounds : Vec3 Float32 × Vec3 Float32) : VertexBuffer × List Diagnostic :=
  let box : SkinnedMesh :=
    .unskinned s!"{name}_cull" { positions := corners bounds.1 bounds.2 } none ""
  VertexBuffer.build settings id none box .normal none

/-- The commands of the test, given the registers at rest. -/
def commands (default : MaterialState) (buffer : BufferId) : List Command :=
  [.setGeometryMode GeometryMode.lighting.bit 0,
    .loadVertices buffer 0 cornerCount 0,
    .cullList cornerCount] ++
    if default.usesLighting then [.setGeometryMode 0 GeometryMode.lighting.bit] else []

/-- Writes the test at the start of a list. -/
def prologue (default : MaterialState) (buffer : BufferId) (p : Pipeline) : Emission Pipeline where
  state :=
    { p with
      cache := p.cache.invalidate 0 cornerCount
      registers.geometry :=
        p.registers.geometry.set GeometryMode.lighting.bit default.usesLighting }
  commands := commands default buffer

end SceneCompiler.Culling
