import SceneCompiler.Material.Library
import SceneCompiler.Mesh.Projection
import SceneCompiler.Report
import SceneCompiler.Settings.Basic

/-!
# Scenes

A scene is what is exported: a skeleton, materials and meshes. Meshes whose material gives the size
of a texture repetition get their texture coordinates by projection before anything is compiled.
-/

namespace SceneCompiler

/-- A skeleton, materials and meshes. -/
structure Scene where
  skeleton : Skeleton := .empty
  library : MaterialLibrary := {}
  meshes : List SkinnedMesh := []

namespace Scene

def mesh (scene : Scene) (id : MeshId) : Except CompileError SkinnedMesh :=
  match scene.meshes[id]? with
  | some mesh => .ok mesh
  | none => .error (.unknownMesh id)

def materialOf (scene : Scene) (settings : Settings) (mesh : SkinnedMesh) : Option MaterialKey :=
  scene.library.resolve? mesh.material settings.forceMaterial

/-- The repetitions of a mesh's texture to a unit of the model along both axes, if its material asks
for texture coordinates by projection. -/
def projectionScales? (scene : Scene) (settings : Settings) (mesh : SkinnedMesh) :
    Option (Float32 × Float32) := do
  let material ← (scene.materialOf settings mesh).bind scene.library.get?
  let (s, t) ← material.tileSize?
  return (settings.modelScale / s, settings.modelScale / t)

/-- A mesh with texture coordinates by projection, if its material asks for them. -/
def prepare (scene : Scene) (settings : Settings) (mesh : SkinnedMesh) : SkinnedMesh :=
  match scene.projectionScales? settings mesh with
  | some (s, t) => { mesh with surface := mesh.surface.projected s t }
  | none => mesh

/-- The reports about meshes whose texture coordinates cannot be projected though they should be. -/
def projectionDiagnostics (scene : Scene) (settings : Settings) : List Diagnostic :=
  scene.meshes.zipIdx.filterMap fun (mesh, id) =>
    if (scene.projectionScales? settings mesh).isNone || mesh.surface.isProjectable then none
    else some (.missingVertices id)

/-- The scene with all meshes ready for export. -/
def prepared (scene : Scene) (settings : Settings) : Scene :=
  { scene with meshes := scene.meshes.map (scene.prepare settings) }

end Scene

end SceneCompiler
