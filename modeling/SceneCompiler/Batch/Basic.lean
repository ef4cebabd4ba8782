import SceneCompiler.Scene

/-!
# Batches

A batch is what is drawn at once: the faces of one mesh that belong to one pair of bones, with one
material.
-/

namespace SceneCompiler

/-- Faces of a mesh with one pair of bones and one material. -/
structure Batch where
  /-- The bones of the faces; twice the same for the faces of one bone. -/
  bones : BonePair
  /-- The mesh, or none for the batch that only stands for the pipeline at rest. -/
  mesh : Option MeshId
  /-- The material, or none if there is no such material. -/
  material : Option MaterialKey
  deriving DecidableEq, Repr

namespace Batch

/-- A batch that draws nothing and stands for the pipeline at rest. -/
def rest (default : Option MaterialKey) : Batch := ⟨(none, none), none, default⟩

/-- Whether a batch is drawn with the pipeline at rest: without bones, in the default material. -/
def isRest (batch : Batch) (default : Option MaterialKey) : Bool :=
  batch.bones = (none, none) && batch.material.isSome && batch.material = default

/-- Whether the faces are stretched between bones. -/
def isSpanning (batch : Batch) : Bool := batch.bones.1 ≠ batch.bones.2

end Batch

/-- Batches with the problems that were met while they were made. -/
structure Extraction where
  batches : List Batch := []
  diagnostics : List Diagnostic := []
  failure : Option CompileError := none

namespace Scene

/-- The report about a mesh whose material does not exist. -/
def materialDiagnostics (scene : Scene) (settings : Settings) (id : MeshId) (mesh : SkinnedMesh) :
    List Diagnostic :=
  if (scene.materialOf settings mesh).isSome then []
  else [.unresolvedMaterial (settings.forceMaterial.getD mesh.material) id]

/-- The batches of one mesh: the faces of single bones before those between bones. -/
def batchesOf (scene : Scene) (settings : Settings) (id : MeshId) (mesh : SkinnedMesh) :
    List Batch :=
  mesh.drawnPairs.map fun bones => ⟨bones, some id, scene.materialOf settings mesh⟩

/-- The batches of some meshes in order. A mesh that does not exist ends the extraction; what was
reported until then stays reported. -/
def extractBatches (scene : Scene) (settings : Settings) : List MeshId → Extraction
  | [] => {}
  | id :: rest =>
    match scene.mesh id with
    | .error failure => { failure := some failure }
    | .ok mesh =>
      let others := scene.extractBatches settings rest
      { others with
        batches := scene.batchesOf settings id mesh ++ others.batches
        diagnostics := scene.materialDiagnostics settings id mesh ++ others.diagnostics }

end Scene

end SceneCompiler
