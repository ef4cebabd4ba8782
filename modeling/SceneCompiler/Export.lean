import SceneCompiler.Batch.Order
import SceneCompiler.UnitCompiler

/-!
# Exports

An export compiles several units that share material lists. Only settings that are refused make it
fail as a whole. A unit that cannot be compiled is left out and reported, and the others are not
affected: first the units whose meshes do not all exist, then those that fail while they are
written.
-/

namespace SceneCompiler

/-- A list to be compiled: its name and the meshes it draws. -/
structure UnitRequest where
  name : String
  meshes : List MeshId

/-- A unit that could not be compiled. -/
structure UnitFailure where
  name : String
  error : CompileError

/-- Everything that an export yields. -/
structure Export where
  /-- The units in the order of the requests. -/
  units : List CompiledUnit
  sharedMaterials : List DisplayList
  /-- The poses of the bones in the space of vertices. -/
  bonePoses : List Pose
  failedUnits : List UnitFailure
  diagnostics : List Diagnostic

namespace Export

/-- A unit by the name it was requested with. -/
def unit? (e : Export) (name : String) : Option CompiledUnit :=
  e.units.find? (·.displayList.name = name)

end Export

/-- The name of the unit that draws everything. -/
def defaultUnitName : String := "model_gfx"

/-- A request with its batches in the order in which they will be drawn. -/
structure OrderedUnit where
  name : String
  batches : List Batch

namespace Scene

def defaultMaterial? (scene : Scene) (settings : Settings) : Option MaterialKey :=
  scene.library.find? settings.defaultMaterial

def defaultState (scene : Scene) (settings : Settings) : MaterialState :=
  scene.library.stateOf (scene.defaultMaterial? settings)

/-- The batches of a request in the order in which they will be drawn. -/
def orderUnit (scene : Scene) (settings : Settings) (request : UnitRequest) (batches : List Batch) :
    OrderedUnit where
  name := request.name
  batches :=
    scene.orderBatches (scene.defaultMaterial? settings) settings.timing settings.maxIterations
      batches

/-- What becomes of the requests before anything is written. -/
structure Planned where
  units : List OrderedUnit := []
  failed : List UnitFailure := []
  diagnostics : List Diagnostic := []

/-- The batches of every request, and the requests whose meshes do not all exist. -/
def plan (scene : Scene) (settings : Settings) : List UnitRequest → Planned
  | [] => {}
  | request :: rest =>
    let extraction := scene.extractBatches settings request.meshes
    let others := scene.plan settings rest
    let diagnostics := extraction.diagnostics ++ others.diagnostics
    match extraction.failure with
    | some error =>
      { others with failed := ⟨request.name, error⟩ :: others.failed, diagnostics }
    | none =>
      { others with
        units := scene.orderUnit settings request extraction.batches :: others.units
        diagnostics }

/-- What was written. -/
structure Written where
  units : List CompiledUnit := []
  failed : List UnitFailure := []
  diagnostics : List Diagnostic := []

end Scene

/-- Compiles units in order. Their buffers are numbered on from unit to unit. -/
def ExportContext.compileAll (ctx : ExportContext) (nextBuffer : BufferId) :
    List OrderedUnit → Scene.Written
  | [] => {}
  | unit :: rest =>
    let outcome := ctx.compileUnit unit.name unit.batches nextBuffer
    let others := ctx.compileAll outcome.nextBuffer rest
    let diagnostics := outcome.diagnostics ++ others.diagnostics
    match outcome.result with
    | .ok compiled => { others with units := compiled :: others.units, diagnostics }
    | .error error =>
      { others with failed := ⟨unit.name, error⟩ :: others.failed, diagnostics }

namespace Scene

/-- What the units of an export have in common, given how often materials are used. -/
def exportContext (scene : Scene) (settings : Settings) (uses : MaterialUses) : ExportContext where
  scene := scene.prepared settings
  settings
  default := scene.defaultState settings
  shared := .build uses scene.library (scene.defaultState settings)

/-- The poses of the bones in the space of vertices. -/
def bonePoses (scene : Scene) (settings : Settings) : List Pose :=
  scene.skeleton.exportedPoses settings.vertexScale settings.rotation

def compileUnits (scene : Scene) (settings : Settings) (requests : List UnitRequest) :
    Except SettingsError Export :=
  match settings.error? with
  | some refusal => .error refusal
  | none =>
    let planned := scene.plan settings requests
    let ctx :=
      scene.exportContext settings (.ofUnits (planned.units.map (·.batches)))
    let written := ctx.compileAll 0 planned.units
    .ok
      { units := written.units
        sharedMaterials := ctx.shared.lists
        bonePoses := scene.bonePoses settings
        failedUnits := planned.failed ++ written.failed
        diagnostics :=
          scene.projectionDiagnostics settings ++ planned.diagnostics ++ written.diagnostics }

/-- Compiles one unit that draws every mesh of the scene. -/
def compile (scene : Scene) (settings : Settings) : Except SettingsError Export :=
  scene.compileUnits settings [⟨defaultUnitName, List.range scene.meshes.length⟩]

end Scene

end SceneCompiler
