import SceneCompiler.Culling
import SceneCompiler.Drawing
import SceneCompiler.SharedMaterials

/-!
# Compiling a unit

A unit is one display list with the buffers that it loads from. Its batches are written in order
against what is known of the hardware, which is at rest at the start and brought back to rest at the
end. For each batch the registers are switched to its material first; then a buffer is found or
made, in the layout that the registers call for; then the faces are drawn.

The commands of each batch are kept apart until the end, so that a unit can be looked at batch by
batch.
-/

namespace SceneCompiler

/-- What a batch wrote: the switch to its material, and the drawing. -/
structure Section where
  batch : Batch
  switch : List Command
  drawing : List Command

/-- A unit that is being written. -/
structure UnitDraft where
  pipeline : Pipeline
  /-- The test of the bounding box. -/
  prologue : List Command := []
  sections : List Section := []
  buffers : List VertexBuffer := []
  culling : Option VertexBuffer := none
  /-- The number of the next buffer. -/
  nextBuffer : BufferId
  diagnostics : List Diagnostic := []

/-- A compiled unit. -/
structure CompiledUnit where
  displayList : DisplayList
  /-- The buffers of meshes, in the order of their first use. -/
  vertexBuffers : List VertexBuffer
  cullingBuffer : Option VertexBuffer

namespace CompiledUnit

def buffer? (unit : CompiledUnit) (id : BufferId) : Option VertexBuffer :=
  (unit.vertexBuffers ++ unit.cullingBuffer.toList).find? (·.id = id)

end CompiledUnit

/-- What all units of an export have in common. -/
structure ExportContext where
  /-- The scene, its meshes ready for export. -/
  scene : Scene
  settings : Settings
  /-- The registers at rest. -/
  default : MaterialState
  shared : SharedMaterials

/-- The outcome of a unit: the unit or why there is none, the number of the next buffer, and the
reports. Buffers made before a failure keep their numbers, and reports about them stay. -/
structure UnitOutcome where
  result : Except CompileError CompiledUnit
  nextBuffer : BufferId
  diagnostics : List Diagnostic

namespace ExportContext

/-! ### Materials -/

/-- The commands that bring the registers to a material: by its own list if it has one, after what
it fixes has been brought to the rest state. -/
def materialCommands (ctx : ExportContext) (registers : MaterialState) (key : MaterialKey)
    (material : Material) : List Command :=
  match ctx.shared.nameOf? key with
  | some list =>
    MaterialState.transition registers (ctx.default.restrictedTo material.state) ++ [.callList list]
  | none => MaterialState.transition registers material.state

/-- The registers after these commands, as far as they are known. -/
def materialReached (ctx : ExportContext) (registers : MaterialState) (key : MaterialKey)
    (material : Material) : MaterialState :=
  match ctx.shared.nameOf? key with
  | some _ => (registers.apply (ctx.default.restrictedTo material.state)).apply material.state
  | none => registers.apply material.state

/-- The switch to a batch's material and the registers after it. Nothing is written for a material
that does not exist or that is in place already. -/
def switchMaterial (ctx : ExportContext) (registers : MaterialState) (batch : Batch) :
    List Command × MaterialState :=
  match batch.material with
  | none => ([], registers)
  | some key =>
    match ctx.scene.library.get? key with
    | none => ([], registers)
    | some material =>
      if registers.satisfies material.state then ([], registers)
      else
        ([.comment s!"Material {material.name}"] ++
            ctx.materialCommands registers key material ++
            [.comment s!"End Material {material.name}"],
          ctx.materialReached registers key material)

/-! ### Buffers -/

def layoutFor (registers : MaterialState) : VertexLayout :=
  if registers.usesLighting then .normal else .color

/-- The draft with a buffer for a mesh in the layout that the registers call for, and the buffer's
number. A buffer made before is used again. -/
def provideBuffer (ctx : ExportContext) (draft : UnitDraft) (id : MeshId) (mesh : SkinnedMesh) :
    UnitDraft × BufferId :=
  let registers := draft.pipeline.registers
  let layout := layoutFor registers
  match draft.buffers.find? fun buffer => buffer.mesh = some id && buffer.layout = layout with
  | some buffer => (draft, buffer.id)
  | none =>
    let (buffer, reports) :=
      VertexBuffer.build ctx.settings draft.nextBuffer (some id) mesh layout registers.textureSize?
    ({ draft with
        buffers := draft.buffers ++ [buffer]
        nextBuffer := draft.nextBuffer + 1
        diagnostics := draft.diagnostics ++ reports },
      buffer.id)

/-! ### Batches -/

def writeBatch (ctx : ExportContext) (draft : UnitDraft) (batch : Batch) :
    UnitDraft × Option CompileError :=
  match batch.mesh with
  | none => (draft, none)
  | some id =>
    match ctx.scene.mesh id with
    | .error failure => (draft, some failure)
    | .ok mesh =>
      let (switch, registers) := ctx.switchMaterial draft.pipeline.registers batch
      let (draft, buffer) :=
        ctx.provideBuffer { draft with pipeline := { draft.pipeline with registers } } id mesh
      let drawn :=
        (ctx.settings.canvas ctx.scene.skeleton).drawBatch mesh batch.bones buffer draft.pipeline
      ({ draft with
          pipeline := drawn.state
          sections := draft.sections ++ [{ batch, switch, drawing := drawn.commands }] },
        drawn.failure)

/-- Writes batches in order until one fails. -/
def writeBatches (ctx : ExportContext) (draft : UnitDraft) :
    List Batch → UnitDraft × Option CompileError
  | [] => (draft, none)
  | batch :: rest =>
    match ctx.writeBatch draft batch with
    | (reached, some failure) => (reached, some failure)
    | (reached, none) => ctx.writeBatches reached rest

/-! ### Units -/

/-- The draft of a unit before its first batch. -/
def emptyDraft (ctx : ExportContext) (nextBuffer : BufferId) : UnitDraft where
  pipeline := .atRest ctx.settings ctx.default
  nextBuffer

def meshesOf (ctx : ExportContext) (batches : List Batch) :
    Except CompileError (List SkinnedMesh) :=
  (batches.filterMap (·.mesh)).mapM ctx.scene.mesh

/-- Writes the test of the bounding box of some meshes, if there is anything in it. -/
def writeCulling (ctx : ExportContext) (name : String) (draft : UnitDraft)
    (meshes : List SkinnedMesh) : UnitDraft :=
  match Culling.combinedBounds? meshes with
  | none => draft
  | some bounds =>
    let (buffer, reports) := Culling.buffer ctx.settings draft.nextBuffer name bounds
    let written := Culling.prologue ctx.default buffer.id draft.pipeline
    { draft with
      pipeline := written.state
      prologue := written.commands
      culling := some buffer
      nextBuffer := draft.nextBuffer + 1
      diagnostics := draft.diagnostics ++ reports }

/-- The draft of a unit with the test of its bounding box, if the settings ask for one. -/
def startDraft (ctx : ExportContext) (name : String) (batches : List Batch)
    (nextBuffer : BufferId) : UnitDraft × Option CompileError :=
  let draft := ctx.emptyDraft nextBuffer
  if ctx.settings.includeCulling then
    match ctx.meshesOf batches with
    | .error failure => (draft, some failure)
    | .ok meshes => (ctx.writeCulling name draft meshes, none)
  else (draft, none)

def draft (ctx : ExportContext) (name : String) (batches : List Batch) (nextBuffer : BufferId) :
    UnitDraft × Option CompileError :=
  match ctx.startDraft name batches nextBuffer with
  | (started, some failure) => (started, some failure)
  | (started, none) => ctx.writeBatches started batches

/-- The commands that bring the hardware back to rest. -/
def closing (ctx : ExportContext) (p : Pipeline) : Emission Pipeline :=
  (p.moveTo ctx.scene.skeleton ctx.settings.stackLimits none).andThen fun moved =>
    let restore := MaterialState.transition moved.registers ctx.default
    { state := moved.execute restore, commands := restore }

def finish (name : String) (draft : UnitDraft) (closing : List Command) : CompiledUnit where
  displayList :=
    { name
      commands :=
        draft.prologue ++ draft.sections.flatMap (fun s => s.switch ++ s.drawing) ++ closing }
  vertexBuffers := draft.buffers
  cullingBuffer := draft.culling

/-- Compiles batches in the given order into a unit whose buffers are numbered from `nextBuffer`
on. -/
def compileUnit (ctx : ExportContext) (name : String) (batches : List Batch)
    (nextBuffer : BufferId) : UnitOutcome :=
  let (draft, failure) := ctx.draft name batches nextBuffer
  let closed := ctx.closing draft.pipeline
  { result := match failure.or closed.failure with
      | some failure => .error failure
      | none => .ok (finish name draft closed.commands)
    nextBuffer := draft.nextBuffer
    diagnostics := draft.diagnostics }

end ExportContext

end SceneCompiler
