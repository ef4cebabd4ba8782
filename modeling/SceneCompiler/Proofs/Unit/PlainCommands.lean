import SceneCompiler.Proofs.Drawing.PlainCommands
import SceneCompiler.Proofs.Unit.Sections

/-!
# Units in plain commands

For hardware that has only plain commands, a unit is compiled to the unit for any other hardware, in
plain commands (`ExportContext.plain_compileUnit`). The drafts of the two units differ in their
drawing only: registers are switched, buffers are made, and failures come in the same way.
-/

namespace SceneCompiler

theorem Command.plain_of_touches {c : Command} (h : c.touchesRegisters = true) : c.plain = [c] := by
  cases c <;> first | rfl | simp [touchesRegisters] at h

/-- The same settings for hardware that has only plain commands. -/
def Settings.plain (settings : Settings) : Settings :=
  { settings with drawsPairs := false, popsMany := false }

namespace Section

def plain (s : Section) : Section where
  batch := s.batch
  switch := s.switch.flatMap Command.plain
  drawing := s.drawing.flatMap Command.plain

theorem commands_plain (s : Section) : s.plain.commands = s.commands.flatMap Command.plain := by
  simp [commands, plain]

end Section

def UnitDraft.plain (draft : UnitDraft) : UnitDraft :=
  { draft with
    prologue := draft.prologue.flatMap Command.plain
    sections := draft.sections.map Section.plain }

def CompiledUnit.plain (unit : CompiledUnit) : CompiledUnit :=
  { unit with displayList.commands := unit.displayList.commands.flatMap Command.plain }

def UnitOutcome.plain (outcome : UnitOutcome) : UnitOutcome :=
  { outcome with result := outcome.result.map CompiledUnit.plain }

namespace ExportContext

def plain (ctx : ExportContext) : ExportContext := { ctx with settings := ctx.settings.plain }

variable (ctx : ExportContext)

/-! ### Batches -/

theorem plain_switchMaterial (registers : MaterialState) (batch : Batch) :
    (ctx.switchMaterial registers batch).1.flatMap Command.plain =
      (ctx.switchMaterial registers batch).1 := by
  apply Command.flatMap_plain_eq_self
  intro c hc
  rcases touches_of_mem_switch hc with htouches | ⟨text, rfl⟩
  · exact Command.plain_of_touches htouches
  · rfl

theorem plain_provideBuffer (draft : UnitDraft) (source : MeshId) (mesh : SkinnedMesh) :
    ctx.plain.provideBuffer draft.plain source mesh =
      (ctx.provideBuffer draft source mesh).map UnitDraft.plain id := by
  unfold provideBuffer
  dsimp only [UnitDraft.plain]
  split <;> rfl

theorem plain_writeBatch (draft : UnitDraft) (batch : Batch) :
    ctx.plain.writeBatch draft.plain batch =
      (ctx.writeBatch draft batch).map UnitDraft.plain id := by
  cases hid : batch.mesh with
  | none => simp [writeBatch, hid]
  | some id =>
    cases hmesh : ctx.scene.mesh id with
    | error failure =>
      have hplain : ctx.plain.scene.mesh id = .error failure := hmesh
      simp [writeBatch, hid, hmesh, hplain]
    | ok mesh =>
      have hplain : ctx.plain.scene.mesh id = .ok mesh := hmesh
      generalize hprovided : ctx.provideBuffer (ctx.switched draft batch) id mesh = provided
      have hplainProvided : ctx.plain.provideBuffer (ctx.plain.switched draft.plain batch) id mesh =
          (provided.1.plain, provided.2) := by
        rw [← hprovided]
        exact ctx.plain_provideBuffer (ctx.switched draft batch) id mesh
      generalize hdrawn : (ctx.settings.canvas ctx.scene.skeleton).drawBatch mesh batch.bones
        provided.2 provided.1.pipeline = drawn
      have hplainDrawn := Canvas.plain_drawBatch (ctx.settings.canvas ctx.scene.skeleton) mesh
        provided.2 batch.bones provided.1.pipeline
      rw [hdrawn] at hplainDrawn
      rw [writeBatch_of_mesh hid hmesh hprovided hdrawn.symm,
        writeBatch_of_mesh hid hplain hplainProvided hplainDrawn]
      simp only [UnitDraft.plain, Emission.plain, Prod.map, List.map_append, List.map_cons,
        List.map_nil, Section.plain, plain_switchMaterial]
      rfl

theorem plain_writeBatches (draft : UnitDraft) (batches : List Batch) :
    ctx.plain.writeBatches draft.plain batches =
      (ctx.writeBatches draft batches).map UnitDraft.plain id := by
  induction batches generalizing draft with
  | nil => rfl
  | cons batch rest ih =>
    rw [writeBatches, writeBatches, plain_writeBatch]
    obtain ⟨reached, failure⟩ := ctx.writeBatch draft batch
    cases failure with
    | some failure => rfl
    | none => exact ih reached

/-! ### Units -/

theorem plain_startDraft (name : String) (batches : List Batch) (nextBuffer : BufferId) :
    ctx.plain.startDraft name batches nextBuffer =
      (ctx.startDraft name batches nextBuffer).map UnitDraft.plain id := by
  have hculling : ∀ meshes, ctx.plain.writeCulling name (ctx.plain.emptyDraft nextBuffer) meshes =
      (ctx.writeCulling name (ctx.emptyDraft nextBuffer) meshes).plain := by
    intro meshes
    unfold writeCulling
    split
    · rfl
    · have hcommands : ∀ default buffer, (Culling.commands default buffer).flatMap Command.plain =
          Culling.commands default buffer := by
        intro default buffer
        unfold Culling.commands
        cases default.usesLighting <;> rfl
      simp only [UnitDraft.plain, Culling.prologue, hcommands]
      rfl
  have hmeshes : ctx.plain.meshesOf batches = ctx.meshesOf batches := rfl
  have hasked : ctx.plain.settings.includeCulling = ctx.settings.includeCulling := rfl
  unfold startDraft
  dsimp only
  rw [hmeshes, hasked]
  split
  · split
    · rfl
    · rw [hculling]
      rfl
  · rfl

theorem plain_draft (name : String) (batches : List Batch) (nextBuffer : BufferId) :
    ctx.plain.draft name batches nextBuffer =
      (ctx.draft name batches nextBuffer).map UnitDraft.plain id := by
  unfold ExportContext.draft
  rw [plain_startDraft]
  obtain ⟨started, failure⟩ := ctx.startDraft name batches nextBuffer
  cases failure with
  | some failure => rfl
  | none => exact ctx.plain_writeBatches started batches

theorem plain_closing (p : Pipeline) : (ctx.closing p).plain = ctx.plain.closing p := by
  have hrestore : ∀ moved : Pipeline,
      Emission.plain
          { state := moved.execute (MaterialState.transition moved.registers ctx.default)
            commands := MaterialState.transition moved.registers ctx.default } =
        { state := moved.execute (MaterialState.transition moved.registers ctx.plain.default)
          commands := MaterialState.transition moved.registers ctx.plain.default } := by
    intro moved
    rw [Emission.plain, Command.flatMap_plain_eq_self]
    · rfl
    · exact fun c hc => Command.plain_of_touches (MaterialState.mem_transition hc).1
  rw [closing, Emission.plain_andThen _ hrestore, Pipeline.plain_moveTo]
  rfl

theorem plain_finish (name : String) (draft : UnitDraft) (closing : List Command) :
    finish name draft.plain (closing.flatMap Command.plain) =
      (finish name draft closing).plain := by
  have hsections : (draft.sections.map Section.plain).flatMap Section.commands =
      (draft.sections.flatMap Section.commands).flatMap Command.plain := by
    rw [List.flatMap_map, List.flatMap_assoc]
    exact List.flatMap_congr fun s _ => s.commands_plain
  have hsplit : ∀ sections : List Section,
      sections.flatMap (fun s => s.switch ++ s.drawing) = sections.flatMap Section.commands :=
    fun _ => rfl
  simp only [finish, UnitDraft.plain, CompiledUnit.plain, hsplit, hsections, List.flatMap_append]

/-- **Compiling a unit to plain commands.** -/
theorem plain_compileUnit (name : String) (batches : List Batch) (nextBuffer : BufferId) :
    ctx.plain.compileUnit name batches nextBuffer =
      (ctx.compileUnit name batches nextBuffer).plain := by
  unfold compileUnit
  rw [plain_draft]
  obtain ⟨draft, failure⟩ := ctx.draft name batches nextBuffer
  dsimp only [Prod.map]
  have hclosing : ctx.plain.closing draft.plain.pipeline =
    (ctx.closing draft.pipeline).plain := (ctx.plain_closing draft.pipeline).symm
  have hfailure : (ctx.closing draft.pipeline).plain.failure =
    (ctx.closing draft.pipeline).failure := rfl
  rw [hclosing, hfailure, id]
  cases failure.or (ctx.closing draft.pipeline).failure with
  | some failure => rfl
  | none => simp only [Emission.plain, plain_finish, UnitOutcome.plain, Except.map]; rfl

end ExportContext

end SceneCompiler
