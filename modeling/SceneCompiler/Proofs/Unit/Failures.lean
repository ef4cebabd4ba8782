import SceneCompiler.Proofs.Drawing.Failures
import SceneCompiler.Proofs.Unit.Sections

/-!
# When a unit fails

Neither the test of a bounding box nor the way back to rest can fail if the meshes exist. So a unit
fails for the first of its batches that cannot be drawn, if there is one, and whether a batch can be
drawn is told by the mesh, the skeleton and the settings alone (`ExportContext.failure?_compileUnit`).
The materials, the numbers of the buffers and what was drawn before do not matter.
-/

namespace SceneCompiler

/-- Why a batch cannot be drawn, if it cannot. -/
def Scene.batchFailure? (scene : Scene) (settings : Settings) (batch : Batch) :
    Option CompileError :=
  match batch.mesh with
  | none => none
  | some id =>
    match scene.mesh id with
    | .error failure => some failure
    | .ok mesh =>
      (mesh.neededVertices settings.vertexCacheSize batch.bones).findSome? fun vertex =>
        scene.skeleton.overflow? settings.maxMatrixDepth (mesh.vertexBone vertex)

/-- Why there is no unit, if there is none. -/
def UnitOutcome.failure? (outcome : UnitOutcome) : Option CompileError :=
  match outcome.result with
  | .ok _ => none
  | .error failure => some failure

namespace ExportContext

variable {ctx : ExportContext}

/-- A draft whose cache holds vertices of bones within reach only. -/
def Reaches (ctx : ExportContext) (draft : UnitDraft) : Prop :=
  (ctx.settings.canvas ctx.scene.skeleton).Reaches ctx.settings.vertexCacheSize draft.pipeline

/-! ### Batches -/

theorem failure_writeBatch (hcapacity : 3 ≤ ctx.settings.vertexCacheSize) {draft : UnitDraft}
    (h : ctx.Reaches draft) (batch : Batch) :
    (ctx.writeBatch draft batch).2 = ctx.scene.batchFailure? ctx.settings batch ∧
      ((ctx.writeBatch draft batch).2 = none → ctx.Reaches (ctx.writeBatch draft batch).1) := by
  cases hid : batch.mesh with
  | none => simpa [writeBatch, Scene.batchFailure?, hid] using h
  | some id =>
    cases hmesh : ctx.scene.mesh id with
    | error failure => simp [writeBatch, Scene.batchFailure?, hid, hmesh]
    | ok mesh =>
      cases hprovided : ctx.provideBuffer (ctx.switched draft batch) id mesh with
      | mk provided buffer =>
        have hreaches : ctx.Reaches provided := by
          rw [Reaches, (provideBuffer_frame hprovided).1]
          exact h
        rw [writeBatch_of_mesh hid hmesh hprovided rfl]
        simp only [Scene.batchFailure?, hid, hmesh]
        exact Canvas.failure_drawBatch hcapacity hreaches batch.bones

theorem failure_writeBatches (hcapacity : 3 ≤ ctx.settings.vertexCacheSize) {draft : UnitDraft}
    (h : ctx.Reaches draft) (batches : List Batch) :
    (ctx.writeBatches draft batches).2 =
      batches.findSome? (ctx.scene.batchFailure? ctx.settings) := by
  induction batches generalizing draft with
  | nil => rfl
  | cons batch rest ih =>
    obtain ⟨hfailure, hend⟩ := failure_writeBatch hcapacity h batch
    rw [writeBatches, List.findSome?_cons, ← hfailure]
    generalize ctx.writeBatch draft batch = outcome at hend
    obtain ⟨reached, failure⟩ := outcome
    cases failure with
    | some failure => rfl
    | none => exact ih (hend rfl)

/-! ### Units -/

theorem exists_meshesOf {batches : List Batch}
    (hmeshes : ∀ batch ∈ batches, ∀ id, batch.mesh = some id →
      ∃ mesh, ctx.scene.mesh id = .ok mesh) : ∃ meshes, ctx.meshesOf batches = .ok meshes := by
  unfold meshesOf
  induction batches with
  | nil => exact ⟨[], rfl⟩
  | cons batch rest ih =>
    obtain ⟨meshes, hrest⟩ := ih fun other hother => hmeshes other (List.mem_cons_of_mem batch hother)
    cases hid : batch.mesh with
    | none => exact ⟨meshes, by rw [List.filterMap_cons_none hid, hrest]⟩
    | some id =>
      obtain ⟨mesh, hmesh⟩ := hmeshes batch List.mem_cons_self id hid
      refine ⟨mesh :: meshes, ?_⟩
      rw [List.filterMap_cons_some hid, List.mapM_cons, hmesh, hrest]
      rfl

/-- A unit can be started if its meshes exist, and then nothing is in the cache. -/
theorem exists_startDraft (name : String) {batches : List Batch} (nextBuffer : BufferId)
    (hmeshes : ∀ batch ∈ batches, ∀ id, batch.mesh = some id →
      ∃ mesh, ctx.scene.mesh id = .ok mesh) :
    ∃ started, ctx.startDraft name batches nextBuffer = (started, none) ∧ ctx.Reaches started := by
  have hempty : ctx.Reaches (ctx.emptyDraft nextBuffer) := by
    constructor
    · intro slot key hslot
      rw [emptyDraft, Pipeline.atRest, VertexCache.get?_empty] at hslot
      simp at hslot
    · exact VertexCache.capacity_empty _
  unfold startDraft
  by_cases hculling : ctx.settings.includeCulling = true
  · obtain ⟨meshes, hlisted⟩ := exists_meshesOf hmeshes
    simp only [hculling, if_true, hlisted]
    refine ⟨_, rfl, ?_⟩
    unfold writeCulling
    split
    · exact hempty
    · refine ⟨fun slot key hslot => ?_, ?_⟩
      · exact hempty.1 slot key (VertexCache.get?_invalidate_eq_some hslot)
      · exact (VertexCache.capacity_invalidate _ _).trans hempty.2
  · simp only [hculling]
    exact ⟨_, rfl, hempty⟩

theorem failure_closing (p : Pipeline) : (ctx.closing p).failure = none := by
  rw [closing, Emission.failure_andThen, Pipeline.failure_moveTo, Option.or_none,
    Skeleton.overflow?_eq_none_iff]
  exact Nat.zero_le _

/-- **When a unit fails.**  A unit whose meshes exist fails as the first of its batches that cannot be
drawn, and is compiled if there is none. -/
theorem failure?_compileUnit (hcapacity : 3 ≤ ctx.settings.vertexCacheSize) (name : String)
    {batches : List Batch} (nextBuffer : BufferId)
    (hmeshes : ∀ batch ∈ batches, ∀ id, batch.mesh = some id →
      ∃ mesh, ctx.scene.mesh id = .ok mesh) :
    (ctx.compileUnit name batches nextBuffer).failure? =
      batches.findSome? (ctx.scene.batchFailure? ctx.settings) := by
  obtain ⟨started, hstarted, hreaches⟩ := exists_startDraft name nextBuffer hmeshes
  have hdraft : (ctx.draft name batches nextBuffer).2 =
      batches.findSome? (ctx.scene.batchFailure? ctx.settings) := by
    rw [draft, hstarted]
    exact failure_writeBatches hcapacity hreaches batches
  rw [← hdraft]
  simp only [UnitOutcome.failure?, compileUnit, failure_closing, Option.or_none]
  cases (ctx.draft name batches nextBuffer).2 <;> rfl

end ExportContext

end SceneCompiler
