import Mathlib.Data.List.Forall2
import SceneCompiler.Proofs.Drawing.Geometry
import SceneCompiler.Proofs.Unit.Sections

/-!
# What a unit draws

A unit is run on a geometry processor that starts with an empty stack and empty slots. At every
point the processor matches the pipeline that the draft keeps, and it has drawn the faces of the
batches that are written so far, group by group, from buffers that were made for their meshes
(`ExportContext.Renders`). The number of a buffer never stands for another one, so what was drawn
before stays what it is while buffers are added.
-/

namespace SceneCompiler

/-- The faces that a batch draws, with their mesh, in the order of its group. -/
def Scene.batchFaces (scene : Scene) (batch : Batch) : List (MeshId × Face) :=
  match batch.mesh with
  | none => []
  | some id =>
    match scene.mesh id with
    | .error _ => []
    | .ok mesh => (mesh.pairFaces batch.bones).map (id, ·)

/-- A buffer with the vertices of a mesh in some layout. -/
def VertexBuffer.IsFor (settings : Settings) (id : MeshId) (mesh : SkinnedMesh)
    (buffer : VertexBuffer) : Prop :=
  ∃ layout textureSize, buffer = (build settings buffer.id (some id) mesh layout textureSize).1

theorem VertexBuffer.IsFor.length {settings : Settings} {id : MeshId} {mesh : SkinnedMesh}
    {buffer : VertexBuffer} (h : buffer.IsFor settings id mesh) :
    buffer.vertices.length = mesh.surface.vertexCount := by
  obtain ⟨layout, textureSize, hbuild⟩ := h
  rw [hbuild]
  simp [build]

def UnitDraft.allBuffers (draft : UnitDraft) : List VertexBuffer :=
  draft.buffers ++ draft.culling.toList

namespace ExportContext

/-- One of some buffers that was made for a mesh. -/
structure Provides (ctx : ExportContext) (buffers : List VertexBuffer) (id : MeshId)
    (mesh : SkinnedMesh) (buffer : VertexBuffer) : Prop where
  mem : buffer ∈ buffers
  scene : ctx.scene.mesh id = .ok mesh
  made : buffer.IsFor ctx.settings id mesh

/-- A triangle that is drawn for a face of a mesh. -/
def Shows (ctx : ExportContext) (buffers : List VertexBuffer) (triangle : DrawnTriangle)
    (face : MeshId × Face) : Prop :=
  ∃ mesh buffer, ctx.Provides buffers face.1 mesh buffer ∧
    triangle = mesh.drawnFace buffer.id face.2

/-- A load that a unit may do: of the corners of its bounding box with nothing on the stack, or of
vertices of a mesh under the chains of their owners. -/
def Fetches (ctx : ExportContext) (buffers : List VertexBuffer) (culling : Option VertexBuffer)
    (load : VertexLoad) : Prop :=
  (∃ buffer, culling = some buffer ∧ load.buffer = buffer.id ∧ load.stack = [] ∧
      ∀ k < load.count, load.offset + k < buffer.vertices.length) ∨
    ∃ id mesh buffer, ctx.Provides buffers id mesh buffer ∧
      (ctx.settings.canvas ctx.scene.skeleton).Loads mesh buffer.id load

/-- Every buffer of a draft has a number of its own below the next one, and the buffers of meshes
were made for meshes of the scene. -/
structure Stocks (ctx : ExportContext) (draft : UnitDraft) : Prop where
  made : ∀ buffer ∈ draft.buffers, ∃ id mesh, buffer.IsFor ctx.settings id mesh ∧
    ctx.scene.mesh id = .ok mesh
  numbered : (draft.allBuffers.map (·.id)).Nodup
  fresh : ∀ buffer ∈ draft.allBuffers, buffer.id < draft.nextBuffer

/-- A draft that, run on a processor at rest, draws some faces and leaves the processor where the
pipeline is thought to be. -/
structure Renders (ctx : ExportContext) (draft : UnitDraft) (faces : List (MeshId × Face)) :
    Prop where
  stocks : ctx.Stocks draft
  capacity : draft.pipeline.cache.capacity = ctx.settings.vertexCacheSize
  run : ∃ proc : Processor, Processor.run? {} draft.written = some proc ∧
    proc.Matches draft.pipeline ∧ List.Forall₂ (ctx.Shows draft.buffers) proc.drawn faces ∧
    ∀ load ∈ proc.loads, ctx.Fetches draft.buffers draft.culling load

variable {ctx : ExportContext} {draft reached : UnitDraft}

/-! ### Buffers -/

theorem Provides.mono {buffers more : List VertexBuffer} {id : MeshId} {mesh : SkinnedMesh}
    {buffer : VertexBuffer} (h : ctx.Provides buffers id mesh buffer)
    (hmore : ∀ b ∈ buffers, b ∈ more) : ctx.Provides more id mesh buffer :=
  ⟨hmore buffer h.mem, h.scene, h.made⟩

theorem Shows.mono {buffers more : List VertexBuffer} {triangle : DrawnTriangle}
    {face : MeshId × Face} (h : ctx.Shows buffers triangle face)
    (hmore : ∀ b ∈ buffers, b ∈ more) : ctx.Shows more triangle face := by
  obtain ⟨mesh, buffer, hprovides, htriangle⟩ := h
  exact ⟨mesh, buffer, hprovides.mono hmore, htriangle⟩

theorem Fetches.mono {buffers more : List VertexBuffer} {culling : Option VertexBuffer}
    {load : VertexLoad} (h : ctx.Fetches buffers culling load)
    (hmore : ∀ b ∈ buffers, b ∈ more) : ctx.Fetches more culling load := by
  rcases h with hculling | ⟨id, mesh, buffer, hprovides, hload⟩
  · exact Or.inl hculling
  · exact Or.inr ⟨id, mesh, buffer, hprovides.mono hmore, hload⟩

theorem Stocks.add (h : ctx.Stocks draft)
    (hmade : ∀ buffer ∈ reached.buffers, buffer ∈ draft.buffers ∨
      ∃ id mesh, buffer.IsFor ctx.settings id mesh ∧ ctx.scene.mesh id = .ok mesh)
    {buffer : VertexBuffer} (hall : reached.allBuffers.Perm (buffer :: draft.allBuffers))
    (hnumber : buffer.id = draft.nextBuffer) (hnext : reached.nextBuffer = draft.nextBuffer + 1) :
    ctx.Stocks reached where
  made other hother := (hmade other hother).elim (h.made other) id
  numbered := by
    rw [(hall.map _).nodup_iff, List.map_cons, List.nodup_cons]
    refine ⟨fun hmem => ?_, h.numbered⟩
    obtain ⟨other, hother, hsame⟩ := List.mem_map.mp hmem
    exact Nat.ne_of_lt (h.fresh other hother) (hsame.trans hnumber)
  fresh other hother := by
    rw [hnext]
    rcases List.mem_cons.mp (hall.mem_iff.mp hother) with rfl | hother
    · rw [hnumber]
      exact Nat.lt_succ_self _
    · exact Nat.lt_succ_of_lt (h.fresh other hother)

/-- **The buffer that is provided for a mesh was made for it**, now or before. -/
theorem Stocks.provideBuffer (h : ctx.Stocks draft) {id : MeshId} {mesh : SkinnedMesh}
    (hmesh : ctx.scene.mesh id = .ok mesh) {provided : UnitDraft} {number : BufferId}
    (hprovided : ctx.provideBuffer draft id mesh = (provided, number)) :
    ctx.Stocks provided ∧ (∀ b ∈ draft.buffers, b ∈ provided.buffers) ∧
      ∃ buffer, buffer.id = number ∧ ctx.Provides provided.buffers id mesh buffer := by
  unfold ExportContext.provideBuffer at hprovided
  dsimp only at hprovided
  split at hprovided
  · rename_i buffer hfound
    obtain ⟨rfl, rfl⟩ := Prod.mk.inj hprovided
    have hmem := List.mem_of_find?_eq_some hfound
    have hfor : buffer.mesh = some id := by
      have hfound := List.find?_some hfound
      simp only [Bool.and_eq_true, decide_eq_true_eq] at hfound
      exact hfound.1
    refine ⟨h, fun b hb => hb, buffer, rfl, hmem, hmesh, ?_⟩
    -- the mesh it was made for is this one
    obtain ⟨other, found, hmade, hscene⟩ := h.made buffer hmem
    have hother : buffer.mesh = some other := by
      obtain ⟨layout, textureSize, hbuild⟩ := hmade
      rw [hbuild]
      rfl
    obtain rfl := Option.some.inj (hother.symm.trans hfor)
    obtain rfl := Except.ok.inj (hscene.symm.trans hmesh)
    exact hmade
  · generalize hbuild : VertexBuffer.build _ _ _ _ _ _ = built at hprovided
    obtain ⟨buffer, reports⟩ := built
    obtain ⟨rfl, rfl⟩ := Prod.mk.inj hprovided
    have hbuffer : _ = buffer := congrArg Prod.fst hbuild
    have hnumber : buffer.id = draft.nextBuffer := by
      rw [← hbuffer]
      rfl
    have hmade : buffer.IsFor ctx.settings id mesh := by
      refine ⟨layoutFor draft.pipeline.registers, draft.pipeline.registers.textureSize?, ?_⟩
      rw [hnumber]
      exact hbuffer.symm
    refine ⟨h.add (fun b hb => ?_) ?_ hnumber rfl, fun b hb => List.mem_append_left _ hb, buffer,
      rfl, List.mem_append_right _ List.mem_cons_self, hmesh, hmade⟩
    · rcases List.mem_append.mp hb with hb | hb
      · exact Or.inl hb
      · obtain rfl := List.mem_singleton.mp hb
        exact Or.inr ⟨id, mesh, hmade, hmesh⟩
    · rw [UnitDraft.allBuffers, List.append_assoc]
      exact List.perm_middle

/-! ### Batches -/

/-- A processor that has run a draft runs the next batch: the switch leaves it alone, and the drawing
takes it where the pipeline is thought to go. -/
theorem Renders.run_next (hsize : ctx.settings.vertexCacheSize ≤ maxVertexCacheSize)
    {faces : List (MeshId × Face)} (h : ctx.Renders draft faces) (batch : Batch)
    {mesh : SkinnedMesh} {number : BufferId} {drawn : Emission Pipeline}
    (hdrawn : drawn = (ctx.settings.canvas ctx.scene.skeleton).drawBatch mesh batch.bones number
      (ctx.switched draft batch).pipeline) (hfailure : drawn.failure = none) :
    drawn.state.cache.capacity = ctx.settings.vertexCacheSize ∧
      ∃ proc after loads, Processor.run? {}
          (draft.written ++ (ctx.switchMaterial draft.pipeline.registers batch).1) = some proc ∧
        List.Forall₂ (ctx.Shows draft.buffers) proc.drawn faces ∧
        (∀ load ∈ proc.loads, ctx.Fetches draft.buffers draft.culling load) ∧
        proc.run? drawn.commands = some after ∧ after.Matches drawn.state ∧
        after.drawn = proc.drawn ++ (mesh.pairFaces batch.bones).map (mesh.drawnFace number) ∧
        after.loads = proc.loads ++ loads ∧
        ∀ load ∈ loads, (ctx.settings.canvas ctx.scene.skeleton).Loads mesh number load := by
  obtain ⟨proc, hrun, hmatches, hshows, hfetches⟩ := h.run
  have hsame : (ctx.switched draft batch).pipeline.cache.capacity = ctx.settings.vertexCacheSize :=
    h.capacity
  have hfits : (ctx.switched draft batch).pipeline.cache.capacity ≤ 256 :=
    hsame.trans_le (Nat.le_trans hsize (by decide))
  subst hdrawn
  obtain ⟨hcapacity, hdraws⟩ := Canvas.draws_drawBatch hfits hfailure
  have hinert : proc.run? (ctx.switchMaterial draft.pipeline.registers batch).1 = some proc :=
    proc.run?_of_inert fun c hc => mem_switch hc
  have hswitched : Processor.run? {}
      (draft.written ++ (ctx.switchMaterial draft.pipeline.registers batch).1) = some proc := by
    rw [Processor.run?_append, hrun]
    exact hinert
  obtain ⟨after, loads, hafter, hreached, hdrawn, hloads, hallowed⟩ :=
    hdraws proc ⟨hmatches.stack, hmatches.slots⟩
  exact ⟨hcapacity.trans hsame, proc, after, loads, hswitched, hshows, hfetches, hafter, hreached,
    hdrawn, hloads, hallowed⟩

/-- **A batch draws the faces of its group.** -/
theorem Renders.writeBatch {faces : List (MeshId × Face)}
    (hsize : ctx.settings.vertexCacheSize ≤ maxVertexCacheSize) (h : ctx.Renders draft faces)
    {batch : Batch} (hwrite : ctx.writeBatch draft batch = (reached, none)) :
    ctx.Renders reached (faces ++ ctx.scene.batchFaces batch) := by
  rcases writeBatch_ok hwrite with ⟨hnone, rfl⟩ | ⟨id, mesh, provided, number, hid, hmesh,
    hprovided, drawn, hdrawn, hfailure, hreached⟩
  · rw [Scene.batchFaces, hnone, List.append_nil]
    exact h
  · obtain ⟨hpipeline, hprologue, hsections, hculling⟩ := provideBuffer_frame hprovided
    have hstocks : ctx.Stocks (ctx.switched draft batch) :=
      ⟨h.stocks.made, h.stocks.numbered, h.stocks.fresh⟩
    obtain ⟨hstocks, hmore, buffer, rfl, hprovides⟩ := hstocks.provideBuffer hmesh hprovided
    rw [hpipeline] at hdrawn
    obtain ⟨hcapacity, proc, after, loads, hrun, hshows, hfetches, hafter, hmatches, hdraws, hloads,
      hallowed⟩ := h.run_next hsize batch hdrawn hfailure
    have hbatch : ctx.scene.batchFaces batch = (mesh.pairFaces batch.bones).map (id, ·) := by
      simp only [Scene.batchFaces, hid, hmesh]
    have hprologue' : reached.prologue = draft.prologue := by
      rw [hreached]
      exact hprologue
    have hsections' : reached.sections = draft.sections ++
        [⟨batch, (ctx.switchMaterial draft.pipeline.registers batch).1, drawn.commands⟩] := by
      rw [hreached, hsections]
      rfl
    have hreachedBuffers : reached.buffers = provided.buffers := by rw [hreached]
    have hreachedCulling : reached.culling = draft.culling := by
      rw [hreached]
      exact hculling
    constructor
    · rw [hreached]
      exact ⟨hstocks.made, hstocks.numbered, hstocks.fresh⟩
    · rw [hreached]
      exact hcapacity
    · rw [hreachedBuffers, hreachedCulling]
      refine ⟨after, ?_, by rw [hreached]; exact hmatches, ?_, ?_⟩
      · rw [UnitDraft.written_append hprologue' hsections', Section.commands, ← List.append_assoc,
          Processor.run?_append, hrun]
        exact hafter
      · rw [hdraws, hbatch]
        refine List.rel_append (hshows.imp fun _ _ hshow => hshow.mono hmore) ?_
        rw [List.forall₂_map_left_iff, List.forall₂_map_right_iff]
        exact List.forall₂_same.mpr fun face _ => ⟨mesh, buffer, hprovides, rfl⟩
      · intro load hload
        rw [hloads] at hload
        rcases List.mem_append.mp hload with hload | hload
        · exact (hfetches load hload).mono hmore
        · exact Or.inr ⟨id, mesh, buffer, hprovides, hallowed load hload⟩

/-! ### Units -/

/-- The test of a bounding box loads its corners with nothing on the stack, and draws nothing. -/
theorem run?_culling (proc : Processor) (default : MaterialState) (buffer : BufferId) :
    proc.run? (Culling.commands default buffer) =
      some { proc with
        slots := proc.fill buffer 0 Culling.cornerCount 0
        loads := proc.loads ++ [⟨proc.stack, buffer, 0, Culling.cornerCount⟩] } := by
  unfold Culling.commands
  cases default.usesLighting <;> rfl

theorem renders_startDraft {name : String} {batches : List Batch} {nextBuffer : BufferId}
    (h : ctx.startDraft name batches nextBuffer = (draft, none)) : ctx.Renders draft [] := by
  have hempty : ctx.Stocks (ctx.emptyDraft nextBuffer) :=
    ⟨by simp [emptyDraft], by simp [UnitDraft.allBuffers, emptyDraft],
      by simp [UnitDraft.allBuffers, emptyDraft]⟩
  have hrest := Processor.matches_atRest ctx.settings ctx.default
  have hnothing : ctx.Renders (ctx.emptyDraft nextBuffer) [] :=
    ⟨hempty, VertexCache.capacity_empty _, {}, rfl, hrest, .nil, by simp⟩
  rcases startDraft_ok h with rfl | ⟨meshes, rfl⟩
  · exact hnothing
  · unfold writeCulling
    split
    · exact hnothing
    · rename_i bounds _
      generalize hbuild : Culling.buffer _ _ _ bounds = built
      obtain ⟨buffer, reports⟩ := built
      have hbuffer : _ = buffer := congrArg Prod.fst hbuild
      have hnumber : buffer.id = nextBuffer := by
        rw [← hbuffer]
        rfl
      have hlength : buffer.vertices.length = Culling.cornerCount := by
        rw [← hbuffer]
        rfl
      constructor
      · exact hempty.add (fun b hb => Or.inl hb) (.refl _) hnumber rfl
      · exact (VertexCache.capacity_invalidate _ _).trans (VertexCache.capacity_empty _)
      · have hrun := run?_culling {} ctx.default buffer.id
        rw [← List.append_nil (Culling.commands ctx.default buffer.id)] at hrun
        refine ⟨_, hrun, ⟨rfl, fun slot key hslot => ?_⟩, .nil, ?_⟩
        · have hslot := VertexCache.get?_invalidate_eq_some hslot
          rw [emptyDraft, Pipeline.atRest, VertexCache.get?_empty] at hslot
          simp at hslot
        · intro load hload
          obtain rfl := List.mem_singleton.mp hload
          refine Or.inl ⟨buffer, rfl, rfl, rfl, fun k hk => ?_⟩
          rw [hlength, Nat.zero_add]
          exact hk

/-- **A draft draws the faces of its batches**, batch by batch. -/
theorem renders_draft (hsize : ctx.settings.vertexCacheSize ≤ maxVertexCacheSize) {name : String}
    {batches : List Batch} {nextBuffer : BufferId}
    (h : ctx.draft name batches nextBuffer = (draft, none)) :
    ctx.Renders draft (batches.flatMap ctx.scene.batchFaces) := by
  obtain ⟨started, hstarted, hwrite⟩ := draft_ok h
  refine writeBatches_history (P := fun done draft =>
    ctx.Renders draft (done.flatMap ctx.scene.batchFaces)) [] ?_ hwrite (renders_startDraft hstarted)
  intro done draft batch reached _ hdraft hreached
  rw [List.flatMap_append, List.flatMap_singleton]
  exact hdraft.writeBatch hsize hreached

/-- **A unit draws the faces of its batches**, batch by batch, and loads only what they need. -/
theorem renders_unit (hsize : ctx.settings.vertexCacheSize ≤ maxVertexCacheSize) {name : String}
    {batches : List Batch} {nextBuffer : BufferId} {unit : CompiledUnit}
    (h : (ctx.compileUnit name batches nextBuffer).result = .ok unit) :
    ((unit.vertexBuffers ++ unit.cullingBuffer.toList).map (·.id)).Nodup ∧
      ∃ proc : Processor, Processor.run? {} unit.displayList.commands = some proc ∧
        List.Forall₂ (ctx.Shows unit.vertexBuffers) proc.drawn
          (batches.flatMap ctx.scene.batchFaces) ∧
        ∀ load ∈ proc.loads, ctx.Fetches unit.vertexBuffers unit.cullingBuffer load := by
  obtain ⟨draft, moves, hdraft, hlist, hbuffers, hculling, hfollows, hmoves⟩ := compileUnit_ok h
  have hrenders := renders_draft hsize hdraft
  obtain ⟨proc, hrun, hmatches, hshows, hfetches⟩ := hrenders.run
  rw [hbuffers, hculling]
  refine ⟨hrenders.stocks.numbered, { proc with stack := [] }, ?_, hshows, hfetches⟩
  have hclosing : proc.run? moves = some { proc with stack := [] } := by
    rw [proc.run?_of_not_usesSlots fun c hc => Command.usesSlots_of_move (hmoves c hc),
      hmatches.stack, hfollows.stack]
    rfl
  rw [hlist, Processor.run?_append, hrun, Option.bind_some, Processor.run?_append, hclosing,
    Option.bind_some]
  refine Processor.run?_of_inert _ fun c hc => ?_
  have htouches := (MaterialState.mem_transition hc).1
  exact ⟨Command.usesSlots_of_touches htouches, Command.isMatrix_of_touches htouches⟩

end ExportContext

end SceneCompiler
