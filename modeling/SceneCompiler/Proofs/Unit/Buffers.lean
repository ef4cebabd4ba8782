import SceneCompiler.Proofs.Drawing.Loads
import SceneCompiler.Proofs.Unit.Geometry

/-!
# The buffers of a unit

Buffers are numbered on and on, also by a unit that fails, so two units never share a number
(`ExportContext.grows_draft`). A buffer is made when a batch finds none for its mesh in its layout.
It is loaded at once: the batch has a face, and a face is drawn only from vertices that were loaded
(`Processor.Backed`), which cannot have happened before. So the buffers of a unit stand in the order
of their first loads, and the loads name no others (`ExportContext.loaded_draft`).
-/

namespace SceneCompiler

/-! ### Numbers -/

/-- The buffer that a command loads from. -/
def Command.loaded? (c : Command) : Option BufferId := c.span?.map Prod.fst

namespace UnitDraft

/-- A draft that has at most new buffers more than another one. -/
structure Grows (draft reached : UnitDraft) : Prop where
  next : draft.nextBuffer ≤ reached.nextBuffer
  buffers : ∀ buffer ∈ reached.allBuffers, buffer ∈ draft.allBuffers ∨ draft.nextBuffer ≤ buffer.id

theorem Grows.refl (draft : UnitDraft) : draft.Grows draft :=
  ⟨Nat.le_refl _, fun _ hbuffer => Or.inl hbuffer⟩

theorem Grows.trans {draft between reached : UnitDraft} (h : draft.Grows between)
    (hrest : between.Grows reached) : draft.Grows reached where
  next := Nat.le_trans h.next hrest.next
  buffers buffer hbuffer := by
    rcases hrest.buffers buffer hbuffer with hold | hnew
    · exact h.buffers buffer hold
    · exact Or.inr (Nat.le_trans h.next hnew)

end UnitDraft

namespace ExportContext

variable {ctx : ExportContext} {draft reached provided : UnitDraft}

/-- **What providing a buffer does.**  A buffer that is there is used again, or one of a new kind is
added. -/
theorem provideBuffer_cases {id : MeshId} {mesh : SkinnedMesh} {number : BufferId}
    (h : ctx.provideBuffer draft id mesh = (provided, number)) :
    (provided = draft ∧ ∃ buffer ∈ draft.buffers, buffer.id = number) ∨
      ∃ buffer, buffer.id = number ∧ number = draft.nextBuffer ∧
        provided.buffers = draft.buffers ++ [buffer] ∧ provided.culling = draft.culling ∧
        provided.nextBuffer = draft.nextBuffer + 1 ∧
        ∀ other ∈ draft.buffers, (other.mesh, other.layout) ≠ (buffer.mesh, buffer.layout) := by
  unfold provideBuffer at h
  dsimp only at h
  split at h
  · rename_i buffer hfound
    obtain ⟨rfl, rfl⟩ := Prod.mk.inj h
    exact Or.inl ⟨rfl, buffer, List.mem_of_find?_eq_some hfound, rfl⟩
  · rename_i hnone
    obtain ⟨rfl, rfl⟩ := Prod.mk.inj h
    refine Or.inr ⟨_, rfl, rfl, rfl, rfl, rfl, fun other hother hsame => ?_⟩
    obtain ⟨hmesh, hlayout⟩ := Prod.mk.inj hsame
    have hnot := List.find?_eq_none.mp hnone other hother
    rw [hmesh, hlayout] at hnot
    simp [VertexBuffer.build] at hnot

theorem grows_provideBuffer {id : MeshId} {mesh : SkinnedMesh} {number : BufferId}
    (h : ctx.provideBuffer draft id mesh = (provided, number)) : draft.Grows provided := by
  rcases provideBuffer_cases h with ⟨rfl, _⟩ | ⟨buffer, hid, hnumber, hbuffers, hculling, hnext, _⟩
  · exact .refl _
  · refine ⟨by rw [hnext]; exact Nat.le_succ _, fun other hother => ?_⟩
    rw [UnitDraft.allBuffers, hbuffers, hculling] at hother
    simp only [List.mem_append, List.mem_singleton] at hother
    rcases hother with (hold | rfl) | hculled
    · exact Or.inl (List.mem_append_left _ hold)
    · exact Or.inr (Nat.le_of_eq (hid.trans hnumber).symm)
    · exact Or.inl (List.mem_append_right _ hculled)

theorem grows_writeBatch (draft : UnitDraft) (batch : Batch) :
    draft.Grows (ctx.writeBatch draft batch).1 := by
  cases hid : batch.mesh with
  | none =>
    simp only [writeBatch, hid]
    exact .refl draft
  | some id =>
    cases hmesh : ctx.scene.mesh id with
    | error failure =>
      simp only [writeBatch, hid, hmesh]
      exact .refl draft
    | ok mesh =>
      cases hprovided : ctx.provideBuffer (ctx.switched draft batch) id mesh with
      | mk provided number =>
        rw [writeBatch_of_mesh hid hmesh hprovided rfl]
        obtain ⟨hnext, hbuffers⟩ := grows_provideBuffer hprovided
        exact ⟨hnext, hbuffers⟩

theorem grows_writeBatches (draft : UnitDraft) (batches : List Batch) :
    draft.Grows (ctx.writeBatches draft batches).1 := by
  induction batches generalizing draft with
  | nil => exact .refl draft
  | cons batch rest ih =>
    have hfirst : draft.Grows (ctx.writeBatch draft batch).1 := grows_writeBatch draft batch
    unfold writeBatches
    split
    · rename_i hwrite
      rw [hwrite] at hfirst
      exact hfirst
    · rename_i next hwrite
      rw [hwrite] at hfirst
      exact hfirst.trans (ih next)

theorem grows_startDraft (name : String) (batches : List Batch) (nextBuffer : BufferId) :
    (ctx.emptyDraft nextBuffer).Grows (ctx.startDraft name batches nextBuffer).1 := by
  unfold startDraft
  dsimp only
  split
  · split
    · exact .refl _
    · unfold writeCulling
      split
      · exact .refl _
      · refine ⟨Nat.le_succ _, fun buffer hbuffer => Or.inr ?_⟩
        obtain rfl := List.mem_singleton.mp hbuffer
        exact Nat.le_refl _
  · exact .refl _

/-- **Buffers are numbered on and on**, also by a unit that fails. -/
theorem grows_draft (name : String) (batches : List Batch) (nextBuffer : BufferId) :
    (ctx.emptyDraft nextBuffer).Grows (ctx.draft name batches nextBuffer).1 := by
  have hstart : (ctx.emptyDraft nextBuffer).Grows (ctx.startDraft name batches nextBuffer).1 :=
    grows_startDraft name batches nextBuffer
  unfold ExportContext.draft
  split
  · rename_i hstarted
    rw [hstarted] at hstart
    exact hstart
  · rename_i started hstarted
    rw [hstarted] at hstart
    exact hstart.trans (grows_writeBatches started batches)

/-! ### Loads -/

/-- A draft whose buffers, after the one of its bounding box, stand in the order in which they are
first loaded, each of a kind of its own, and which loads no others. No load is empty. -/
structure Loaded (draft : UnitDraft) : Prop where
  order : ∃ loads, draft.written.filterMap Command.loaded? =
    draft.culling.toList.map (·.id) ++ loads ∧ draft.buffers.map (·.id) = loads.eraseDups
  kinds : (draft.buffers.map fun buffer => (buffer.mesh, buffer.layout)).Nodup
  nonempty : ∀ c ∈ draft.written, ∀ span, c.span? = some span → 0 < span.2.2

theorem Loaded.mem_ids (h : Loaded draft) {number : BufferId}
    (hnumber : number ∈ draft.written.filterMap Command.loaded?) :
    number ∈ draft.allBuffers.map (·.id) := by
  obtain ⟨loads, hloads, hbuffers⟩ := h.order
  rw [hloads] at hnumber
  rw [UnitDraft.allBuffers, List.map_append, hbuffers]
  rcases List.mem_append.mp hnumber with hculling | hload
  · exact List.mem_append_right _ hculling
  · exact List.mem_append_left _ (List.mem_eraseDups.mpr hload)

/-- **A batch with a face is drawn from a buffer that was loaded**, by then or for the batch. -/
theorem mem_loaded_of_draw (hsize : ctx.settings.vertexCacheSize ≤ maxVertexCacheSize)
    {faces : List (MeshId × Face)} (h : ctx.Renders draft faces) (batch : Batch)
    {mesh : SkinnedMesh} (hfaces : mesh.pairFaces batch.bones ≠ []) {number : BufferId}
    {drawn : Emission Pipeline}
    (hdrawn : drawn = (ctx.settings.canvas ctx.scene.skeleton).drawBatch mesh batch.bones number
      (ctx.switched draft batch).pipeline) (hfailure : drawn.failure = none) :
    number ∈ draft.written.filterMap Command.loaded? ++
      ((ctx.switchMaterial draft.pipeline.registers batch).1 ++
        drawn.commands).filterMap Command.loaded? := by
  obtain ⟨_, proc, after, loads, hrun, _, _, hafter, _, hdraws, _⟩ :=
    h.run_next hsize batch hdrawn hfailure
  have hall : Processor.run? {} (draft.written ++
      (ctx.switchMaterial draft.pipeline.registers batch).1 ++ drawn.commands) = some after := by
    rw [Processor.run?_append, hrun]
    exact hafter
  obtain ⟨face, hface⟩ := List.exists_mem_of_ne_nil _ hfaces
  have hshown : mesh.drawnFace number face ∈ after.drawn := by
    rw [hdraws]
    exact List.mem_append_right _ (List.mem_map_of_mem hface)
  obtain ⟨load, hload, hbuffer⟩ := (Processor.backed_empty.run? hall).drawn _ hshown
    (mesh.vertexKey number face.a) List.mem_cons_self
  have hspan := List.mem_map_of_mem (f := VertexLoad.span) hload
  rw [Processor.loads_run? hall, List.map_nil, List.nil_append] at hspan
  obtain ⟨c, hc, hspan⟩ := List.mem_filterMap.mp hspan
  rw [← List.filterMap_append, ← List.append_assoc]
  refine List.mem_filterMap.mpr ⟨c, hc, ?_⟩
  rw [Command.loaded?, hspan]
  exact congrArg some hbuffer

/-- Commands that load from one buffer, and never nothing. -/
def LoadsOnly (commands : List Command) (number : BufferId) : Prop :=
  ∀ c ∈ commands, ∀ span, c.span? = some span → span.1 = number ∧ 0 < span.2.2

theorem LoadsOnly.eq_of_mem {commands : List Command} {number : BufferId}
    (h : LoadsOnly commands number) {n : BufferId}
    (hn : n ∈ commands.filterMap Command.loaded?) : n = number := by
  obtain ⟨c, hc, hload⟩ := List.mem_filterMap.mp hn
  obtain ⟨span, hspan, rfl⟩ := Option.map_eq_some_iff.mp hload
  exact (h c hc span hspan).1

theorem loadsOnly_section {registers : MaterialState} {batch : Batch} {mesh : SkinnedMesh}
    {number : BufferId} {p : Pipeline} {drawn : Emission Pipeline}
    (hdrawn : drawn = (ctx.settings.canvas ctx.scene.skeleton).drawBatch mesh batch.bones number
      p) :
    LoadsOnly ((ctx.switchMaterial registers batch).1 ++ drawn.commands) number := by
  intro c hc span hspan
  rcases List.mem_append.mp hc with hswitch | hdraw
  · rw [Command.span?_of_not_usesSlots (mem_switch hswitch).1] at hspan
    contradiction
  · rw [hdrawn] at hdraw
    exact Canvas.span?_drawBatch hdraw hspan

theorem Loaded.nonempty_append (h : Loaded draft) {commands : List Command} {number : BufferId}
    (honly : LoadsOnly commands number) (hwritten : reached.written = draft.written ++ commands) :
    ∀ c ∈ reached.written, ∀ span, c.span? = some span → 0 < span.2.2 := by
  intro c hc span hspan
  rw [hwritten] at hc
  rcases List.mem_append.mp hc with hbefore | hadded
  · exact h.nonempty c hbefore span hspan
  · exact (honly c hadded span hspan).2

/-- More loads from a buffer of the draft: it was loaded before, so the order stays. -/
theorem Loaded.reuse (h : Loaded draft) {commands : List Command} {number : BufferId}
    (honly : LoadsOnly commands number) (hthere : number ∈ draft.buffers.map (·.id))
    (hwritten : reached.written = draft.written ++ commands)
    (hculling : reached.culling = draft.culling) (hbuffers : reached.buffers = draft.buffers) :
    Loaded reached := by
  obtain ⟨loads, hloads, horder⟩ := h.order
  have hbefore : number ∈ loads := by
    rw [horder] at hthere
    exact List.mem_eraseDups.mp hthere
  refine ⟨⟨loads ++ commands.filterMap Command.loaded?, ?_, ?_⟩, ?_,
    h.nonempty_append honly hwritten⟩
  · rw [hwritten, List.filterMap_append, hloads, List.append_assoc, hculling]
  · rw [hbuffers, horder, eraseDups_append_of_mem]
    intro n hn
    rw [honly.eq_of_mem hn]
    exact hbefore
  · rw [hbuffers]
    exact h.kinds

/-- The first loads from a new buffer of a new kind. -/
theorem Loaded.extend (h : Loaded draft) {commands : List Command} {buffer : VertexBuffer}
    (honly : LoadsOnly commands buffer.id)
    (hfresh : buffer.id ∉ draft.written.filterMap Command.loaded?)
    (hloaded : buffer.id ∈ commands.filterMap Command.loaded?)
    (hkind : ∀ other ∈ draft.buffers,
      (other.mesh, other.layout) ≠ (buffer.mesh, buffer.layout))
    (hwritten : reached.written = draft.written ++ commands)
    (hculling : reached.culling = draft.culling)
    (hbuffers : reached.buffers = draft.buffers ++ [buffer]) : Loaded reached := by
  obtain ⟨loads, hloads, horder⟩ := h.order
  have hnotBefore : buffer.id ∉ loads := by
    intro hmem
    rw [hloads] at hfresh
    exact hfresh (List.mem_append_right _ hmem)
  refine ⟨⟨loads ++ commands.filterMap Command.loaded?, ?_, ?_⟩, ?_,
    h.nonempty_append honly hwritten⟩
  · rw [hwritten, List.filterMap_append, hloads, List.append_assoc, hculling]
  · rw [hbuffers, eraseDups_append_new hnotBefore (List.ne_nil_of_mem hloaded) fun n =>
      honly.eq_of_mem, ← horder]
    exact List.map_append
  · rw [hbuffers, List.map_append, List.nodup_append]
    refine ⟨h.kinds, List.nodup_singleton _, ?_⟩
    intro kind hold other hother hsame
    obtain ⟨old, hthere, rfl⟩ := List.mem_map.mp hold
    obtain rfl := List.mem_singleton.mp hother
    exact hkind old hthere hsame

theorem Loaded.writeBatch (hsize : ctx.settings.vertexCacheSize ≤ maxVertexCacheSize)
    {faces : List (MeshId × Face)} (hrenders : ctx.Renders draft faces) (h : Loaded draft)
    {batch : Batch} (hfaces : ctx.scene.batchFaces batch ≠ [])
    (hwrite : ctx.writeBatch draft batch = (reached, none)) : Loaded reached := by
  rcases writeBatch_ok hwrite with ⟨_, rfl⟩ | ⟨id, mesh, provided, number, hid, hmesh, hprovided,
    drawn, hdrawn, hfailure, hreached⟩
  · exact h
  · obtain ⟨hpipeline, hprologue, hsections, hculling⟩ := provideBuffer_frame hprovided
    rw [hpipeline] at hdrawn
    have hpair : mesh.pairFaces batch.bones ≠ [] := by
      intro hnone
      simp [Scene.batchFaces, hid, hmesh, hnone] at hfaces
    have hloaded := mem_loaded_of_draw hsize hrenders batch hpair hdrawn hfailure
    have honly : LoadsOnly ((ctx.switchMaterial draft.pipeline.registers batch).1 ++
        drawn.commands) number := loadsOnly_section hdrawn
    have hwritten : reached.written = draft.written ++
        ((ctx.switchMaterial draft.pipeline.registers batch).1 ++ drawn.commands) := by
      simp only [hreached, UnitDraft.written, hprologue, hsections, switched,
        List.flatMap_append, List.flatMap_singleton, Section.commands, List.append_assoc]
    have hkept : reached.culling = draft.culling := by
      rw [hreached]
      exact hculling
    have hbuffers : reached.buffers = provided.buffers := by rw [hreached]
    rcases provideBuffer_cases hprovided with ⟨rfl, buffer, hbuffer, rfl⟩ |
      ⟨buffer, rfl, hnext, hadded, _, _, hkind⟩
    · exact h.reuse honly (List.mem_map_of_mem hbuffer) hwritten hkept hbuffers
    · -- nothing was loaded from a number that was not given out yet
      have hfresh : buffer.id ∉ draft.written.filterMap Command.loaded? := by
        intro hmem
        obtain ⟨old, hold, hsame⟩ := List.mem_map.mp (h.mem_ids hmem)
        have hlt := hrenders.stocks.fresh old hold
        rw [hsame, hnext] at hlt
        exact Nat.lt_irrefl _ hlt
      have hnow := (List.mem_append.mp hloaded).resolve_left hfresh
      exact h.extend honly hfresh hnow hkind hwritten hkept (hbuffers.trans hadded)

/-! ### Units -/

theorem pos_of_mem_culling {default : MaterialState} {buffer : BufferId} {c : Command}
    (hc : c ∈ Culling.commands default buffer) {span : BufferId × Nat × Nat}
    (h : c.span? = some span) : 0 < span.2.2 := by
  rcases List.mem_append.mp hc with hc | hc
  · simp only [List.mem_cons, List.not_mem_nil, or_false] at hc
    rcases hc with rfl | rfl | rfl
    · simp [Command.span?] at h
    · obtain rfl := Option.some.inj h
      exact Nat.succ_pos _
    · simp [Command.span?] at h
  · split at hc
    · obtain rfl := List.mem_singleton.mp hc
      simp [Command.span?] at h
    · simp at hc

theorem loaded_startDraft {name : String} {batches : List Batch} {nextBuffer : BufferId}
    (h : ctx.startDraft name batches nextBuffer = (draft, none)) : Loaded draft := by
  have hempty : Loaded (ctx.emptyDraft nextBuffer) :=
    ⟨⟨[], rfl, rfl⟩, List.nodup_nil, by simp [UnitDraft.written, emptyDraft]⟩
  rcases startDraft_ok h with rfl | ⟨meshes, rfl⟩
  · exact hempty
  · unfold writeCulling
    split
    · exact hempty
    · generalize hbuild : Culling.buffer _ _ _ _ = built
      obtain ⟨buffer, reports⟩ := built
      refine ⟨⟨[], ?_, rfl⟩, List.nodup_nil, ?_⟩
      · unfold UnitDraft.written Culling.prologue Culling.commands
        cases ctx.default.usesLighting <;> rfl
      · intro c hc span hspan
        rw [UnitDraft.written, List.mem_append] at hc
        rcases hc with hc | hc
        · exact pos_of_mem_culling hc hspan
        · simp [emptyDraft] at hc

theorem loaded_draft (hsize : ctx.settings.vertexCacheSize ≤ maxVertexCacheSize) {name : String}
    {batches : List Batch} {nextBuffer : BufferId}
    (hfaces : ∀ batch ∈ batches, ctx.scene.batchFaces batch ≠ [])
    (h : ctx.draft name batches nextBuffer = (draft, none)) : Loaded draft := by
  obtain ⟨started, hstarted, hwrite⟩ := draft_ok h
  have hcarried := writeBatches_history (P := fun done draft =>
    Loaded draft ∧ ctx.Renders draft (done.flatMap ctx.scene.batchFaces)) [] ?_ hwrite
    ⟨loaded_startDraft hstarted, renders_startDraft hstarted⟩
  · exact hcarried.1
  · rintro done draft batch reached hbatch ⟨hloaded, hrenders⟩ hreached
    refine ⟨hloaded.writeBatch hsize hrenders (hfaces batch hbatch) hreached, ?_⟩
    rw [List.flatMap_append, List.flatMap_singleton]
    exact hrenders.writeBatch hsize hreached

/-- **The loads of a unit.**  None is empty; after the one of the bounding box they name the buffers
of the unit, in their order; and these are each of a kind of its own. -/
theorem loads_unit (hsize : ctx.settings.vertexCacheSize ≤ maxVertexCacheSize) {name : String}
    {batches : List Batch} {nextBuffer : BufferId}
    (hfaces : ∀ batch ∈ batches, ctx.scene.batchFaces batch ≠ []) {unit : CompiledUnit}
    (h : (ctx.compileUnit name batches nextBuffer).result = .ok unit) :
    (∀ c ∈ unit.displayList.commands, ∀ span, c.span? = some span → 0 < span.2.2) ∧
      (∃ loads, unit.displayList.commands.filterMap Command.loaded? =
          unit.cullingBuffer.toList.map (·.id) ++ loads ∧
        unit.vertexBuffers.map (·.id) = loads.eraseDups) ∧
      (unit.vertexBuffers.map fun buffer => (buffer.mesh, buffer.layout)).Nodup := by
  obtain ⟨draft, moves, hdraft, hlist, hbuffers, hculling, _, hmoves⟩ := compileUnit_ok h
  have hloaded := loaded_draft hsize hfaces hdraft
  have hclosing : ∀ c ∈ moves ++ MaterialState.transition draft.pipeline.registers ctx.default,
      c.span? = none := by
    intro c hc
    rcases List.mem_append.mp hc with hc | hc
    · exact Command.span?_of_not_usesSlots (Command.usesSlots_of_move (hmoves c hc))
    · exact Command.span?_of_not_usesSlots
        (Command.usesSlots_of_touches (MaterialState.mem_transition hc).1)
  rw [hlist, hbuffers, hculling]
  refine ⟨fun c hc span hspan => ?_, ?_, hloaded.kinds⟩
  · rcases List.mem_append.mp hc with hc | hc
    · exact hloaded.nonempty c hc span hspan
    · rw [hclosing c hc] at hspan
      simp at hspan
  · obtain ⟨loads, hloads, horder⟩ := hloaded.order
    have hnone : (moves ++ MaterialState.transition draft.pipeline.registers ctx.default).filterMap
        Command.loaded? = [] := by
      rw [List.filterMap_eq_nil_iff]
      intro c hc
      rw [Command.loaded?, hclosing c hc]
      rfl
    exact ⟨loads, by rw [List.filterMap_append, hloads, hnone, List.append_nil], horder⟩

/-- The buffers of a unit have the numbers that were free before it and are taken after it. -/
theorem ids_unit (hsize : ctx.settings.vertexCacheSize ≤ maxVertexCacheSize) {name : String}
    {batches : List Batch} {nextBuffer : BufferId} {unit : CompiledUnit}
    (h : (ctx.compileUnit name batches nextBuffer).result = .ok unit) :
    ∀ buffer ∈ unit.vertexBuffers ++ unit.cullingBuffer.toList, nextBuffer ≤ buffer.id ∧
      buffer.id < (ctx.compileUnit name batches nextBuffer).nextBuffer := by
  obtain ⟨draft, moves, hdraft, _, hbuffers, hculling, _⟩ := compileUnit_ok h
  have hgrows : (ctx.emptyDraft nextBuffer).Grows draft := by
    have hgrows : (ctx.emptyDraft nextBuffer).Grows (ctx.draft name batches nextBuffer).1 :=
      grows_draft name batches nextBuffer
    rw [hdraft] at hgrows
    exact hgrows
  intro buffer hbuffer
  rw [hbuffers, hculling] at hbuffer
  constructor
  · rcases hgrows.buffers buffer hbuffer with hnone | hnew
    · simp [UnitDraft.allBuffers, emptyDraft] at hnone
    · exact hnew
  · rw [compileUnit, hdraft]
    exact (renders_draft hsize hdraft).stocks.fresh buffer hbuffer

theorem le_nextBuffer_compileUnit (name : String) (batches : List Batch) (nextBuffer : BufferId) :
    nextBuffer ≤ (ctx.compileUnit name batches nextBuffer).nextBuffer := by
  have hgrows : (ctx.emptyDraft nextBuffer).Grows (ctx.draft name batches nextBuffer).1 :=
    grows_draft name batches nextBuffer
  exact hgrows.next

end ExportContext

end SceneCompiler
