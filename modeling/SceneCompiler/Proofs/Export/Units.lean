import SceneCompiler.Proofs.Export.Geometry

/-!
# The units of an export

Every unit of an export was compiled for one of the requests, from the batches of this request in
their order, against what all units have in common (`Scene.mem_units`). What holds of every unit
that is compiled from such batches then holds of every unit of an export.

A batch of a request draws a mesh in the material that the mesh has (`Scene.mem_orderedBatches`),
and the unit has one section for each of them (`Scene.exists_draftedFor`).
-/

namespace SceneCompiler

/-- The cache of settings that are not refused holds a triangle and is one that the hardware can
have. -/
theorem Settings.vertexCacheSize_of_accepted {settings : Settings} (h : settings.error? = none) :
    3 ≤ settings.vertexCacheSize ∧ settings.vertexCacheSize ≤ maxVertexCacheSize := by
  unfold Settings.error? at h
  split at h
  · simp at h
  · rename_i hsize
    simp only [Bool.or_eq_true, decide_eq_true_eq, not_or] at hsize
    omega

theorem ExportContext.mem_compileAll {ctx : ExportContext} {units : List OrderedUnit}
    {nextBuffer : BufferId} {unit : CompiledUnit}
    (h : unit ∈ (ctx.compileAll nextBuffer units).units) :
    ∃ ordered ∈ units, ∃ nextBuffer,
      (ctx.compileUnit ordered.name ordered.batches nextBuffer).result = .ok unit := by
  induction units generalizing nextBuffer with
  | nil => simp [compileAll] at h
  | cons first rest ih =>
    have hrest : ∀ {nextBuffer}, unit ∈ (ctx.compileAll nextBuffer rest).units →
        ∃ ordered ∈ first :: rest, ∃ nextBuffer,
          (ctx.compileUnit ordered.name ordered.batches nextBuffer).result = .ok unit := by
      intro nextBuffer hmem
      obtain ⟨ordered, hordered, hcompiled⟩ := ih hmem
      exact ⟨ordered, List.mem_cons_of_mem first hordered, hcompiled⟩
    unfold compileAll at h
    dsimp only at h
    split at h
    · rename_i compiled hcompiled
      rcases List.mem_cons.mp h with rfl | h
      · exact ⟨first, List.mem_cons_self, nextBuffer, hcompiled⟩
      · exact hrest h
    · exact hrest h

namespace Scene

variable {scene : Scene} {settings : Settings}

theorem mem_plan {requests : List UnitRequest} {ordered : OrderedUnit}
    (h : ordered ∈ (scene.plan settings requests).units) :
    ∃ request ∈ requests, (scene.extractBatches settings request.meshes).failure = none ∧
      ordered = ⟨request.name, scene.orderedBatches settings request⟩ := by
  induction requests with
  | nil => simp [plan] at h
  | cons request rest ih =>
    have hrest : ordered ∈ (scene.plan settings rest).units → ∃ other ∈ request :: rest,
        (scene.extractBatches settings other.meshes).failure = none ∧
          ordered = ⟨other.name, scene.orderedBatches settings other⟩ := by
      intro hmem
      obtain ⟨other, hother, hplanned⟩ := ih hmem
      exact ⟨other, List.mem_cons_of_mem request hother, hplanned⟩
    unfold plan at h
    dsimp only at h
    split at h
    · exact hrest h
    · rename_i hknown
      rcases List.mem_cons.mp h with rfl | h
      · exact ⟨request, List.mem_cons_self, hknown, rfl⟩
      · exact hrest h

/-- What the units of an export have in common. -/
def contextFor (scene : Scene) (settings : Settings) (requests : List UnitRequest) :
    ExportContext :=
  scene.exportContext settings (.ofUnits ((scene.plan settings requests).units.map (·.batches)))

/-- **Every unit of an export answers a request.** -/
theorem mem_units {requests : List UnitRequest} {e : Export}
    (h : scene.compileUnits settings requests = .ok e) {unit : CompiledUnit}
    (hunit : unit ∈ e.units) :
    settings.error? = none ∧ ∃ request ∈ requests, ∃ nextBuffer,
      (scene.extractBatches settings request.meshes).failure = none ∧
        ((scene.contextFor settings requests).compileUnit request.name
          (scene.orderedBatches settings request) nextBuffer).result = .ok unit := by
  unfold compileUnits at h
  split at h
  · simp at h
  · rename_i haccepted
    obtain rfl := Except.ok.inj h
    obtain ⟨ordered, hordered, nextBuffer, hcompiled⟩ := ExportContext.mem_compileAll hunit
    obtain ⟨request, hrequest, hknown, rfl⟩ := mem_plan hordered
    exact ⟨haccepted, request, hrequest, nextBuffer, hknown, hcompiled⟩

theorem mem_batchesOf_of_extracted {ids : List MeshId} {batch : Batch}
    (h : batch ∈ (scene.extractBatches settings ids).batches) :
    ∃ id mesh, scene.mesh id = .ok mesh ∧ batch ∈ scene.batchesOf settings id mesh := by
  induction ids with
  | nil => simp [extractBatches] at h
  | cons id rest ih =>
    unfold extractBatches at h
    split at h
    · simp at h
    · rename_i mesh hmesh
      rcases List.mem_append.mp h with h | h
      · exact ⟨id, mesh, hmesh, h⟩
      · exact ih h

theorem mem_extractBatches {ids : List MeshId} {batch : Batch}
    (h : batch ∈ (scene.extractBatches settings ids).batches) :
    ∃ id mesh, batch.mesh = some id ∧ scene.mesh id = .ok mesh ∧
      batch.material = scene.materialOf settings mesh := by
  obtain ⟨id, mesh, hmesh, hbatch⟩ := mem_batchesOf_of_extracted h
  obtain ⟨pair, _, rfl⟩ := List.mem_map.mp hbatch
  exact ⟨id, mesh, rfl, hmesh, rfl⟩

/-- Every batch of a request draws a mesh, in the material that the mesh has. -/
theorem mem_orderedBatches {request : UnitRequest} {batch : Batch}
    (h : batch ∈ scene.orderedBatches settings request) :
    ∃ id mesh, batch.mesh = some id ∧ scene.mesh id = .ok mesh ∧
      batch.material = scene.materialOf settings mesh :=
  mem_extractBatches ((scene.orderBatches_perm _ _ _ _).mem_iff.mp h)

/-- A draft that a unit of an export was made from, for one of the requests. It has a section for
each batch of the request, in their order. -/
structure DraftedFor (scene : Scene) (settings : Settings) (requests : List UnitRequest)
    (unit : CompiledUnit) (request : UnitRequest) (nextBuffer : BufferId) (draft : UnitDraft) :
    Prop where
  requested : request ∈ requests
  compiled : ((scene.contextFor settings requests).compileUnit request.name
    (scene.orderedBatches settings request) nextBuffer).result = .ok unit
  drafted : (scene.contextFor settings requests).draft request.name
    (scene.orderedBatches settings request) nextBuffer = (draft, none)
  written : draft.written <+: unit.displayList.commands
  buffers : unit.vertexBuffers = draft.buffers
  batches : draft.sections.map (·.batch) = scene.orderedBatches settings request

theorem exists_draftedFor {requests : List UnitRequest} {e : Export}
    (h : scene.compileUnits settings requests = .ok e) {unit : CompiledUnit}
    (hunit : unit ∈ e.units) :
    ∃ request nextBuffer draft,
      scene.DraftedFor settings requests unit request nextBuffer draft := by
  obtain ⟨_, request, hrequest, nextBuffer, _, hcompiled⟩ := mem_units h hunit
  obtain ⟨draft, moves, hdraft, hlist, hbuffers, _⟩ := ExportContext.compileUnit_ok hcompiled
  refine ⟨request, nextBuffer, draft, hrequest, hcompiled, hdraft, ?_, hbuffers, ?_⟩
  · rw [hlist]
    exact List.prefix_append _ _
  · rw [ExportContext.batches_sections hdraft, List.filter_eq_self]
    intro batch hbatch
    obtain ⟨id, _, hid, _⟩ := mem_orderedBatches hbatch
    rw [hid]
    rfl

/-- A unit of an export can be found by a test that is evaluated. -/
theorem exists_unit_of_any (scene : Scene) (settings : Settings) (requests : List UnitRequest)
    (test : CompiledUnit → Bool)
    (h : ((scene.compileUnits settings requests).toOption.any (·.units.any test)) = true) :
    ∃ e unit, scene.compileUnits settings requests = .ok e ∧ unit ∈ e.units ∧ test unit = true := by
  cases hexport : scene.compileUnits settings requests with
  | error refusal => simp [hexport, Except.toOption] at h
  | ok e =>
    rw [hexport] at h
    obtain ⟨unit, hunit, htest⟩ := List.any_eq_true.mp h
    exact ⟨e, unit, rfl, hunit, htest⟩

end Scene

end SceneCompiler
