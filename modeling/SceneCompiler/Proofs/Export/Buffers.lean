import SceneCompiler.Proofs.Export.Units
import SceneCompiler.Proofs.Unit.Buffers

/-!
# The buffers of an export

References to buffers are exact (`Scene.buffers_compileUnits`): no two buffers of an export have one
number, every load stays within a buffer of its own unit, and the buffers of a unit are those that
its loads name, in the order of the first loads.
-/

namespace SceneCompiler

/-- The buffers of a unit, the one of its bounding box last. -/
def CompiledUnit.buffers (unit : CompiledUnit) : List VertexBuffer :=
  unit.vertexBuffers ++ unit.cullingBuffer.toList

/-- A unit whose references to buffers are exact: every load stays within a buffer of the unit; after
the load of the bounding box, if there is one, the loads name exactly the other buffers, which stand
in the order of their first loads; and no two of these are of one mesh in one layout. -/
structure CompiledUnit.RefersExactly (unit : CompiledUnit) : Prop where
  within : ∀ buffer offset count slot,
    Command.loadVertices buffer offset count slot ∈ unit.displayList.commands →
      ∃ source ∈ unit.buffers, source.id = buffer ∧ offset + count ≤ source.vertices.length
  order : ∃ loads, unit.displayList.commands.filterMap Command.loaded? =
      unit.cullingBuffer.toList.map (·.id) ++ loads ∧
    unit.vertexBuffers.map (·.id) = loads.eraseDups
  kinds : (unit.vertexBuffers.map fun buffer => (buffer.mesh, buffer.layout)).Nodup

/-- **Units number their buffers one after another**, and a unit that fails takes its numbers with
it. -/
theorem ExportContext.ids_compileAll {ctx : ExportContext}
    (hsize : ctx.settings.vertexCacheSize ≤ maxVertexCacheSize) (units : List OrderedUnit)
    (nextBuffer : BufferId) :
    (((ctx.compileAll nextBuffer units).units.flatMap CompiledUnit.buffers).map (·.id)).Nodup ∧
      ∀ buffer ∈ (ctx.compileAll nextBuffer units).units.flatMap CompiledUnit.buffers,
        nextBuffer ≤ buffer.id := by
  induction units generalizing nextBuffer with
  | nil => exact ⟨List.nodup_nil, by simp [compileAll]⟩
  | cons first rest ih =>
    have hnext := ctx.le_nextBuffer_compileUnit first.name first.batches nextBuffer
    obtain ⟨hrest, hlater⟩ := ih (ctx.compileUnit first.name first.batches nextBuffer).nextBuffer
    unfold compileAll
    dsimp only
    split
    · rename_i unit hunit
      obtain ⟨hnumbered, _⟩ := renders_unit hsize hunit
      have hids := ids_unit hsize hunit
      rw [List.flatMap_cons, List.map_append, List.nodup_append]
      refine ⟨⟨hnumbered, hrest, fun id hid other hother hsame => ?_⟩, fun buffer hbuffer => ?_⟩
      · obtain ⟨buffer, hbuffer, rfl⟩ := List.mem_map.mp hid
        obtain ⟨later, hlaterIn, rfl⟩ := List.mem_map.mp hother
        have hlt := (hids buffer hbuffer).2
        exact absurd hsame (Nat.ne_of_lt (Nat.lt_of_lt_of_le hlt (hlater later hlaterIn)))
      · rcases List.mem_append.mp hbuffer with hbuffer | hbuffer
        · exact (hids buffer hbuffer).1
        · exact Nat.le_trans hnext (hlater buffer hbuffer)
    · exact ⟨hrest, fun buffer hbuffer => Nat.le_trans hnext (hlater buffer hbuffer)⟩

/-- A load that a unit may do, if it is not empty, ends within a buffer of the unit. -/
theorem CompiledUnit.Fetches.exists_buffer {unit : CompiledUnit} {scene : Scene}
    {settings : Settings} {load : VertexLoad} (h : unit.Fetches scene settings load)
    (hsome : 0 < load.count) :
    ∃ buffer ∈ unit.buffers, buffer.id = load.buffer ∧
      load.offset + load.count ≤ buffer.vertices.length := by
  obtain ⟨buffer, hfound, hwithin, _⟩ := h
  have hlast := hwithin (load.count - 1) (by omega)
  exact ⟨buffer, List.mem_of_find?_eq_some hfound, by simpa using List.find?_some hfound, by omega⟩

namespace Scene

variable {scene : Scene} {settings : Settings}

/-- **Every batch of a request has a face.** -/
theorem batchFaces_ne_nil (hmade : ∀ mesh ∈ scene.meshes, mesh.IsMade scene.skeleton)
    {request : UnitRequest} {batch : Batch} (h : batch ∈ scene.orderedBatches settings request) :
    scene.batchFaces batch ≠ [] := by
  obtain ⟨id, mesh, hmesh, hbatch⟩ :=
    mem_batchesOf_of_extracted ((scene.orderBatches_perm _ _ _ _).mem_iff.mp h)
  obtain ⟨pair, hpair, rfl⟩ := List.mem_map.mp hbatch
  have hmeshMade := hmade mesh (mem_meshes hmesh)
  obtain ⟨i, hi⟩ := List.exists_mem_of_ne_nil _ (hmeshMade.facesForPair_ne_nil hpair)
  have hrange : i ∈ List.range mesh.surface.faces.length :=
    hmeshMade.drawnPairs_perm.mem_iff.mp (List.mem_flatMap_of_mem hpair hi)
  obtain ⟨face, hface⟩ : ∃ face, mesh.surface.faces[i]? = some face :=
    ⟨_, List.getElem?_eq_getElem (List.mem_range.mp hrange)⟩
  have hdrawn : face ∈ mesh.pairFaces pair := List.mem_filterMap.mpr ⟨i, hi, hface⟩
  simp only [batchFaces, hmesh]
  exact List.ne_nil_of_mem (List.mem_map_of_mem hdrawn)

/-- **References to buffers are exact.**  The buffers of an export all have different numbers, and in
each unit the loads and the buffers belong to each other. -/
theorem buffers_compileUnits (hmeshes : ∀ mesh ∈ scene.meshes, mesh.WellFormed scene.skeleton)
    {requests : List UnitRequest} {e : Export}
    (h : scene.compileUnits settings requests = .ok e) :
    ((e.units.flatMap CompiledUnit.buffers).map (·.id)).Nodup ∧
      ∀ unit ∈ e.units, unit.RefersExactly := by
  constructor
  · unfold compileUnits at h
    split at h
    · simp at h
    · rename_i haccepted
      have hsize := (Settings.vertexCacheSize_of_accepted haccepted).2
      obtain rfl := Except.ok.inj h
      exact (ExportContext.ids_compileAll hsize _ 0).1
  · intro unit hunit
    obtain ⟨haccepted, request, _, nextBuffer, hknown, hcompiled⟩ := mem_units h hunit
    have hsize := (Settings.vertexCacheSize_of_accepted haccepted).2
    have hfaces : ∀ batch ∈ scene.orderedBatches settings request,
        (scene.contextFor settings requests).scene.batchFaces batch ≠ [] := by
      intro batch hbatch
      have hprepared : (scene.prepared settings).batchFaces batch = scene.batchFaces batch :=
        batchFaces_prepared batch
      exact hprepared ▸ batchFaces_ne_nil (fun mesh hmesh => (hmeshes mesh hmesh).made) hbatch
    obtain ⟨hpositive, horder, hkinds⟩ := ExportContext.loads_unit hsize hfaces hcompiled
    refine ⟨?_, horder, hkinds⟩
    intro buffer offset count slot hload
    obtain ⟨proc, hrun, _, hfetches⟩ :=
      (CompiledUnit.renders_of_compileUnit hmeshes hsize hknown hcompiled).run
    have hspan : (buffer, offset, count) ∈
        unit.displayList.commands.filterMap Command.span? :=
      List.mem_filterMap.mpr ⟨_, hload, rfl⟩
    have hloads := Processor.loads_run? hrun
    rw [List.map_nil, List.nil_append] at hloads
    rw [← hloads] at hspan
    obtain ⟨load, hmem, hsame⟩ := List.mem_map.mp hspan
    obtain ⟨rfl, hrest⟩ := Prod.mk.inj hsame
    obtain ⟨rfl, rfl⟩ := Prod.mk.inj hrest
    exact (hfetches load hmem).exists_buffer (hpositive _ hload _ rfl)

theorem buffers_compileUnits_of_arm :
    (∀ mesh ∈ Arm.scene.meshes, mesh.WellFormed Arm.scene.skeleton) ∧
      ∃ e, Arm.scene.compileUnits Arm.settings Arm.requests = .ok e ∧
        (e.units.flatMap CompiledUnit.buffers).map (·.id) = [1, 0, 3, 2] ∧
        ((e.units.flatMap CompiledUnit.buffers).map (·.id)).Nodup ∧
        ∀ unit ∈ e.units, unit.RefersExactly := by
  refine ⟨Arm.wellFormed, ?_⟩
  have hids : (Arm.scene.compileUnits Arm.settings Arm.requests).toOption.map
      (fun e => (e.units.flatMap CompiledUnit.buffers).map (·.id)) = some [1, 0, 3, 2] := by
    decide +kernel
  cases hexport : Arm.scene.compileUnits Arm.settings Arm.requests with
  | error refusal =>
    rw [hexport] at hids
    simp [Except.toOption] at hids
  | ok e =>
    rw [hexport] at hids
    exact ⟨e, rfl, Option.some.inj hids, buffers_compileUnits Arm.wellFormed hexport⟩

end Scene

end SceneCompiler
