import SceneCompiler.Proofs.Drawing.Slots
import SceneCompiler.Proofs.Unit.Sections

/-!
# The test at the start of a unit

A unit is the test of its bounding box, if it has one, and then commands that stay within the vertex
cache and do not end the list (`ExportContext.exists_confined`). So all that a unit asks of the
cache beyond its capacity, and the only place where it can end early, is in the test.

The test itself loads the corners of the box into eight slots, however many there are. At its
command that can end the list lighting is off, and the command that brings it back comes later, so a
list that ends there is at rest only if the rest state does not ask for lighting
(`Culling.satisfies_at_test`).
-/

namespace SceneCompiler

namespace Culling

/-- Up to the command that can end the list, the test turns lighting off and loads the corners. -/
theorem split_commands {default : MaterialState} {buffer : BufferId} {before after : List Command}
    {c : Command} (h : commands default buffer = before ++ c :: after) (hc : c.canEnd = true) :
    before = [.setGeometryMode GeometryMode.lighting.bit 0, .loadVertices buffer 0 cornerCount 0] ∧
      c = .cullList cornerCount := by
  unfold commands at h
  rcases before with _ | ⟨first, _ | ⟨second, _ | ⟨third, before⟩⟩⟩ <;>
    simp only [List.cons_append, List.nil_append, List.cons.injEq] at h
  · obtain ⟨rfl, _⟩ := h
    simp [Command.canEnd] at hc
  · obtain ⟨_, rfl, _⟩ := h
    simp [Command.canEnd] at hc
  · obtain ⟨rfl, rfl, rfl, _⟩ := h
    exact ⟨rfl, rfl⟩
  · obtain ⟨_, _, _, htail⟩ := h
    have hmem : c ∈ before ++ c :: after := List.mem_append_right before List.mem_cons_self
    rw [← htail] at hmem
    split at hmem
    · obtain rfl := List.mem_singleton.mp hmem
      simp [Command.canEnd] at hc
    · simp at hmem

/-- What is out of place when the list ends at the test is lighting. -/
theorem satisfies_at_test {start default : MaterialState} (h : start.satisfies default = true) :
    MaterialState.satisfies
        { start with geometry := start.geometry.write GeometryMode.lighting.bit 0 } default = true ↔
      default.usesLighting = false := by
  obtain ⟨htiles, hregisters, hgeometry⟩ := (MaterialState.satisfies_iff _ _).mp h
  have hlit : default.usesLighting = true ↔
      default.geometry.position? GeometryMode.lighting.place = some true := by
    rw [MaterialState.usesLighting, GeometryRegister.lit, GeometryRegister.get?_bit,
      decide_eq_true_iff]
  have hposition : ∀ i, (start.geometry.write GeometryMode.lighting.bit 0).position? i =
      if i = GeometryMode.lighting.place then some false else start.geometry.position? i := by
    intro i
    rw [GeometryRegister.position?_write, GeometryMode.getLsbD_bit]
    simp
  rw [MaterialState.satisfies_iff, ← Bool.not_eq_true, hlit]
  constructor
  · rintro ⟨_, _, hafter⟩ hon
    have hoff := hafter _ _ hon
    rw [hposition, if_pos rfl] at hoff
    simp at hoff
  · intro hnot
    refine ⟨htiles, hregisters, fun i b hb => ?_⟩
    rw [hposition]
    split
    · rename_i hplace
      cases b with
      | true => exact absurd (hplace ▸ hb) hnot
      | false => rfl
    · exact hgeometry i b hb

end Culling

/-! ### Units -/

namespace ExportContext

variable {ctx : ExportContext} {draft reached : UnitDraft}

/-- A draft that starts with the test of its bounding box, if it has one, and whose sections stay
within the vertex cache. -/
structure Guarded (ctx : ExportContext) (draft : UnitDraft) : Prop where
  prologue : draft.prologue =
    draft.culling.toList.flatMap fun buffer => Culling.commands ctx.default buffer.id
  capacity : draft.pipeline.cache.capacity = ctx.settings.vertexCacheSize
  sections : ∀ s ∈ draft.sections, ∀ c ∈ s.commands, c.IsConfined ctx.settings.vertexCacheSize

theorem Guarded.writeBatch (hsize : 0 < ctx.settings.vertexCacheSize) (h : ctx.Guarded draft)
    {batch : Batch} (hwrite : ctx.writeBatch draft batch = (reached, none)) :
    ctx.Guarded reached := by
  rcases writeBatch_ok hwrite with ⟨_, rfl⟩ | ⟨id, mesh, provided, buffer, _, _, hprovided, drawn,
    hdrawn, hfailure, rfl⟩
  · exact h
  · obtain ⟨hpipeline, hprologue, hsections, hculling⟩ := provideBuffer_frame hprovided
    have hcapacity : provided.pipeline.cache.capacity = ctx.settings.vertexCacheSize := by
      rw [hpipeline]
      exact h.capacity
    subst hdrawn
    have hstays := Canvas.stays_drawBatch (hcapacity ▸ hsize) hfailure
    constructor
    · rw [hprologue, hculling]
      exact h.prologue
    · exact hstays.capacity.trans hcapacity
    · intro s hs c hc
      rw [hsections] at hs
      rcases List.mem_append.mp hs with hs | hs
      · exact h.sections s hs c hc
      · obtain rfl := List.mem_singleton.mp hs
        rcases List.mem_append.mp hc with hc | hc
        · rcases touches_of_mem_switch hc with htouches | hcomment
          · exact Command.isConfined_of_touches htouches
          · exact Command.isConfined_of_move (Or.inr hcomment)
        · rw [← hcapacity]
          exact hstays.confined c hc

theorem guarded_startDraft {name : String} {batches : List Batch} {nextBuffer : BufferId}
    (h : ctx.startDraft name batches nextBuffer = (draft, none)) : ctx.Guarded draft := by
  have hempty : ctx.Guarded (ctx.emptyDraft nextBuffer) :=
    ⟨rfl, VertexCache.capacity_empty _, by simp [emptyDraft]⟩
  rcases startDraft_ok h with rfl | ⟨meshes, rfl⟩
  · exact hempty
  · unfold writeCulling
    split
    · exact hempty
    · refine ⟨?_, (VertexCache.capacity_invalidate _ _).trans (VertexCache.capacity_empty _),
        by simp [emptyDraft]⟩
      exact (List.flatMap_singleton _ _).symm

/-- **A unit is the test of its bounding box, and then commands that stay within the cache.** -/
theorem exists_confined (hsize : 0 < ctx.settings.vertexCacheSize) {name : String}
    {batches : List Batch} {nextBuffer : BufferId} {unit : CompiledUnit}
    (h : (ctx.compileUnit name batches nextBuffer).result = .ok unit) :
    ∃ rest, unit.displayList.commands =
        (unit.cullingBuffer.toList.flatMap fun buffer => Culling.commands ctx.default buffer.id) ++
          rest ∧
      ∀ c ∈ rest, c.IsConfined ctx.settings.vertexCacheSize := by
  obtain ⟨draft, moves, hdraft, hlist, _, hculling, hfollows, hmoves⟩ := compileUnit_ok h
  obtain ⟨started, hstarted, hwrite⟩ := draft_ok hdraft
  have hguarded := writeBatches_induction
    (fun _ _ _ _ hguarded hstep => hguarded.writeBatch hsize hstep) hwrite
    (guarded_startDraft hstarted)
  refine ⟨draft.sections.flatMap Section.commands ++
    (moves ++ MaterialState.transition draft.pipeline.registers ctx.default), ?_, ?_⟩
  · rw [hlist, hculling, ← hguarded.prologue, UnitDraft.written, List.append_assoc]
  · intro c hc
    simp only [List.mem_append, List.mem_flatMap] at hc
    rcases hc with ⟨s, hs, hc⟩ | hc | hc
    · exact hguarded.sections s hs c hc
    · exact Command.isConfined_of_move (hmoves c hc)
    · exact Command.isConfined_of_touches (MaterialState.mem_transition hc).1

end ExportContext

end SceneCompiler
