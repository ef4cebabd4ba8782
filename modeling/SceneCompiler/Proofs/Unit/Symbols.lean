import SceneCompiler.Proofs.Unit.Buffers

/-!
# The symbols of a unit

The symbol of a buffer tells the name of the mesh and the layout (`VertexBuffer.symbol_inj`), and it
ends in another way than the symbols of shared lists (`SharedMaterials.getLast?_name`). In a unit no
two buffers of meshes are of one kind, the buffer of the bounding box is named after the unit, and
every call names a shared list (`ExportContext.named_unit`).
-/

namespace SceneCompiler

/-! ### Buffers and lists -/

namespace VertexBuffer

/-- The symbol of the buffer for a mesh of some name in one layout. -/
def symbol (mesh : String) (layout : VertexLayout) : String :=
  mesh ++ "_" ++ layoutSuffix layout ++ "_vtx"

theorem toList_symbol (mesh : String) (layout : VertexLayout) :
    (symbol mesh layout).toList =
      mesh.toList ++ ('_' :: (layoutSuffix layout).toList ++ ['_', 'v', 't', 'x']) := by
  simp [symbol, String.toList_append]

theorem symbol_inj {mesh other : String} {layout otherLayout : VertexLayout} :
    symbol mesh layout = symbol other otherLayout ↔ mesh = other ∧ layout = otherLayout := by
  constructor
  · intro h
    have hlist := congrArg String.toList h
    rw [toList_symbol, toList_symbol] at hlist
    -- the last character of the layout is the fifth from the end
    have hlayout : layout = otherLayout := by
      have hfifth := congrArg (fun chars => chars.reverse[4]?) hlist
      cases layout <;> cases otherLayout <;> simp [layoutSuffix] at hfifth ⊢
    subst hlayout
    exact ⟨String.toList_injective (List.append_cancel_right hlist), rfl⟩
  · rintro ⟨rfl, rfl⟩
    rfl

theorem getLast?_symbol (mesh : String) (layout : VertexLayout) :
    (symbol mesh layout).toList.getLast? = some 'x' := by
  rw [toList_symbol, ← List.append_assoc, List.getLast?_append]
  rfl

/-- The name of the mesh that a buffer was made for. -/
def meshName? (scene : Scene) (buffer : VertexBuffer) : Option String :=
  buffer.mesh.bind fun id => scene.meshes[id]?.map (·.name)

theorem meshName?_of_mesh {scene : Scene} {buffer : VertexBuffer} {id : MeshId}
    {mesh : SkinnedMesh} (hid : buffer.mesh = some id) (hmesh : scene.mesh id = .ok mesh) :
    buffer.meshName? scene = some mesh.name := by
  unfold Scene.mesh at hmesh
  split at hmesh
  · rename_i found hfound
    obtain rfl := Except.ok.inj hmesh
    simp [meshName?, hid, hfound]
  · simp at hmesh

end VertexBuffer

namespace SharedMaterials

theorem freeName_cases (shared : SharedMaterials) (wanted : String) :
    shared.freeName wanted = wanted ∨ ∃ n, shared.freeName wanted = numbered wanted n := by
  unfold freeName
  split
  · dsimp only
    cases hfound : ((List.range' 1 (shared.entries.length + 1)).map (numbered wanted)).find?
        (!shared.isTaken ·) with
    | none => exact Or.inl rfl
    | some name =>
      obtain ⟨n, _, rfl⟩ := List.mem_map.mp (List.mem_of_find?_eq_some hfound)
      exact Or.inr ⟨n, rfl⟩
  · exact Or.inl rfl

theorem toList_numbered (name : String) (n : Nat) :
    (numbered name n).toList = name.toList ++ '_' :: Nat.toDigits 10 n := by
  have htext : numbered name n = name ++ "_" ++ Nat.repr n := rfl
  rw [htext, String.toList_append, String.toList_append, Nat.toList_repr, List.append_assoc]
  rfl

/-- What is chosen for a shared list ends in a letter of the word that is added, or in a digit. -/
theorem getLast?_freeName (shared : SharedMaterials) (name : String) :
    (shared.freeName (name ++ "_material")).toList.getLast? ≠ some 'x' := by
  rcases shared.freeName_cases (name ++ "_material") with heq | ⟨n, heq⟩
  · rw [heq]
    simp [String.toList_append, List.getLast?_append]
  · rw [heq, toList_numbered, List.append_cons, List.getLast?_append_of_ne_nil _ Nat.toDigits_ne_nil]
    intro hlast
    have hdigit :=
      Nat.isDigit_of_mem_toDigits (by decide) (by decide) (List.mem_of_getLast? hlast)
    simp at hdigit

theorem getLast?_name {uses : MaterialUses} {library : MaterialLibrary} {default : MaterialState}
    {list : DisplayList} (h : list ∈ (build uses library default).lists) :
    list.name.toList.getLast? ≠ some 'x' := by
  obtain ⟨shared, material, hname⟩ := exists_freeName_of_mem h
  rw [hname]
  exact getLast?_freeName shared _

end SharedMaterials

/-- A unit whose buffers are named after their meshes and layouts, each of a kind of its own, and
the unit itself, and which calls some lists. -/
structure CompiledUnit.Named (scene : Scene) (lists : List String) (unit : CompiledUnit) : Prop where
  buffers : ∀ buffer ∈ unit.vertexBuffers, ∃ mesh, buffer.meshName? scene = some mesh ∧
    buffer.name = VertexBuffer.symbol mesh buffer.layout
  kinds : (unit.vertexBuffers.map fun buffer => (buffer.mesh, buffer.layout)).Nodup
  culling : ∀ buffer ∈ unit.cullingBuffer,
    buffer.name = VertexBuffer.symbol (unit.displayList.name ++ "_cull") .normal
  calls : ∀ list, .callList list ∈ unit.displayList.commands → list ∈ lists

/-! ### Drafts -/

namespace ExportContext

variable {ctx : ExportContext} {draft reached provided : UnitDraft} {name list : String}

theorem callList_not_mem_transition {current target : MaterialState} :
    .callList list ∉ MaterialState.transition current target := by
  intro h
  have hcall := (MaterialState.mem_transition h).2
  simp [Command.isCall] at hcall

/-- **A switch to a material calls a shared list or none.** -/
theorem mem_lists_of_switch {registers : MaterialState} {batch : Batch}
    (h : .callList list ∈ (ctx.switchMaterial registers batch).1) :
    list ∈ ctx.shared.lists.map (·.name) := by
  have hmaterial : ∀ {key material}, .callList list ∈ ctx.materialCommands registers key material →
      list ∈ ctx.shared.lists.map (·.name) := by
    intro key material hcall
    unfold materialCommands at hcall
    split at hcall
    · rename_i found hfound
      rcases List.mem_append.mp hcall with hcall | hcall
      · exact absurd hcall callList_not_mem_transition
      · obtain rfl := Command.callList.inj (List.mem_singleton.mp hcall)
        obtain ⟨entry, hlookup, hname⟩ := Option.map_eq_some_iff.mp hfound
        obtain ⟨before, after, heq, _⟩ := List.lookup_eq_some_iff.mp hlookup
        refine List.mem_map.mpr ⟨entry, ?_, hname⟩
        simp [SharedMaterials.lists, heq]
    · exact absurd hcall callList_not_mem_transition
  unfold switchMaterial at h
  split at h
  · simp at h
  · split at h
    · simp at h
    · split at h
      · simp at h
      · simp only [List.mem_append, List.mem_singleton, reduceCtorEq, false_or, or_false] at h
        exact hmaterial h

/-- A draft of a unit with buffers of kinds of their own, a buffer named after the unit, and calls of
shared lists. -/
structure Named (ctx : ExportContext) (name : String) (draft : UnitDraft) : Prop where
  kinds : (draft.buffers.map fun buffer => (buffer.mesh, buffer.layout)).Nodup
  culling : ∀ buffer ∈ draft.culling, buffer.name = VertexBuffer.symbol (name ++ "_cull") .normal
  calls : ∀ list, .callList list ∈ draft.written → list ∈ ctx.shared.lists.map (·.name)

theorem nodup_kinds_provideBuffer {id : MeshId} {mesh : SkinnedMesh} {number : BufferId}
    (hprovided : ctx.provideBuffer draft id mesh = (provided, number))
    (h : (draft.buffers.map fun buffer => (buffer.mesh, buffer.layout)).Nodup) :
    (provided.buffers.map fun buffer => (buffer.mesh, buffer.layout)).Nodup := by
  rcases provideBuffer_cases hprovided with ⟨rfl, _⟩ | ⟨buffer, _, _, hbuffers, _, _, hkind⟩
  · exact h
  · rw [hbuffers, List.map_append, List.map_singleton, ← List.concat_eq_append]
    refine h.concat fun hmem => ?_
    obtain ⟨other, hother, hsame⟩ := List.mem_map.mp hmem
    exact hkind other hother hsame

theorem Named.writeBatch (h : ctx.Named name draft) {batch : Batch}
    (hwrite : ctx.writeBatch draft batch = (reached, none)) : ctx.Named name reached := by
  rcases writeBatch_ok hwrite with ⟨_, rfl⟩ | ⟨id, mesh, provided, number, _, _, hprovided, drawn,
    rfl, hfailure, hreached⟩
  · exact h
  · obtain ⟨_, hprologue, hsections, hculling⟩ := provideBuffer_frame hprovided
    have hkinds : (provided.buffers.map fun buffer => (buffer.mesh, buffer.layout)).Nodup :=
      nodup_kinds_provideBuffer hprovided h.kinds
    have hwritten : reached.written = draft.written ++
        Section.commands ⟨batch, (ctx.switchMaterial draft.pipeline.registers batch).1, _⟩ :=
      UnitDraft.written_append (by rw [hreached]; exact hprologue)
        (by rw [hreached, hsections]; rfl)
    constructor
    · rw [hreached]
      exact hkinds
    · rw [hreached, hculling]
      exact h.culling
    · intro list hcall
      rw [hwritten] at hcall
      rcases List.mem_append.mp hcall with hbefore | hsection
      · exact h.calls list hbefore
      · rcases List.mem_append.mp hsection with hswitch | hdrawing
        · exact mem_lists_of_switch hswitch
        · have hinert := (Canvas.follows_drawBatch hfailure).inert _ hdrawing
          simp [Command.touchesRegisters] at hinert

theorem named_startDraft {batches : List Batch} {nextBuffer : BufferId}
    (h : ctx.startDraft name batches nextBuffer = (draft, none)) : ctx.Named name draft := by
  have hempty : ctx.Named name (ctx.emptyDraft nextBuffer) :=
    ⟨List.nodup_nil, by simp [emptyDraft], by simp [UnitDraft.written, emptyDraft]⟩
  rcases startDraft_ok h with rfl | ⟨meshes, rfl⟩
  · exact hempty
  · unfold writeCulling
    split
    · exact hempty
    · refine ⟨List.nodup_nil, fun buffer hbuffer => ?_, fun list hcall => ?_⟩
      · obtain rfl := Option.some.inj hbuffer
        rfl
      · rw [UnitDraft.written, List.mem_append] at hcall
        rcases hcall with hcall | hcall
        · have hnot := (mem_culling hcall).2.2.1
          simp [Command.isCall] at hnot
        · simp [emptyDraft] at hcall

theorem named_draft {batches : List Batch} {nextBuffer : BufferId}
    (h : ctx.draft name batches nextBuffer = (draft, none)) : ctx.Named name draft := by
  obtain ⟨started, hstarted, hwrite⟩ := draft_ok h
  exact writeBatches_induction (fun _ _ _ _ hnamed hstep => hnamed.writeBatch hstep) hwrite
    (named_startDraft hstarted)

/-- **The symbols of a unit**: its own name and those of its buffers and calls. -/
theorem named_unit (hsize : ctx.settings.vertexCacheSize ≤ maxVertexCacheSize)
    {batches : List Batch} {nextBuffer : BufferId} {unit : CompiledUnit}
    (h : (ctx.compileUnit name batches nextBuffer).result = .ok unit) :
    unit.displayList.name = name ∧
      unit.Named ctx.scene (ctx.shared.lists.map (·.name)) := by
  obtain ⟨draft, moves, hdraft, hlist, hbuffers, hculling, hfollows, _⟩ := compileUnit_ok h
  have hnamed := named_draft hdraft
  have hmade := (renders_draft hsize hdraft).stocks.made
  refine ⟨by rw [hlist], ?_, ?_, ?_, ?_⟩
  · intro buffer hbuffer
    rw [hbuffers] at hbuffer
    obtain ⟨id, mesh, ⟨layout, textureSize, hbuild⟩, hmesh⟩ := hmade buffer hbuffer
    refine ⟨mesh.name, ?_, ?_⟩
    · rw [hbuild]
      exact VertexBuffer.meshName?_of_mesh rfl hmesh
    · rw [hbuild]
      rfl
  · rw [hbuffers]
    exact hnamed.kinds
  · rw [hculling, hlist]
    exact hnamed.culling
  · intro list hcall
    rw [hlist] at hcall
    rcases List.mem_append.mp hcall with hcall | hcall
    · exact hnamed.calls list hcall
    · rcases List.mem_append.mp hcall with hcall | hcall
      · have hinert := hfollows.inert _ hcall
        simp [Command.touchesRegisters] at hinert
      · exact absurd hcall callList_not_mem_transition

end ExportContext

end SceneCompiler
