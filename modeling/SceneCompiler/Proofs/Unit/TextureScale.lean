import SceneCompiler.Proofs.Unit.Geometry
import SceneCompiler.Proofs.Unit.Palettes

/-!
# The scale of texture coordinates

Texture coordinates are stored in texels, so a buffer is made for the size of one texture. It is
read from the registers that are known when the mesh is first drawn in its layout
(`ExportContext.firstUse?`): they hold the tiles of the mesh's material, but also tiles of materials
from before, and one of those may come first. The buffer is used again by all later batches of the
mesh with this layout.

Which buffer each batch is drawn from, and for which texture it was made, is carried through a unit
(`ExportContext.scaled_draft`). The size is that of the material if no tile that is known to have a
texture comes before those of the material (`MaterialState.TexturesFirst.textureSize?`).
-/

namespace SceneCompiler

/-! ### The first tile with a texture -/

theorem Tiles.firstTextured?_eq_some_iff (tiles : Tiles) (tile : Tile) :
    tiles.firstTextured? = some tile ↔ ∃ i, tiles.tile? i = some tile ∧ tile.texture.isSome = true ∧
      ∀ j < i, ∀ other, tiles.tile? j = some other → other.texture = none := by
  have hfind : tiles.firstTextured? = some tile ↔
      tiles.toList.find? (fun entry => entry.any (·.texture.isSome)) = some (some tile) := by
    rw [firstTextured?, specified, List.find?_filterMap, Option.bind_eq_some_iff]
    constructor
    · rintro ⟨entry, hentry, hsome⟩
      exact hentry.trans (congrArg some hsome)
    · intro h
      exact ⟨some tile, h, rfl⟩
  rw [hfind, List.find?_eq_some_iff_getElem]
  constructor
  · rintro ⟨htexture, i, hi, hget, hbefore⟩
    have hlt : i < 8 := by simpa using hi
    refine ⟨i, by rw [tile?_of_lt tiles hlt]; simpa using hget, htexture, ?_⟩
    intro j hj other hother
    have hnot := hbefore j hj
    rw [tile?_of_lt tiles (by omega)] at hother
    simpa [hother] using hnot
  · rintro ⟨i, hi, htexture, hbefore⟩
    have hlt := lt_of_tile? hi
    rw [tile?_of_lt tiles hlt] at hi
    refine ⟨htexture, i, by simpa using hlt, by simpa using hi, fun j hj => ?_⟩
    have hj' : j < 8 := by omega
    have hnone := hbefore j hj
    rw [tile?_of_lt tiles hj'] at hnone
    cases hother : tiles[j] with
    | none => simp [hother]
    | some other => simp [hother, hnone other hother]

/-- No tile that is known to have a texture comes before all those that a material gives one. -/
def MaterialState.TexturesFirst (known wanted : MaterialState) : Prop :=
  ∀ j other, known.tiles.tile? j = some other → other.texture.isSome = true →
    ∃ i ≤ j, ∃ tile, wanted.tiles.tile? i = some tile ∧ tile.texture.isSome = true

/-- The registers show the texture size of a material that they satisfy, unless another texture is
known before those of the material. -/
theorem MaterialState.TexturesFirst.textureSize? {known wanted : MaterialState}
    (hfirst : known.TexturesFirst wanted) (h : known.satisfies wanted = true)
    (htextured : wanted.firstTexturedTile?.isSome = true) :
    known.textureSize? = wanted.textureSize? := by
  obtain ⟨tile, htile⟩ := Option.isSome_iff_exists.mp htextured
  obtain ⟨i, hi, htexture, hbefore⟩ := (wanted.tiles.firstTextured?_eq_some_iff tile).mp htile
  obtain ⟨t, ht⟩ := Option.isSome_iff_exists.mp htexture
  obtain ⟨current, hcurrent, hprovides⟩ := ((MaterialState.satisfies_iff _ _).mp h).1 i tile hi
  have hsame : current.texture = some t := hprovides.texture t ht
  have hknown : known.firstTexturedTile? = some current := by
    refine (known.tiles.firstTextured?_eq_some_iff current).mpr ⟨i, hcurrent, by simp [hsame], ?_⟩
    intro j hj other hother
    cases hnone : other.texture with
    | none => rfl
    | some _ =>
      obtain ⟨k, hk, earlier, hearlier, hsome⟩ := hfirst j other hother (by simp [hnone])
      rw [hbefore k (by omega) earlier hearlier] at hsome
      simp at hsome
  rw [MaterialState.textureSize?, MaterialState.textureSize?, hknown, htile]
  simp [hsame, ht]

/-! ### Buffers in two scales -/

namespace VertexBuffer

/-- Two texture sizes that give each vertex of a mesh the same texture coordinates. -/
def ScaledAlike (settings : Settings) (mesh : SkinnedMesh) (size other : Option (Nat × Nat)) :
    Prop :=
  ∀ vertex < mesh.surface.vertexCount, ∀ layout,
    (convert settings mesh layout size vertex).uv = (convert settings mesh layout other vertex).uv

theorem build_eq_iff (settings : Settings) (id : BufferId) (source : Option MeshId)
    (mesh : SkinnedMesh) (layout : VertexLayout) (size other : Option (Nat × Nat)) :
    (build settings id source mesh layout size).1 = (build settings id source mesh layout other).1 ↔
      ScaledAlike settings mesh size other := by
  constructor
  · intro h vertex hvertex _
    have hvertices := congrArg VertexBuffer.vertices h
    -- the coordinates are the same in every layout
    exact (congrArg HardwareVertex.uv
      (List.map_inj_left.mp hvertices vertex (List.mem_range.mpr hvertex)) :)
  · intro h
    have hvertices : (List.range mesh.surface.vertexCount).map (convert settings mesh layout size) =
        (List.range mesh.surface.vertexCount).map (convert settings mesh layout other) := by
      refine List.map_congr_left fun vertex hvertex => ?_
      have huv := h vertex (List.mem_range.mp hvertex) layout
      calc convert settings mesh layout size vertex
          = { convert settings mesh layout other vertex with
              uv := (convert settings mesh layout size vertex).uv } := rfl
        _ = convert settings mesh layout other vertex := by rw [huv]
    simp only [build, hvertices]

end VertexBuffer

def UnitDraft.bufferFor? (draft : UnitDraft) (id : MeshId) (layout : VertexLayout) :
    Option VertexBuffer :=
  draft.buffers.find? fun buffer => buffer.mesh = some id && buffer.layout = layout

/-- A section that is run after some commands draws the faces of its group, and it draws and loads
from one buffer. -/
def Section.DrawsFrom (s : Section) (before : List Command) (mesh : SkinnedMesh)
    (buffer : BufferId) : Prop :=
  ∃ proc after loads, Processor.run? {} (before ++ s.switch) = some proc ∧
    proc.run? s.drawing = some after ∧
    after.drawn = proc.drawn ++ (mesh.pairFaces s.batch.bones).map (mesh.drawnFace buffer) ∧
    after.loads = proc.loads ++ loads ∧ ∀ load ∈ loads, load.buffer = buffer

namespace ExportContext

variable {ctx : ExportContext} {start : MaterialState} {draft reached provided : UnitDraft}

/-- The next batch is drawn from the buffer that is provided for it. -/
theorem Renders.drawsFrom_next (hsize : ctx.settings.vertexCacheSize ≤ maxVertexCacheSize)
    {faces : List (MeshId × Face)} (h : ctx.Renders draft faces) (batch : Batch)
    {mesh : SkinnedMesh} {number : BufferId} {drawn : Emission Pipeline}
    (hdrawn : drawn = (ctx.settings.canvas ctx.scene.skeleton).drawBatch mesh batch.bones number
      (ctx.switched draft batch).pipeline) (hfailure : drawn.failure = none) :
    Section.DrawsFrom ⟨batch, (ctx.switchMaterial draft.pipeline.registers batch).1, drawn.commands⟩
      draft.written mesh number := by
  obtain ⟨_, proc, after, loads, hrun, _, _, hafter, _, hdraws, hloads, hallowed⟩ :=
    h.run_next hsize batch hdrawn hfailure
  exact ⟨proc, after, loads, hrun, hafter, hdraws, hloads,
    fun load hload => (hallowed load hload).buffer⟩

/-! ### First uses -/

/-- The registers that are known when one of some batches is the first to draw a mesh with
registers that call for a layout. -/
def firstUse? (ctx : ExportContext) (id : MeshId) (layout : VertexLayout) (start : MaterialState) :
    List Batch → Option MaterialState
  | [] => none
  | batch :: rest =>
    let known := (ctx.switchMaterial start batch).2
    if batch.mesh = some id ∧ layoutFor known = layout then some known
    else ctx.firstUse? id layout known rest

theorem firstUse?_append_singleton (id : MeshId) (layout : VertexLayout) (start : MaterialState)
    (sections : List Section) (s : Section) :
    ctx.firstUse? id layout start ((sections ++ [s]).map (·.batch)) =
      (ctx.firstUse? id layout start (sections.map (·.batch))).or
        (if s.batch.mesh = some id ∧
            layoutFor (ctx.registersAfter start (sections ++ [s])) = layout then
          some (ctx.registersAfter start (sections ++ [s])) else none) := by
  induction sections generalizing start with
  | nil => rfl
  | cons first rest ih =>
    rw [List.cons_append, List.map_cons, List.map_cons]
    unfold firstUse?
    dsimp only
    split
    · rfl
    · exact ih _

theorem exists_of_firstUse? {id : MeshId} {layout : VertexLayout} {batches : List Batch}
    {known : MaterialState} (h : ctx.firstUse? id layout start batches = some known) :
    ∃ batch ∈ batches, batch.mesh = some id ∧
      ∃ registers, known = (ctx.switchMaterial registers batch).2 := by
  induction batches generalizing start with
  | nil => simp [firstUse?] at h
  | cons first rest ih =>
    unfold firstUse? at h
    dsimp only at h
    split at h
    · rename_i huse
      exact ⟨first, List.mem_cons_self, huse.1, start, (Option.some.inj h).symm⟩
    · obtain ⟨batch, hbatch, hmesh, hknown⟩ := ih h
      exact ⟨batch, List.mem_cons_of_mem first hbatch, hmesh, hknown⟩

/-! ### Buffers -/

/-- **What providing a buffer does.**  If there is none yet for the mesh in the layout that the
registers call for, one is made for the texture that they show. -/
theorem provideBuffer_ok {id : MeshId} {mesh : SkinnedMesh} {number : BufferId}
    (h : ctx.provideBuffer draft id mesh = (provided, number)) :
    (∀ other layout, provided.bufferFor? other layout =
      (draft.bufferFor? other layout).or
        (if id = other ∧ layoutFor draft.pipeline.registers = layout then
          some (VertexBuffer.build ctx.settings draft.nextBuffer (some id) mesh layout
            draft.pipeline.registers.textureSize?).1 else none)) ∧
      ∃ buffer, provided.bufferFor? id (layoutFor draft.pipeline.registers) = some buffer ∧
        buffer.id = number := by
  unfold provideBuffer at h
  dsimp only at h
  split at h
  · rename_i buffer hfound
    obtain ⟨rfl, rfl⟩ := Prod.mk.inj h
    have hthere : draft.bufferFor? id (layoutFor draft.pipeline.registers) = some buffer := hfound
    refine ⟨fun other layout => ?_, buffer, hthere, rfl⟩
    split
    · rename_i hsame
      obtain ⟨rfl, rfl⟩ := hsame
      simp [hthere]
    · simp
  · rename_i hnone
    generalize hbuild : VertexBuffer.build _ _ _ _ _ _ = built at h
    obtain ⟨buffer, reports⟩ := built
    obtain ⟨rfl, rfl⟩ := Prod.mk.inj h
    have hbuffer : _ = buffer := congrArg Prod.fst hbuild
    have hlast : ∀ other layout,
        ([buffer].find? fun b => b.mesh = some other && b.layout = layout) =
          if id = other ∧ layoutFor draft.pipeline.registers = layout then
            some (VertexBuffer.build ctx.settings draft.nextBuffer (some id) mesh layout
              draft.pipeline.registers.textureSize?).1 else none := by
      intro other layout
      split
      · rename_i hsame
        obtain ⟨rfl, rfl⟩ := hsame
        simp [← hbuffer, VertexBuffer.build]
      · rename_i hother
        simpa [← hbuffer, VertexBuffer.build] using hother
    refine ⟨fun other layout => ?_, buffer, ?_, rfl⟩
    · rw [← hlast]
      exact List.find?_append
    · have hfound : (draft.buffers ++ [buffer]).find? (fun b =>
          b.mesh = some id && b.layout = layoutFor draft.pipeline.registers) = _ :=
        List.find?_append
      rw [hnone, hlast, if_pos ⟨rfl, rfl⟩, hbuffer] at hfound
      exact hfound

theorem rel_or {α β : Type} {r : α → β → Prop} {a c : Option α} {b d : Option β}
    (hfirst : Option.Rel r a b) (hsecond : Option.Rel r c d) : Option.Rel r (a.or c) (b.or d) := by
  cases hfirst with
  | none => simpa using hsecond
  | some h => exact .some h

/-- A draft in which a mesh has a buffer in a layout exactly if it was drawn with it, made for the
texture that the registers showed at the first use, and each section draws from the buffer of its
mesh in the layout that the registers call for there. -/
structure Scaled (ctx : ExportContext) (start : MaterialState) (draft : UnitDraft) : Prop where
  buffers : ∀ id layout, Option.Rel
    (fun (known : MaterialState) (buffer : VertexBuffer) => ∃ mesh, ctx.scene.mesh id = .ok mesh ∧
      buffer = (VertexBuffer.build ctx.settings buffer.id (some id) mesh layout
        known.textureSize?).1)
    (ctx.firstUse? id layout start (draft.sections.map (·.batch))) (draft.bufferFor? id layout)
  sections : ∀ earlier s later, draft.sections = earlier ++ s :: later →
    ∃ id mesh buffer, s.batch.mesh = some id ∧ ctx.scene.mesh id = .ok mesh ∧
      draft.bufferFor? id (layoutFor (ctx.registersAfter start (earlier ++ [s]))) = some buffer ∧
      s.DrawsFrom (draft.prologue ++ earlier.flatMap Section.commands) mesh buffer.id

/-- **What a section is drawn from.** -/
theorem Scaled.exists_buffer (h : ctx.Scaled start draft) {earlier later : List Section}
    {s : Section} (hsplit : draft.sections = earlier ++ s :: later) :
    ∃ id mesh buffer known, s.batch.mesh = some id ∧ ctx.scene.mesh id = .ok mesh ∧
      buffer ∈ draft.buffers ∧
      s.DrawsFrom (draft.prologue ++ earlier.flatMap Section.commands) mesh buffer.id ∧
      ctx.firstUse? id buffer.layout start (draft.sections.map (·.batch)) = some known ∧
      buffer = (VertexBuffer.build ctx.settings buffer.id (some id) mesh buffer.layout
        known.textureSize?).1 := by
  obtain ⟨id, mesh, buffer, hid, hmesh, hbuffer, hdraws⟩ := h.sections earlier s later hsplit
  generalize layoutFor (ctx.registersAfter start (earlier ++ [s])) = layout at hbuffer
  have hrel := h.buffers id layout
  rw [hbuffer] at hrel
  generalize hfirst : ctx.firstUse? id layout start (draft.sections.map (·.batch)) = first at hrel
  cases hrel with
  | some hmade =>
    obtain ⟨source, hsource, hbuild⟩ := hmade
    obtain rfl := Except.ok.inj (hsource.symm.trans hmesh)
    have hlayout : buffer.layout = layout := by
      rw [hbuild]
      rfl
    subst hlayout
    exact ⟨id, source, buffer, _, hid, hmesh, List.mem_of_find?_eq_some hbuffer, hdraws, hfirst,
      hbuild⟩

theorem Scaled.writeBatch (hsize : ctx.settings.vertexCacheSize ≤ maxVertexCacheSize)
    (h : ctx.Scaled start draft) (hswitched : ctx.SwitchedFrom start draft)
    {faces : List (MeshId × Face)} (hrenders : ctx.Renders draft faces) {batch : Batch}
    (hwrite : ctx.writeBatch draft batch = (reached, none)) : ctx.Scaled start reached := by
  rcases writeBatch_ok hwrite with ⟨_, rfl⟩ | ⟨id, mesh, provided, number, hid, hmesh, hprovided,
    drawn, hdrawn, hfailure, hreached⟩
  · exact h
  · obtain ⟨hpipeline, hprologue, hsections, _⟩ := provideBuffer_frame hprovided
    obtain ⟨hbuffers, buffer, hbuffer, rfl⟩ := provideBuffer_ok hprovided
    generalize hs : Section.mk batch (ctx.switchMaterial draft.pipeline.registers batch).1
      drawn.commands = s at hreached
    have hbatch : s.batch = batch := by rw [← hs]
    have hsections' : reached.sections = draft.sections ++ [s] := by
      rw [hreached, hsections]
      rfl
    have hprologue' : reached.prologue = draft.prologue := by
      rw [hreached]
      exact hprologue
    have hregisters : (ctx.switched draft batch).pipeline.registers =
        ctx.registersAfter start (draft.sections ++ [s]) := by
      rw [registersAfter_append_singleton, ← hswitched.registers, hbatch]
      rfl
    have hfor : ∀ other layout, reached.bufferFor? other layout =
        (draft.bufferFor? other layout).or
          (if id = other ∧
              layoutFor (ctx.registersAfter start (draft.sections ++ [s])) = layout then
            some (VertexBuffer.build ctx.settings draft.nextBuffer (some id) mesh layout
              (ctx.registersAfter start (draft.sections ++ [s])).textureSize?).1 else none) := by
      intro other layout
      rw [← hregisters, hreached]
      exact hbuffers other layout
    constructor
    · intro other layout
      rw [hsections', firstUse?_append_singleton, hfor]
      refine rel_or (h.buffers other layout) ?_
      simp only [hbatch, hid, Option.some_inj]
      split
      · rename_i hsame
        obtain ⟨rfl, _⟩ := hsame
        exact .some ⟨mesh, hmesh, rfl⟩
      · exact .none
    · intro earlier t later hsplit
      rw [hsections'] at hsplit
      rw [hprologue']
      rcases UnitDraft.split_append_singleton hsplit with ⟨_, rfl, rfl⟩ | ⟨between, _, hinit⟩
      · refine ⟨id, mesh, buffer, hbatch ▸ hid, hmesh, ?_, ?_⟩
        · rw [← hregisters, hreached]
          exact hbuffer
        · rw [hpipeline] at hdrawn
          rw [← hs]
          exact hrenders.drawsFrom_next hsize batch hdrawn hfailure
      · obtain ⟨source, made, old, hsource, hmade, hold, hdraws⟩ :=
          h.sections earlier t between hinit
        refine ⟨source, made, old, hsource, hmade, ?_, hdraws⟩
        rw [hfor, hold]
        rfl

theorem scaled_startDraft {name : String} {batches : List Batch} {nextBuffer : BufferId}
    (h : ctx.startDraft name batches nextBuffer = (draft, none)) :
    ctx.Scaled draft.pipeline.registers draft := by
  have hsections := (startDraft_known h).1
  have hbuffers : draft.buffers = [] := by
    rcases startDraft_ok h with rfl | ⟨meshes, rfl⟩
    · rfl
    · unfold writeCulling
      split <;> rfl
  constructor
  · intro id layout
    rw [hsections, UnitDraft.bufferFor?, hbuffers]
    exact .none
  · simp [hsections]

theorem scaled_draft (hsize : ctx.settings.vertexCacheSize ≤ maxVertexCacheSize) {name : String}
    {batches : List Batch} {nextBuffer : BufferId}
    (h : ctx.draft name batches nextBuffer = (draft, none)) :
    ctx.Scaled (ctx.startDraft name batches nextBuffer).1.pipeline.registers draft := by
  obtain ⟨started, hstarted, hwrite⟩ := draft_ok h
  rw [hstarted]
  have hcarried := writeBatches_history (P := fun done draft =>
    ctx.Scaled started.pipeline.registers draft ∧
      ctx.SwitchedFrom started.pipeline.registers draft ∧
      ctx.Renders draft (done.flatMap ctx.scene.batchFaces)) [] ?_ hwrite
    ⟨scaled_startDraft hstarted, switchedFrom_startDraft hstarted, renders_startDraft hstarted⟩
  · exact hcarried.1
  · rintro done draft batch reached _ ⟨hscaled, hswitched, hrenders⟩ hreached
    refine ⟨hscaled.writeBatch hsize hswitched hrenders hreached, hswitched.writeBatch hreached, ?_⟩
    rw [List.flatMap_append, List.flatMap_singleton]
    exact hrenders.writeBatch hsize hreached

end ExportContext

end SceneCompiler
