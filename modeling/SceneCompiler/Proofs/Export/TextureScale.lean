import SceneCompiler.Proofs.Export.Units
import SceneCompiler.Proofs.Unit.TextureScale

/-!
# The texture that a buffer is made for

Each batch of a unit is drawn from one buffer of its mesh, whose texture coordinates are in texels
of the first texture that the registers showed when the mesh was first drawn in this layout
(`Scene.exists_buffer`). At that time the mesh's material was in place, but so could be tiles of
materials before it. So the coordinates are those for the material's own first texture exactly if
both sizes give the same ones, and in any case if no other texture came first
(`Scene.isScaledFor_iff`). A room whose wall is rusty is an example of the opposite
(`Scene.moss_scale_of_room`).
-/

namespace SceneCompiler

/-- A buffer of a mesh with texture coordinates in texels of the first texture of a material. -/
def VertexBuffer.IsScaledFor (settings : Settings) (id : MeshId) (mesh : SkinnedMesh)
    (material : MaterialState) (buffer : VertexBuffer) : Prop :=
  buffer = (build settings buffer.id (some id) mesh buffer.layout material.textureSize?).1

/-- A section of a unit that, run after some commands, draws its faces from a buffer of its mesh. -/
structure CompiledUnit.DrawsFrom (unit : CompiledUnit) (scene : Scene) (before : List Command)
    (s : Section) (id : MeshId) (mesh : SkinnedMesh) (buffer : VertexBuffer) : Prop where
  batch : s.batch.mesh = some id
  source : scene.mesh id = .ok mesh
  number : unit.buffer? buffer.id = some buffer
  run : s.DrawsFrom before mesh buffer.id

/-! ### A room

The floor is mossy and the wall is rusty. Moss has a small texture in the first tile, and rust a
larger one in the second tile, at another address. -/

namespace Room

def image (name : String) (side : Nat) : Texture where
  name
  width := side
  height := side
  format := .rgba
  size := .bits16

def moss : Material where
  name := "moss"
  state.tiles :=
    #v[some (.ofTexture (image "moss" 16) 0), none, none, none, none, none, none, none]

def rust : Material where
  name := "rust"
  state.tiles :=
    #v[none, some (.ofTexture (image "rust" 32) 64), none, none, none, none, none, none]

def triangle : Surface Float32 where
  positions := [⟨0, 0, 0⟩, ⟨1, 0, 0⟩, ⟨0, 1, 0⟩]
  uvs := some [⟨0, 0⟩, ⟨1, 0⟩, ⟨0, 1⟩]
  faces := [⟨0, 1, 2⟩]

def floor : SkinnedMesh := .unskinned "floor" triangle none "moss"

def wall : SkinnedMesh := .unskinned "wall" triangle none "rust"

/-- The room with its materials; nothing is fixed at rest. -/
def scene : Scene where
  library.materials := [{ name := "default" }, moss, rust]
  meshes := [floor, wall]

def settings : Settings where
  maxIterations := 5

def request : UnitRequest := ⟨"room", [0, 1]⟩

/-- The floor comes before the wall. -/
theorem orderedBatches : scene.orderedBatches settings request =
    [⟨(none, none), some 0, some 1⟩, ⟨(none, none), some 1, some 2⟩] := by
  decide +kernel

end Room

namespace Scene

variable {scene : Scene} {settings : Settings} {requests : List UnitRequest} {e : Export}
  {unit : CompiledUnit}

/-- The registers that are known when a mesh is drawn for a request for the first time with
registers that call for a layout. -/
def firstUse? (scene : Scene) (settings : Settings) (requests : List UnitRequest)
    (request : UnitRequest) (nextBuffer : BufferId) (id : MeshId) (layout : VertexLayout) :
    Option MaterialState :=
  (scene.contextFor settings requests).firstUse? id layout
    ((scene.contextFor settings requests).startDraft request.name
      (scene.orderedBatches settings request) nextBuffer).1.pipeline.registers
    (scene.orderedBatches settings request)

/-- **What a batch is drawn from.**  Each batch of a unit is drawn from one buffer of its mesh,
which was made for the texture that the registers showed when the mesh was first drawn in this
layout, with its material in place. -/
theorem exists_buffer (h : scene.compileUnits settings requests = .ok e) (hunit : unit ∈ e.units) :
    ∃ request nextBuffer draft, scene.DraftedFor settings requests unit request nextBuffer draft ∧
      ∀ earlier s later, draft.sections = earlier ++ s :: later → ∃ id mesh buffer known,
        unit.DrawsFrom scene (draft.prologue ++ earlier.flatMap Section.commands) s id mesh buffer ∧
          scene.firstUse? settings requests request nextBuffer id buffer.layout = some known ∧
          buffer = (VertexBuffer.build settings buffer.id (some id) (scene.prepare settings mesh)
            buffer.layout known.textureSize?).1 ∧
          ∀ key material, s.batch.material = some key → scene.library.get? key = some material →
            known.satisfies material.state = true := by
  obtain ⟨request, nextBuffer, draft, hdrafted⟩ := exists_draftedFor h hunit
  have hsize := (Settings.vertexCacheSize_of_accepted (mem_units h hunit).1).2
  obtain ⟨hnumbered, _⟩ := ExportContext.renders_unit hsize hdrafted.compiled
  have hscaled := ExportContext.scaled_draft hsize hdrafted.drafted
  refine ⟨request, nextBuffer, draft, hdrafted, fun earlier s later hsplit => ?_⟩
  obtain ⟨id, prepared, buffer, known, hid, hprepared, hbuffer, hdraws, hknown, hbuild⟩ :=
    hscaled.exists_buffer hsplit
  obtain ⟨mesh, uvs, hmesh, rfl, hsame⟩ := mesh_prepared hprepared
  rw [hdrafted.batches] at hknown
  rw [hsame] at hdraws
  have hnumber : unit.buffer? buffer.id = some buffer := by
    rw [← hdrafted.buffers] at hbuffer
    exact CompiledUnit.buffer?_of_mem hnumbered (List.mem_append_left _ hbuffer)
  refine ⟨id, mesh, buffer, known, ⟨hid, hmesh, hnumber, hdraws⟩, hknown, hbuild, ?_⟩
  intro key material hkey hmaterial
  -- the batch that drew the mesh first has the same material
  obtain ⟨first, hfirst, hfirstMesh, registers, rfl⟩ := ExportContext.exists_of_firstUse? hknown
  have hmaterialOf : ∀ batch ∈ scene.orderedBatches settings request, batch.mesh = some id →
      batch.material = scene.materialOf settings mesh := by
    intro batch hbatch hmeshOf
    obtain ⟨other, found, hother, hfound, hmaterialOf⟩ := mem_orderedBatches hbatch
    obtain rfl := Option.some.inj (hother.symm.trans hmeshOf)
    obtain rfl := Except.ok.inj (hfound.symm.trans hmesh)
    exact hmaterialOf
  have hs : s.batch ∈ scene.orderedBatches settings request := by
    rw [← hdrafted.batches, hsplit]
    simp
  rw [hmaterialOf _ hs hid, ← hmaterialOf first hfirst hfirstMesh] at hkey
  exact ExportContext.switchMaterial_satisfies hkey hmaterial

/-- **When texture coordinates are those of the material.**  The buffer that a batch with textures
is drawn from is made for the first texture of the batch's material exactly if the first texture
known when the mesh was first drawn gives the same coordinates. This is so if no other texture came
before those of the material. -/
theorem isScaledFor_iff (h : scene.compileUnits settings requests = .ok e)
    (hunit : unit ∈ e.units) :
    ∃ request nextBuffer draft, scene.DraftedFor settings requests unit request nextBuffer draft ∧
      ∀ earlier s later, draft.sections = earlier ++ s :: later → ∀ key material,
        s.batch.material = some key → scene.library.get? key = some material →
        material.state.firstTexturedTile?.isSome = true → ∃ id mesh buffer known,
          unit.DrawsFrom scene (draft.prologue ++ earlier.flatMap Section.commands) s id mesh
              buffer ∧
            scene.firstUse? settings requests request nextBuffer id buffer.layout = some known ∧
            (buffer.IsScaledFor settings id (scene.prepare settings mesh) material.state ↔
              VertexBuffer.ScaledAlike settings (scene.prepare settings mesh) known.textureSize?
                material.state.textureSize?) ∧
            (known.TexturesFirst material.state →
              buffer.IsScaledFor settings id (scene.prepare settings mesh) material.state) := by
  obtain ⟨request, nextBuffer, draft, hdrafted, hsections⟩ := exists_buffer h hunit
  refine ⟨request, nextBuffer, draft, hdrafted, ?_⟩
  intro earlier s later hsplit key material hkey hmaterial htextured
  obtain ⟨id, mesh, buffer, known, hdraws, hknown, hbuild, hsatisfies⟩ :=
    hsections earlier s later hsplit
  refine ⟨id, mesh, buffer, known, hdraws, hknown, ⟨?_, ?_⟩, ?_⟩
  · intro hscaled
    exact (VertexBuffer.build_eq_iff _ _ _ _ _ _ _).mp (hbuild.symm.trans hscaled)
  · intro halike
    exact hbuild.trans ((VertexBuffer.build_eq_iff _ _ _ _ _ _ _).mpr halike)
  · intro hfirst
    have hsize := hfirst.textureSize? (hsatisfies key material hkey hmaterial) htextured
    rw [VertexBuffer.IsScaledFor, ← hsize]
    exact hbuild

/-- The floor is drawn from a buffer that is made for moss. -/
theorem isScaledFor_iff_of_room :
    ∃ e unit, ∃ draft : UnitDraft, ∃ s later buffer,
      Room.scene.compileUnits Room.settings [Room.request] = .ok e ∧ unit ∈ e.units ∧
      draft.written <+: unit.displayList.commands ∧ draft.sections = s :: later ∧
      s.batch.material = some 1 ∧ unit.DrawsFrom Room.scene draft.prologue s 0 Room.floor buffer ∧
      buffer.IsScaledFor Room.settings 0 Room.floor Room.moss.state := by
  obtain ⟨e, unit, hexport, hunit, _⟩ := exists_unit_of_any Room.scene Room.settings
    [Room.request] (fun _ => true) (by decide +kernel)
  obtain ⟨request, nextBuffer, draft, hdrafted, hsections⟩ := isScaledFor_iff hexport hunit
  obtain rfl := List.mem_singleton.mp hdrafted.requested
  have hbatches := hdrafted.batches.trans Room.orderedBatches
  obtain ⟨s, later, hsplit, hs, _⟩ := List.map_eq_cons_iff.mp hbatches
  have hmaterial : s.batch.material = some 1 := congrArg Batch.material hs
  obtain ⟨id, mesh, buffer, known, hdraws, _, _, hscaled⟩ :=
    hsections [] s later hsplit 1 Room.moss hmaterial rfl (by decide)
  obtain rfl : 0 = id := Option.some.inj ((congrArg Batch.mesh hs).symm.trans hdraws.batch)
  obtain rfl : Room.floor = mesh := Except.ok.inj hdraws.source
  refine ⟨e, unit, draft, s, later, buffer, hexport, hunit, hdrafted.written, hsplit, hmaterial,
    ?_, ?_⟩
  · simpa using hdraws
  · exact hscaled fun j _ _ _ => ⟨0, Nat.zero_le j, _, rfl, rfl⟩

/-- When the wall is drawn, in whatever layout, the first texture that is known is that of moss. -/
theorem firstUse?_of_room (nextBuffer : BufferId) (layout : VertexLayout) :
    (Room.scene.firstUse? Room.settings [Room.request] Room.request nextBuffer 1 layout).all
      (·.textureSize? = some (16, 16)) = true := by
  have hrest : Room.scene.defaultState Room.settings = {} := by decide +kernel
  have hstart : ((Room.scene.contextFor Room.settings [Room.request]).startDraft Room.request.name
      (Room.scene.orderedBatches Room.settings Room.request)
      nextBuffer).1.pipeline.registers = {} := hrest
  rw [firstUse?, hstart, Room.orderedBatches]
  cases layout <;> decide +kernel

/-- **A wall in the scale of moss.**  When the wall is drawn, the texture of moss is still known in
the first tile, so the wall's coordinates are for a texture of half the size of rust. -/
theorem moss_scale_of_room :
    ∃ e unit, ∃ draft : UnitDraft, ∃ earlier s later buffer,
      Room.scene.compileUnits Room.settings [Room.request] = .ok e ∧ unit ∈ e.units ∧
      draft.written <+: unit.displayList.commands ∧ draft.sections = earlier ++ s :: later ∧
      s.batch.material = some 2 ∧ Room.scene.library.get? 2 = some Room.rust ∧
      unit.DrawsFrom Room.scene (draft.prologue ++ earlier.flatMap Section.commands) s 1 Room.wall
        buffer ∧
      buffer = (VertexBuffer.build Room.settings buffer.id (some 1) Room.wall buffer.layout
        (some (16, 16))).1 ∧
      Room.rust.state.textureSize? = some (32, 32) ∧
      (VertexBuffer.place Room.settings Room.wall (some (16, 16)) 1).uv ≠
        (VertexBuffer.place Room.settings Room.wall (some (32, 32)) 1).uv := by
  obtain ⟨e, unit, hexport, hunit, _⟩ := exists_unit_of_any Room.scene Room.settings
    [Room.request] (fun _ => true) (by decide +kernel)
  obtain ⟨request, nextBuffer, draft, hdrafted, hsections⟩ := exists_buffer hexport hunit
  obtain rfl := List.mem_singleton.mp hdrafted.requested
  have hbatches := hdrafted.batches.trans Room.orderedBatches
  obtain ⟨first, rest, hfirst, _, hrest⟩ := List.map_eq_cons_iff.mp hbatches
  obtain ⟨s, later, rfl, hs, _⟩ := List.map_eq_cons_iff.mp hrest
  obtain ⟨id, mesh, buffer, known, hdraws, hknown, hbuild, _⟩ := hsections [first] s later hfirst
  obtain rfl : 1 = id := Option.some.inj ((congrArg Batch.mesh hs).symm.trans hdraws.batch)
  obtain rfl : Room.wall = mesh := Except.ok.inj hdraws.source
  have hsize : known.textureSize? = some (16, 16) := by
    have huse := firstUse?_of_room nextBuffer buffer.layout
    rw [hknown] at huse
    simpa using huse
  rw [hsize] at hbuild
  exact ⟨e, unit, draft, [first], s, later, buffer, hexport, hunit, hdrafted.written, hfirst,
    congrArg Batch.material hs, rfl, hdraws, hbuild, by decide, by decide +kernel⟩

end Scene

end SceneCompiler
