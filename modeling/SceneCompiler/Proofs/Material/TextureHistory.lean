import SceneCompiler.Proofs.Material.Execution

/-!
# What tiles sample after a list of commands

Tiles are moved and textures are loaded in any order, but where the tiles do not contradict each
other at first, they never do: each tile samples what texture memory holds at its address. The memory
remembers the last load at each address, and holds what the tiles sampled at first where nothing was
loaded. So only the address where a tile ends counts, and neither the way that it came nor the order
of its moves and the loads (`MaterialState.execute?_textures`).
-/

namespace SceneCompiler

/-- Rectangles are set only for tiles that are specified at that point. -/
def MaterialState.SizesSpecified (s : MaterialState) (commands : List Command) : Prop :=
  ∀ before place size after, commands = before ++ .state (.setTileSize place size) :: after →
    ((s.execute before).tiles.tile? place).isSome = true

namespace MaterialState.Machine

/-! ### Machines stay resident -/

variable {m : Machine} {commands : List Command}

/-- **Every command keeps a machine resident**, if it does not set the rectangle of an open tile. -/
theorem Resident.step_of_specified (h : m.Resident) {c : Command}
    (hsize : ∀ place size, c = .state (.setTileSize place size) →
      (m.state.tiles.tile? place).isSome = true) : (m.step c).Resident := by
  cases hc : c.isDescriptor with
  | false => exact h.step hc
  | true =>
    cases c with
    | state command =>
      cases command with
      | setTile place params => exact h.setTile place params
      | setTileSize place size =>
        apply h.setTileSize
        rw [shape?, Option.isSome_map]
        exact hsize place size rfl
      | _ => simp [Command.isDescriptor] at hc
    | _ => simp [Command.isDescriptor] at hc

theorem Resident.run_of_specified (h : m.Resident)
    (hsizes : ∀ before place size after,
      commands = before ++ .state (.setTileSize place size) :: after →
        ((m.run before).state.tiles.tile? place).isSome = true) : (m.run commands).Resident := by
  induction commands generalizing m with
  | nil => exact h
  | cons c rest ih =>
    rw [run_cons]
    apply ih
    · apply h.step_of_specified
      rintro place size rfl
      exact hsizes [] place size rest rfl
    · rintro before place size after rfl
      exact hsizes (c :: before) place size after rfl

/-! ### The last load at an address -/

theorem mem_loads {address : UInt16} {t : Texture} :
    (address, t) ∈ UploadKind.texture.loads commands ↔
      .state (.loadBlock t address) ∈ commands := by
  rw [UploadKind.loads, List.mem_filterMap]
  constructor
  · rintro ⟨c, hc, hload⟩
    cases c with
    | state command =>
      cases command with
      | loadBlock u place =>
        obtain ⟨rfl, rfl⟩ := Prod.mk.inj (Option.some.inj hload)
        exact hc
      | _ => simp [UploadKind.texture, Command.textureLoad?] at hload
    | _ => simp [UploadKind.texture, Command.textureLoad?] at hload
  · exact fun hc => ⟨_, hc, rfl⟩

/-- Where nothing is loaded, the memory holds what it held before. -/
theorem get?_memory_run_of_no_load {address : UInt16}
    (h : ∀ t, .state (.loadBlock t address) ∉ commands) :
    (m.run commands).memory.get? address = m.memory.get? address := by
  rw [memory_run, TextureMemory.get?, List.lookup_append, List.lookup_eq_none_iff.mpr,
    Option.none_or]
  · rfl
  · rintro ⟨place, t⟩ hentry
    apply bne_iff_ne.mpr
    rintro rfl
    exact h t (mem_loads.mp (List.mem_reverse.mp hentry))

/-- The memory remembers the last load at an address. -/
theorem get?_memory_run_of_last {address : UInt16} {t : Texture} {before after : List Command}
    (h : ∀ u, .state (.loadBlock u address) ∉ after) :
    (m.run (before ++ .state (.loadBlock t address) :: after)).memory.get? address = some t := by
  rw [run_append, run_cons, get?_memory_run_of_no_load h]
  simp [step, stateStep, TextureMemory.get?]

end MaterialState.Machine

namespace MaterialState

/-- **What a list of commands leaves in the tiles.**  From a coherent state, and if the commands name
no missing tile and set rectangles of specified tiles only, the commands can be executed. After them
each tile samples the texture of the last load at the tile's address; if there was no load at this
address, it samples what the tiles at the address sampled at first, and nothing if none of them
sampled a texture there. Any two tiles at one address sample the same. -/
theorem execute?_textures {s : MaterialState} {commands : List Command} (hcoherent : s.Coherent)
    (htiles : ∀ c ∈ commands, c.namesMissingTile = false) (hsizes : s.SizesSpecified commands) :
    ∃ executed, s.execute? commands = some executed ∧
      (∀ i tile, executed.tiles.tile? i = some tile →
        (∀ before t after,
          commands = before ++ .state (.loadBlock t tile.params.address) :: after →
          (∀ u, .state (.loadBlock u tile.params.address) ∉ after) → tile.texture = some t) ∧
        ((∀ t, .state (.loadBlock t tile.params.address) ∉ commands) → ∀ t,
          tile.texture = some t ↔ ∃ old ∈ s.tiles.specified,
            old.params.address = tile.params.address ∧ old.texture = some t)) ∧
      executed.Coherent := by
  have hresident : ((Machine.ofState s).run commands).Resident :=
    (Machine.resident_ofState hcoherent).run_of_specified hsizes
  refine ⟨s.execute commands, ?_, fun i tile htile => ⟨?_, ?_⟩, hresident.coherent⟩
  · rw [execute?, if_neg]
    rw [Bool.not_eq_true, List.any_eq_false]
    intro c hc
    simp [htiles c hc]
  · rintro before t after rfl hlast
    rw [hresident i tile htile, Machine.get?_memory_run_of_last hlast]
  · intro hnone t
    rw [hresident i tile htile, Machine.get?_memory_run_of_no_load hnone]
    exact TextureMemory.get?_ofTiles_eq_some_iff hcoherent

end MaterialState

namespace Mural

/-- The first tile is moved away, the image under the others is painted over, and the tile comes
back. -/
def repainting : List Command :=
  [.state (.setTile 0 { address := 64 }), .state (.loadBlock (image "fresco") 8),
    .state (.setTileSize 3 {}), .state (.setTile 0 { address := 8 }),
    .state (.setTile 5 { address := 64 })]

end Mural

/-- The first tile is back where it was and samples the new image, and where it has been in between
there is none. -/
theorem MaterialState.execute?_textures_of_mural :
    Mural.plaster.Coherent ∧ (∀ c ∈ Mural.repainting, c.namesMissingTile = false) ∧
      Mural.plaster.SizesSpecified Mural.repainting ∧
      ∃ executed, Mural.plaster.execute? Mural.repainting = some executed ∧ executed.Coherent ∧
        executed.tiles.specified.map (·.texture) =
          [some (Mural.image "fresco"), some (Mural.image "fresco"), none] := by
  have hcoherent : Mural.plaster.Coherent := by decide
  have htiles : ∀ c ∈ Mural.repainting, c.namesMissingTile = false := by decide
  have hsizes : Mural.plaster.SizesSpecified Mural.repainting := by
    intro before place size after h
    simp only [Mural.repainting, List.cons_eq_append_iff, List.cons.injEq, Command.state.injEq,
      reduceCtorEq, false_and, and_false, StateCommand.setTileSize.injEq, List.nil_eq,
      List.append_eq_nil_iff, exists_const, or_self, or_false, false_or] at h
    obtain ⟨_, rfl, _, rfl, rfl, ⟨rfl, rfl⟩, rfl⟩ := h
    decide +kernel
  obtain ⟨executed, hexecuted, _, hafter⟩ := execute?_textures hcoherent htiles hsizes
  refine ⟨hcoherent, htiles, hsizes, executed, hexecuted, hafter, ?_⟩
  obtain rfl := Option.some.inj ((show Mural.plaster.execute? Mural.repainting =
    some (Mural.plaster.execute Mural.repainting) from rfl).symm.trans hexecuted)
  decide +kernel

end SceneCompiler
