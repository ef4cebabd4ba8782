import SceneCompiler.Proofs.Unit.Registers

/-!
# Palettes while a unit runs

A palette is uploaded unless a tile that is known names its slot and samples a texture that refers
to it. Such a tile need not tell the truth: another tile may have loaded another palette into the
slot since, and a tile that comes to sample another texture speaks of a palette that was loaded for
another slot. So a batch can be drawn through a palette that is not its own
(`ExportContext.palette_overwritten_of_wall`).

When this happens is said exactly: all palettes of a material are in place at a draw just when those
whose upload was left out were in place before the batch (`ExportContext.palettes_at_draw_iff`).
-/

namespace SceneCompiler

/-- Palette memory after some commands, the latest load first. At the start it holds the palettes
that some tiles go through. -/
def paletteMemory (start : Tiles) (commands : List Command) : List (UInt8 × Palette) :=
  (UploadKind.palette.loads commands).reverse ++
    start.specified.reverse.filterMap Tile.paletteAsk

theorem paletteMemory_append (start : Tiles) (xs ys : List Command) :
    paletteMemory start (xs ++ ys) =
      (UploadKind.palette.loads ys).reverse ++ paletteMemory start xs := by
  rw [paletteMemory, UploadKind.loads_append, List.reverse_append, List.append_assoc]
  rfl

namespace ExportContext

/-- Each material asks for at most one palette in a slot, the one at rest too, and the shared lists
are those of the scene. -/
structure OnePalettePerSlot (ctx : ExportContext) : Prop where
  shared : ∃ uses, ctx.shared = .build uses ctx.scene.library ctx.default
  default : Consistent Tile.paletteAsk ctx.default.tiles.specified
  materials : ∀ key material, ctx.scene.library.get? key = some material →
    Consistent Tile.paletteAsk material.state.tiles.specified

/-- Whether the upload of a palette is left out in a switch from known registers to a material: a
known tile goes through the palette in its slot and, if the switch calls a shared list, so does a
tile of the rest state that the material fixes. -/
def Trusts (ctx : ExportContext) (known : MaterialState) (key : MaterialKey) (material : Material)
    (slot : UInt8) (p : Palette) : Prop :=
  Asked Tile.paletteAsk known.tiles.specified slot p ∧
    (known.satisfies material.state = true ∨ ctx.shared.nameOf? key = none ∨
      Asked Tile.paletteAsk (ctx.default.restrictedTo material.state).tiles.specified slot p)

variable {ctx : ExportContext}

/-! ### One switch -/

theorem paletteLoads_materialCommands (hctx : ctx.OnePalettePerSlot) (known : MaterialState)
    {key : MaterialKey} {material : Material}
    (hmaterial : ctx.scene.library.get? key = some material) :
    UploadKind.palette.loads (ctx.shared.inline (ctx.materialCommands known key material)) =
      match ctx.shared.nameOf? key with
      | some _ =>
        missingLoads Tile.paletteAsk known.tiles.specified
            (ctx.default.restrictedTo material.state).tiles.specified ++
          missingLoads Tile.paletteAsk (ctx.default.restrictedTo material.state).tiles.specified
            material.state.tiles.specified
      | none =>
        missingLoads Tile.paletteAsk known.tiles.specified material.state.tiles.specified := by
  obtain ⟨uses, hshared⟩ := hctx.shared
  unfold materialCommands
  cases hname : ctx.shared.nameOf? key with
  | none =>
    simp only [inline_transition]
    exact UploadKind.palette.loads_transition _ _
  | some list =>
    simp only [SharedMaterials.inline_append, inline_transition,
      inline_call hshared hname hmaterial, UploadKind.loads_append]
    rw [SharedMaterials.body, UploadKind.loads_transition, UploadKind.loads_transition]
    rfl

/-- **What a switch does to palette memory.**  A palette that the material asks for is in its slot
after the switch, unless its upload was left out; then the slot holds what it held before. -/
theorem lookup_switchMaterial (hctx : ctx.OnePalettePerSlot) (known : MaterialState)
    (memory : List (UInt8 × Palette)) {batch : Batch} {key : MaterialKey} {material : Material}
    (hkey : batch.material = some key) (hmaterial : ctx.scene.library.get? key = some material)
    {slot : UInt8} {p : Palette}
    (hasked : Asked Tile.paletteAsk material.state.tiles.specified slot p) :
    ((UploadKind.palette.loads (ctx.shared.inline (ctx.switchMaterial known batch).1)).reverse ++
        memory).lookup slot = some p ↔
      (ctx.Trusts known key material slot p → memory.lookup slot = some p) := by
  obtain ⟨tile, hmem, hask⟩ := hasked
  have honly : ∀ w ∈ material.state.tiles.specified, ∀ v, w.paletteAsk = some (slot, v) → v = p :=
    fun w hw v hv => hctx.materials key material hmaterial w hw tile hmem slot v p hv hask
  rw [switchMaterial_resolved hkey hmaterial]
  by_cases hsatisfied : known.satisfies material.state = true
  · -- nothing is written, and the material's tiles are among the known ones
    have htrusts : ctx.Trusts known key material slot p :=
      ⟨asked_of_satisfies Tile.Provides.paletteAsk hsatisfied ⟨tile, hmem, hask⟩, Or.inl hsatisfied⟩
    rw [if_pos hsatisfied]
    exact ⟨fun h _ => h, fun h => h htrusts⟩
  · rw [if_neg hsatisfied]
    have hcomment : ∀ text, UploadKind.palette.loads (ctx.shared.inline [.comment text]) = [] :=
      fun _ => rfl
    simp only [SharedMaterials.inline_append, UploadKind.loads_append, hcomment, List.nil_append,
      List.append_nil]
    rw [paletteLoads_materialCommands hctx known hmaterial]
    cases hname : ctx.shared.nameOf? key with
    | none =>
      dsimp only
      rw [lookup_missingLoads _ _ _ honly]
      by_cases hknown : Asked Tile.paletteAsk known.tiles.specified slot p
      · rw [if_neg fun h => h.2 hknown]
        exact ⟨fun h _ => h, fun h => h ⟨hknown, Or.inr (Or.inl hname)⟩⟩
      · rw [if_pos ⟨⟨tile, hmem, hask⟩, hknown⟩]
        exact ⟨fun _ htrusts => absurd htrusts.1 hknown, fun _ => rfl⟩
    | some list =>
      dsimp only
      rw [List.reverse_append, List.append_assoc, lookup_missingLoads _ _ _ honly]
      by_cases hrest : Asked Tile.paletteAsk
          (ctx.default.restrictedTo material.state).tiles.specified slot p
      · -- the list counts on the rest state, which the caller brings about
        rw [if_neg fun h => h.2 hrest]
        have hconsistent := hctx.default.restrictedTo material.state.tiles
        obtain ⟨other, hother, hotherAsk⟩ := hrest
        have honlyRest : ∀ w ∈ (ctx.default.restrictedTo material.state).tiles.specified, ∀ v,
            w.paletteAsk = some (slot, v) → v = p :=
          fun w hw v hv => hconsistent w hw other hother slot v p hv hotherAsk
        rw [lookup_missingLoads _ _ _ honlyRest]
        by_cases hknown : Asked Tile.paletteAsk known.tiles.specified slot p
        · rw [if_neg fun h => h.2 hknown]
          exact ⟨fun h _ => h, fun h => h ⟨hknown, Or.inr (Or.inr ⟨other, hother, hotherAsk⟩)⟩⟩
        · rw [if_pos ⟨⟨other, hother, hotherAsk⟩, hknown⟩]
          exact ⟨fun _ htrusts => absurd htrusts.1 hknown, fun _ => rfl⟩
      · rw [if_pos ⟨⟨tile, hmem, hask⟩, hrest⟩]
        refine ⟨fun _ htrusts => ?_, fun _ => rfl⟩
        rcases htrusts.2 with h | h | h
        · exact absurd h hsatisfied
        · rw [hname] at h
          simp at h
        · exact absurd h hrest

/-! ### Units -/

/-- The registers that are known after some sections. -/
def registersAfter (ctx : ExportContext) (start : MaterialState) (sections : List Section) :
    MaterialState :=
  sections.foldl (fun registers s => (ctx.switchMaterial registers s.batch).2) start

theorem registersAfter_append_singleton (start : MaterialState) (sections : List Section)
    (s : Section) :
    ctx.registersAfter start (sections ++ [s]) =
      (ctx.switchMaterial (ctx.registersAfter start sections) s.batch).2 := List.foldl_concat ..

/-- The registers of a draft are known from its sections, and every section was switched to from
what was known before it and then left the registers alone. -/
structure SwitchedFrom (ctx : ExportContext) (start : MaterialState) (draft : UnitDraft) : Prop where
  registers : draft.pipeline.registers = ctx.registersAfter start draft.sections
  sections : ∀ earlier s later, draft.sections = earlier ++ s :: later →
    s.switch = (ctx.switchMaterial (ctx.registersAfter start earlier) s.batch).1 ∧
      ∀ c ∈ s.drawing, c.touchesRegisters = false

theorem SwitchedFrom.writeBatch {start : MaterialState} {draft reached : UnitDraft} {batch : Batch}
    (h : ctx.SwitchedFrom start draft) (hwrite : ctx.writeBatch draft batch = (reached, none)) :
    ctx.SwitchedFrom start reached := by
  rcases writeBatch_section hwrite with rfl | ⟨s, rfl, hswitch, hfollows, _, hsections⟩
  · exact h
  · constructor
    · rw [hfollows.registers, hsections, registersAfter_append_singleton, ← h.registers]
      rfl
    · intro earlier t later hsplit
      rw [hsections] at hsplit
      rcases UnitDraft.split_append_singleton hsplit with ⟨_, rfl, rfl⟩ | ⟨start, _, hinit⟩
      · rw [← h.registers]
        exact ⟨hswitch, hfollows.inert⟩
      · exact h.sections earlier t start hinit

theorem switchedFrom_startDraft {name : String} {batches : List Batch} {nextBuffer : BufferId}
    {started : UnitDraft} (h : ctx.startDraft name batches nextBuffer = (started, none)) :
    ctx.SwitchedFrom started.pipeline.registers started := by
  have hempty := (startDraft_known h).1
  constructor
  · rw [hempty]
    rfl
  · simp [hempty]

theorem switchedFrom_draft {name : String} {batches : List Batch} {nextBuffer : BufferId}
    {draft : UnitDraft} (h : ctx.draft name batches nextBuffer = (draft, none)) :
    ctx.SwitchedFrom (ctx.startDraft name batches nextBuffer).1.pipeline.registers draft := by
  obtain ⟨started, hstarted, hwrite⟩ := draft_ok h
  rw [hstarted]
  exact writeBatches_induction (fun _ _ _ _ hdraft hreached => hdraft.writeBatch hreached) hwrite
    (switchedFrom_startDraft hstarted)

/-! ### The wall without shared lists -/

theorem onePalettePerSlot_of_wall : (Wall.context {}).OnePalettePerSlot where
  shared := ⟨{}, rfl⟩
  default := show Consistent Tile.paletteAsk Tiles.unspecified.specified by
    intro a ha
    simp [Tiles.specified, Tiles.unspecified] at ha
  materials := by
    intro key material h
    have hall : ∀ material ∈ Wall.scene.library.materials, ∀ a ∈ material.state.tiles.specified,
        ∀ b ∈ material.state.tiles.specified, a.paletteAsk = b.paletteAsk := by decide
    intro a ha b hb slot v w hv hw
    have hsame := hall material (List.mem_of_getElem? h) a ha b hb
    rw [hv, hw] at hsame
    simpa using hsame

/-- The third section of the wall is that of the second batch in moss, and it draws. -/
theorem drawsIn_of_wall :
    ∃ s, s.batch.material = some 1 ∧
      ((Wall.context {}).draft "wall" Wall.batches 0).1.DrawsIn
        (((Wall.context {}).draft "wall" Wall.batches 0).1.sections.take 2) s
        (((Wall.context {}).draft "wall" Wall.batches 0).1.prologue ++
          (((Wall.context {}).draft "wall" Wall.batches 0).1.sections.take 2).flatMap
            Section.commands ++ s.switch ++ []) ∧
      s.switch = [] := by
  have hfound : ((Wall.context {}).draft "wall" Wall.batches 0).1.sections[2]?.map
      (fun s => (s.batch.material, s.switch, s.drawing.head?.map Command.triangleCount)) =
        some (some 1, [], some 1) := by
    decide +kernel
  generalize ((Wall.context {}).draft "wall" Wall.batches 0).1 = draft at hfound ⊢
  obtain ⟨s, hs, hparts⟩ := Option.map_eq_some_iff.mp hfound
  simp only [Prod.mk.injEq] at hparts
  obtain ⟨hmaterial, hswitch, hdraws⟩ := hparts
  obtain ⟨c, hhead, hcount⟩ := Option.map_eq_some_iff.mp hdraws
  obtain ⟨rest, hdrawing⟩ := List.head?_eq_some_iff.mp hhead
  obtain ⟨hlt, hget⟩ := List.getElem?_eq_some_iff.mp hs
  refine ⟨s, hmaterial, ⟨draft.sections.drop 3, [], c, rest, ?_, hdrawing, by omega, rfl⟩, hswitch⟩
  rw [← hget, ← List.drop_eq_getElem_cons hlt, List.take_append_drop]

theorem exists_unit_of_wall :
    ∃ unit, ((Wall.context {}).compileUnit "wall" Wall.batches 0).result = .ok unit :=
  exists_compileUnit (by decide +kernel)

/-! ### Draws -/

/-- **When the palettes are in place.**  At a draw for a batch with a material, every palette that
the material asks for is in its slot exactly if those were in their slots before the batch whose
upload was left out, because the registers known after the earlier batches speak of them. -/
theorem palettes_at_draw_iff (hctx : ctx.OnePalettePerSlot) {name : String} {batches : List Batch}
    {nextBuffer : BufferId} {unit : CompiledUnit}
    (hunit : (ctx.compileUnit name batches nextBuffer).result = .ok unit)
    {earlier : List Section} {s : Section} {before : List Command}
    (hdraw : (ctx.draft name batches nextBuffer).1.DrawsIn earlier s before)
    {key : MaterialKey} {material : Material} (hkey : s.batch.material = some key)
    (hmaterial : ctx.scene.library.get? key = some material) :
    (∀ slot p, Asked Tile.paletteAsk material.state.tiles.specified slot p →
      (paletteMemory ctx.default.tiles (ctx.shared.inline before)).lookup slot = some p) ↔
    ∀ slot p, Asked Tile.paletteAsk material.state.tiles.specified slot p →
      ctx.Trusts (ctx.registersAfter
          (ctx.startDraft name batches nextBuffer).1.pipeline.registers earlier)
        key material slot p →
      (paletteMemory ctx.default.tiles (ctx.shared.inline
        ((ctx.draft name batches nextBuffer).1.prologue ++
          earlier.flatMap Section.commands))).lookup slot = some p := by
  obtain ⟨draft, _, hdraft, _⟩ := compileUnit_ok hunit
  rw [hdraft] at hdraw ⊢
  obtain ⟨later, drawn, c, rest, hsections, hdrawing, _, rfl⟩ := hdraw
  obtain ⟨hswitch, hinert⟩ := (switchedFrom_draft hdraft).sections earlier s later hsections
  -- drawing loads no palettes, so the slots are as the switch left them
  have hdrawn : ∀ c ∈ drawn, c.touchesRegisters = false := by
    intro d hd
    exact hinert d (by rw [hdrawing]; exact List.mem_append_left _ hd)
  have hinline : ctx.shared.inline drawn = drawn :=
    ctx.shared.inline_eq_self fun c hc => Command.isCall_of_not_touches (hdrawn c hc)
  have hloads : UploadKind.palette.loads drawn = [] :=
    UploadKind.palette.loads_eq_nil fun c hc => Command.isUpload_of_not_touches (hdrawn c hc)
  have hmemory : paletteMemory ctx.default.tiles (ctx.shared.inline
      (draft.prologue ++ earlier.flatMap Section.commands ++ s.switch ++ drawn)) =
      (UploadKind.palette.loads (ctx.shared.inline s.switch)).reverse ++
        paletteMemory ctx.default.tiles
          (ctx.shared.inline (draft.prologue ++ earlier.flatMap Section.commands)) := by
    rw [SharedMaterials.inline_append, hinline, paletteMemory_append, hloads,
      SharedMaterials.inline_append _ _ s.switch, paletteMemory_append]
    rfl
  rw [hmemory, hswitch]
  refine forall_congr' fun slot => forall_congr' fun p => forall_congr' fun hasked => ?_
  exact lookup_switchMaterial hctx _ _ hkey hmaterial hasked

/-- At the third draw of the wall, what is trusted is the palette of moss. -/
theorem palettes_at_draw_of_wall :
    ∃ earlier s before, ((Wall.context {}).draft "wall" Wall.batches 0).1.DrawsIn earlier s before ∧
      ((∀ slot p, Asked Tile.paletteAsk Wall.moss.state.tiles.specified slot p →
        (paletteMemory (Wall.context {}).default.tiles
          ((Wall.context {}).shared.inline before)).lookup slot = some p) ↔
      ∀ slot p, Asked Tile.paletteAsk Wall.moss.state.tiles.specified slot p →
        (Wall.context {}).Trusts ((Wall.context {}).registersAfter
            ((Wall.context {}).startDraft "wall" Wall.batches 0).1.pipeline.registers earlier)
          1 Wall.moss slot p →
        (paletteMemory (Wall.context {}).default.tiles ((Wall.context {}).shared.inline
          (((Wall.context {}).draft "wall" Wall.batches 0).1.prologue ++
            earlier.flatMap Section.commands))).lookup slot = some p) := by
  obtain ⟨unit, hunit⟩ := exists_unit_of_wall
  obtain ⟨s, hmaterial, hdraw, _⟩ := drawsIn_of_wall
  exact ⟨_, s, _, hdraw,
    palettes_at_draw_iff onePalettePerSlot_of_wall hunit hdraw hmaterial rfl⟩

/-- **A palette that is overwritten.**  Moss and rust use different tiles and different addresses
but the same palette slot. When the wall is drawn in moss again, all registers are known to be in
place and nothing is written, but the slot holds the palette of rust. -/
theorem palette_overwritten_of_wall :
    (Wall.context {}).OnePalettePerSlot ∧
      (∀ material ∈ Wall.scene.library.materials,
        Consistent Tile.textureAsk material.state.tiles.specified) ∧
      (∃ unit, ((Wall.context {}).compileUnit "wall" Wall.batches 0).result = .ok unit) ∧
      ∃ batch before, ((Wall.context {}).draft "wall" Wall.batches 0).1.DrawsFor batch before ∧
        batch.material = some 1 ∧ (Wall.context {}).scene.library.get? 1 = some Wall.moss ∧
        Asked Tile.paletteAsk Wall.moss.state.tiles.specified 0 ⟨"green", 16⟩ ∧
        (paletteMemory (Wall.context {}).default.tiles
          ((Wall.context {}).shared.inline before)).lookup 0 = some ⟨"red", 16⟩ := by
  refine ⟨onePalettePerSlot_of_wall, ?_, exists_unit_of_wall, ?_⟩
  · have hcoherent : ∀ material ∈ Wall.scene.library.materials, material.state.Coherent := by decide
    intro material hmaterial
    exact (hcoherent material hmaterial).consistent
  · obtain ⟨s, hmaterial, hdraw, hswitch⟩ := drawsIn_of_wall
    rw [hswitch] at hdraw
    refine ⟨s.batch, _, ⟨_, s, hdraw, rfl⟩, hmaterial, rfl, by decide, ?_⟩
    decide +kernel

end ExportContext

end SceneCompiler
