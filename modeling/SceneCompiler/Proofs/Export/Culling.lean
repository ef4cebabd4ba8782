import SceneCompiler.Proofs.Export.Units
import SceneCompiler.Proofs.Unit.Culling
import SceneCompiler.Proofs.Unit.Registers

/-!
# Units with a test of their bounding box

The test at the start of a unit is the only part of it that can go beyond the vertex cache: it loads
eight corners, while a cache of three slots is accepted (`Scene.staysWithin_iff`,
`Scene.box_beyond_cache_of_arm`). It is also the only place where a unit can end early. The matrix
stack is empty there, but lighting has been turned off for the corners and not been turned on again,
so an early end leaves the pipeline at rest only if the rest state does not ask for lighting
(`Scene.rest_at_early_end_iff`, `Scene.unlit_at_early_end_of_lamp`).
-/

namespace SceneCompiler

theorem Culling.staysWithin_or_corners {default : MaterialState} {buffer : BufferId}
    {capacity : Nat} {c : Command} (h : c ∈ commands default buffer) :
    c.StaysWithin capacity ∨
      (c = .loadVertices buffer 0 cornerCount 0 ∨ c = .cullList cornerCount) := by
  rcases List.mem_append.mp h with h | h
  · simp only [List.mem_cons, List.not_mem_nil, or_false] at h
    rcases h with rfl | hcorners
    · exact Or.inl trivial
    · exact Or.inr hcorners
  · split at h
    · obtain rfl := List.mem_singleton.mp h
      exact Or.inl trivial
    · simp at h

/-- The arm with lighting on at rest. -/
def Lamp.scene : Scene where
  skeleton := Arm.skeleton
  library.materials :=
    [{ name := "default"
       state.geometry := { on := GeometryMode.lighting.bit, known := GeometryMode.lighting.bit } }]
  meshes := [Arm.mesh]

namespace Scene

variable {scene : Scene} {settings : Settings} {requests : List UnitRequest} {e : Export}
  {unit : CompiledUnit}

theorem exists_confined (h : scene.compileUnits settings requests = .ok e)
    (hunit : unit ∈ e.units) :
    ∃ rest, unit.displayList.commands =
        (unit.cullingBuffer.toList.flatMap fun buffer =>
          Culling.commands (scene.defaultState settings) buffer.id) ++ rest ∧
      ∀ c ∈ rest, c.IsConfined settings.vertexCacheSize := by
  obtain ⟨haccepted, request, _, nextBuffer, _, hcompiled⟩ := mem_units h hunit
  have hsize : 0 < (scene.contextFor settings requests).settings.vertexCacheSize :=
    Nat.lt_of_lt_of_le (by decide) (Settings.vertexCacheSize_of_accepted haccepted).1
  exact (ExportContext.exists_confined hsize hcompiled :)

/-- **What stays within the vertex cache.**  Every command of a unit stays within the cache that the
settings give, apart from the two of the test that load and look at the corners of its bounding
box. So a unit stays within the cache exactly if it has no such test or the cache has room for the
corners. -/
theorem staysWithin_iff (h : scene.compileUnits settings requests = .ok e)
    (hunit : unit ∈ e.units) :
    (∀ c ∈ unit.displayList.commands, c.StaysWithin settings.vertexCacheSize ∨
        ∃ buffer, unit.cullingBuffer = some buffer ∧
          (c = .loadVertices buffer.id 0 Culling.cornerCount 0 ∨
            c = .cullList Culling.cornerCount)) ∧
      ((∀ c ∈ unit.displayList.commands, c.StaysWithin settings.vertexCacheSize) ↔
        unit.cullingBuffer = none ∨ Culling.cornerCount ≤ settings.vertexCacheSize) := by
  obtain ⟨rest, hcommands, hrest⟩ := exists_confined h hunit
  have hparts : ∀ c ∈ unit.displayList.commands, c.StaysWithin settings.vertexCacheSize ∨
      ∃ buffer, unit.cullingBuffer = some buffer ∧
        (c = .loadVertices buffer.id 0 Culling.cornerCount 0 ∨
          c = .cullList Culling.cornerCount) := by
    intro c hc
    rw [hcommands] at hc
    rcases List.mem_append.mp hc with hc | hc
    · obtain ⟨buffer, hbuffer, hc⟩ := List.mem_flatMap.mp hc
      exact (Culling.staysWithin_or_corners hc).imp_right fun hcorners =>
        ⟨buffer, Option.mem_toList.mp hbuffer, hcorners⟩
    · exact Or.inl (hrest c hc).within
  refine ⟨hparts, fun hall => ?_, ?_⟩
  · cases hculling : unit.cullingBuffer with
    | none => exact Or.inl rfl
    | some buffer =>
      have hmem : Command.cullList Culling.cornerCount ∈ unit.displayList.commands := by
        rw [hcommands, hculling]
        simp [Culling.commands]
      exact Or.inr (hall _ hmem)
  · rintro hfits c hc
    rcases hparts c hc with hwithin | ⟨buffer, hculling, hcorners⟩
    · exact hwithin
    · have hroom : Culling.cornerCount ≤ settings.vertexCacheSize :=
        hfits.resolve_left (by simp [hculling])
      rcases hcorners with rfl | rfl
      · exact (Nat.zero_add _).trans_le hroom
      · exact hroom

theorem staysWithin_iff_of_arm :
    ∃ e unit, Arm.scene.compileUnits Arm.settings Arm.requests = .ok e ∧ unit ∈ e.units ∧
      ((∀ c ∈ unit.displayList.commands, c.StaysWithin Arm.settings.vertexCacheSize) ↔
        unit.cullingBuffer = none ∨ Culling.cornerCount ≤ Arm.settings.vertexCacheSize) := by
  obtain ⟨e, unit, hexport, hunit, _⟩ := exists_unit_of_any Arm.scene Arm.settings
    Arm.requests (fun _ => true) (by decide +kernel)
  exact ⟨e, unit, hexport, hunit, (staysWithin_iff hexport hunit).2⟩

/-- The settings of the arm are accepted, with a cache of three slots, and its corners are loaded
into eight. -/
theorem box_beyond_cache_of_arm :
    ∃ e unit c, Arm.scene.compileUnits Arm.settings Arm.requests = .ok e ∧ unit ∈ e.units ∧
      c ∈ unit.displayList.commands ∧ c = .loadVertices 0 0 8 0 ∧
        ¬ c.StaysWithin Arm.settings.vertexCacheSize := by
  obtain ⟨e, unit, hexport, hunit, hloads⟩ := exists_unit_of_any Arm.scene Arm.settings
    Arm.requests (fun unit => .loadVertices 0 0 8 0 ∈ unit.displayList.commands) (by decide +kernel)
  exact ⟨e, unit, _, hexport, hunit, by simpa using hloads, rfl, show ¬ 0 + 8 ≤ 3 by decide⟩

/-- **Where a unit can end early.**  A unit can end early if it has a test of its bounding box, and
then at this test only. The matrix stack is empty there. The registers are those from before the
unit except that lighting is off, so, when the unit was started at rest, they are at rest exactly if
the rest state does not ask for lighting. -/
theorem rest_at_early_end_iff (h : scene.compileUnits settings requests = .ok e)
    (hunit : unit ∈ e.units) :
    ((∃ c ∈ unit.displayList.commands, c.canEnd = true) ↔ unit.cullingBuffer.isSome = true) ∧
      ∀ before c after, unit.displayList.commands = before ++ c :: after → c.canEnd = true →
        BoneStack.run? [] (before ++ [c]) = some [] ∧
        ∀ start : MaterialState, start.satisfies (scene.defaultState settings) = true →
          start.execute (before ++ [c]) =
              { start with geometry := start.geometry.write GeometryMode.lighting.bit 0 } ∧
            ((start.execute (before ++ [c])).satisfies (scene.defaultState settings) = true ↔
              (scene.defaultState settings).usesLighting = false) := by
  obtain ⟨rest, hcommands, hrest⟩ := exists_confined h hunit
  have hnot : ∀ {c}, c ∈ rest → c.canEnd ≠ true := fun hc hend => by
    simp [(hrest _ hc).goesOn] at hend
  constructor
  · constructor
    · rintro ⟨c, hc, hend⟩
      rw [hcommands] at hc
      rcases List.mem_append.mp hc with hc | hc
      · obtain ⟨buffer, hbuffer, _⟩ := List.mem_flatMap.mp hc
        rw [Option.mem_toList.mp hbuffer]
        rfl
      · exact absurd hend (hnot hc)
    · intro hculling
      obtain ⟨buffer, hbuffer⟩ := Option.isSome_iff_exists.mp hculling
      refine ⟨.cullList Culling.cornerCount, ?_, rfl⟩
      rw [hcommands, hbuffer]
      simp [Culling.commands]
  · intro before c after hsplit hend
    rw [hcommands] at hsplit
    rcases ExportContext.append_eq_append_cons hsplit with ⟨tail, hin⟩ | ⟨inner, _, hin⟩
    · -- the split is one of the test, since there is at most one buffer of corners
      obtain ⟨buffer, hbuffer⟩ : ∃ buffer, unit.cullingBuffer = some buffer := by
        cases hculling : unit.cullingBuffer with
        | none => simp [hculling] at hin
        | some buffer => exact ⟨buffer, rfl⟩
      rw [hbuffer, Option.toList_some, List.flatMap_singleton] at hin
      obtain ⟨rfl, rfl⟩ := Culling.split_commands hin hend
      exact ⟨rfl, fun start hstart => ⟨rfl, Culling.satisfies_at_test hstart⟩⟩
    · exact absurd hend (hnot (hin ▸ List.mem_append_right inner List.mem_cons_self))

theorem rest_at_early_end_iff_of_lamp :
    ∃ e unit, Lamp.scene.compileUnits Arm.settings Arm.requests = .ok e ∧ unit ∈ e.units ∧
      (∃ c ∈ unit.displayList.commands, c.canEnd = true) ∧
      ∀ before c after, unit.displayList.commands = before ++ c :: after → c.canEnd = true →
        BoneStack.run? [] (before ++ [c]) = some [] ∧
        (((Lamp.scene.defaultState Arm.settings).execute (before ++ [c])).satisfies
            (Lamp.scene.defaultState Arm.settings) = true ↔
          (Lamp.scene.defaultState Arm.settings).usesLighting = false) := by
  obtain ⟨e, unit, hexport, hunit, hculling⟩ := exists_unit_of_any Lamp.scene Arm.settings
    Arm.requests (·.cullingBuffer.isSome) (by decide +kernel)
  obtain ⟨hends, hsplits⟩ := rest_at_early_end_iff hexport hunit
  refine ⟨e, unit, hexport, hunit, hends.mpr hculling, fun before c after hsplit hend => ?_⟩
  obtain ⟨hstack, hrest⟩ := hsplits before c after hsplit hend
  exact ⟨hstack, (hrest _ (MaterialState.satisfies_refl _)).2⟩

/-- Lighting is on at rest, and off where the list can end. -/
theorem unlit_at_early_end_of_lamp :
    ∃ e unit after, Lamp.scene.compileUnits Arm.settings Arm.requests = .ok e ∧ unit ∈ e.units ∧
      unit.displayList.commands = [.setGeometryMode GeometryMode.lighting.bit 0,
        .loadVertices 0 0 8 0, .cullList 8] ++ after ∧
      ((Lamp.scene.defaultState Arm.settings).execute [.setGeometryMode GeometryMode.lighting.bit 0,
        .loadVertices 0 0 8 0, .cullList 8]).satisfies (Lamp.scene.defaultState Arm.settings) =
          false := by
  obtain ⟨e, unit, hexport, hunit, htest⟩ := exists_unit_of_any Lamp.scene Arm.settings
    Arm.requests (fun unit => unit.displayList.commands.take 3 =
      [.setGeometryMode GeometryMode.lighting.bit 0, .loadVertices 0 0 8 0, .cullList 8])
    (by decide +kernel)
  refine ⟨e, unit, unit.displayList.commands.drop 3, hexport, hunit, ?_, by decide +kernel⟩
  rw [← of_decide_eq_true htest, List.take_append_drop]

end Scene

end SceneCompiler
