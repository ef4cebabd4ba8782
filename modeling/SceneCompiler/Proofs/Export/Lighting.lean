import SceneCompiler.Proofs.Export.Units
import SceneCompiler.Proofs.Unit.Lighting

/-!
# Lighting in an export

Vertices with colors are never drawn lit, and vertices with normals never unlit: whenever a unit of
an export draws, the vertices in the slots that it reads come from a buffer in the layout that the
lighting switch calls for (`Scene.layouts_compileUnits`).
-/

namespace SceneCompiler

/-- Commands with the shared lists of an export in place of their calls. -/
def Export.inline (e : Export) (commands : List Command) : List Command :=
  commands.flatMap fun c =>
    match c with
    | .callList name => ((e.sharedMaterials.find? (·.name = name)).map (·.commands)).getD []
    | c => [c]

theorem Export.inline_eq {scene : Scene} {settings : Settings} {requests : List UnitRequest}
    {e : Export} (h : scene.compileUnits settings requests = .ok e) (commands : List Command) :
    e.inline commands = (scene.contextFor settings requests).shared.inline commands := by
  have hlists : e.sharedMaterials = (scene.contextFor settings requests).shared.lists := by
    unfold Scene.compileUnits at h
    split at h
    · simp at h
    · obtain rfl := Except.ok.inj h
      rfl
  refine List.flatMap_congr fun c _ => ?_
  cases c with
  | callList name =>
    dsimp only
    rw [hlists]
    rfl
  | _ => rfl

theorem Processor.run?_singleton (proc : Processor) (c : Command) :
    proc.run? [c] = proc.step? c := by
  rw [run?_cons]
  exact Option.bind_fun_some _

/-- The lists that units call leave the geometry processor alone. -/
theorem Processor.run?_inline {uses : MaterialUses} {library : MaterialLibrary}
    {default : MaterialState} (proc : Processor) (commands : List Command) :
    proc.run? ((SharedMaterials.build uses library default).inline commands) =
      proc.run? commands := by
  induction commands generalizing proc with
  | nil => rfl
  | cons c rest ih =>
    have hstep : proc.run? ((SharedMaterials.build uses library default).expand c) =
        proc.step? c := by
      cases c with
      | callList name =>
        refine proc.run?_of_inert fun d hd => ?_
        have htouches := (SharedMaterials.mem_commandsOf_build hd).1
        exact ⟨Command.usesSlots_of_touches htouches, Command.isMatrix_of_touches htouches⟩
      | _ => exact run?_singleton proc _
    rw [SharedMaterials.inline, List.flatMap_cons, run?_append, hstep, run?_cons]
    exact congrArg _ (funext fun reached => ih reached)

/-! ### Dusk

An arm that is lit at rest, and a stone in a material that turns lighting off. -/

namespace Dusk

def flat : Material where
  name := "flat"
  state.geometry := { known := GeometryMode.lighting.bit }

def stone : Surface Float32 where
  positions := [0, 1, 2].map fun x => ⟨x, 0, 0⟩
  faces := [⟨0, 1, 2⟩]

def scene : Scene where
  skeleton := Arm.skeleton
  library.materials :=
    [{ name := "default"
       state.geometry := { on := GeometryMode.lighting.bit, known := GeometryMode.lighting.bit } },
      flat]
  meshes := [Arm.mesh, .unskinned "stone" stone none "flat"]

/-- Both together, and the stone alone, so that both units call the list of its material. -/
def requests : List UnitRequest := [⟨"dusk", [0, 1]⟩, ⟨"stone", [1]⟩]

end Dusk

namespace Scene

variable {scene : Scene} {settings : Settings} {requests : List UnitRequest} {e : Export}
  {unit : CompiledUnit}

/-- **Layouts match lighting.**  Let a unit be run from the rest state, the shared lists in place of
their calls. At every command that draws, each slot that is read holds a vertex of a buffer of the
unit, and this buffer has normals if lighting is known to be on there, and colors otherwise. -/
theorem layouts_compileUnits (h : scene.compileUnits settings requests = .ok e)
    (hunit : unit ∈ e.units) :
    ∀ before c after, unit.displayList.commands = before ++ c :: after → 0 < c.triangleCount →
      ∃ proc, Processor.run? {} (e.inline before) = some proc ∧
        ∀ slot ∈ c.slots, ∃ key buffer, proc.slots slot = some key ∧
          unit.buffer? key.buffer = some buffer ∧
          buffer.layout =
            if ((scene.defaultState settings).execute (e.inline before)).usesLighting then .normal
            else .color := by
  intro before c after hsplit hc
  obtain ⟨haccepted, request, _, nextBuffer, _, hcompiled⟩ := mem_units h hunit
  have hsize := (Settings.vertexCacheSize_of_accepted haccepted).2
  obtain ⟨hnumbered, _⟩ := ExportContext.renders_unit hsize hcompiled
  have hshared : (scene.contextFor settings requests).shared =
      .build (.ofUnits ((scene.plan settings requests).units.map (·.batches)))
        (scene.contextFor settings requests).scene.library
        (scene.contextFor settings requests).default := rfl
  obtain ⟨proc, hproc, hreads⟩ :=
    ExportContext.layouts_at_draws hsize hshared hcompiled hc hsplit
  rw [Export.inline_eq h]
  refine ⟨proc, ?_, fun slot hslot => ?_⟩
  · rw [hshared, Processor.run?_inline]
    exact hproc
  · obtain ⟨key, hkey, buffer, hbuffer, hid, hlayout⟩ := hreads slot hslot
    refine ⟨key, buffer, hkey, ?_, hlayout⟩
    rw [← hid]
    exact CompiledUnit.buffer?_of_mem hnumbered (List.mem_append_left _ hbuffer)

theorem layouts_compileUnits_of_dusk :
    ∃ e unit, Dusk.scene.compileUnits Arm.settings Dusk.requests = .ok e ∧ unit ∈ e.units ∧
      unit.cullingBuffer.isSome = true ∧
      unit.vertexBuffers.map (·.layout) = [.color, .normal] ∧
      ∀ before c after, unit.displayList.commands = before ++ c :: after → 0 < c.triangleCount →
        ∃ proc, Processor.run? {} (e.inline before) = some proc ∧
          ∀ slot ∈ c.slots, ∃ key buffer, proc.slots slot = some key ∧
            unit.buffer? key.buffer = some buffer ∧
            buffer.layout =
              if ((Dusk.scene.defaultState Arm.settings).execute (e.inline before)).usesLighting
              then .normal else .color := by
  obtain ⟨e, unit, hexport, hunit, htest⟩ := exists_unit_of_any Dusk.scene Arm.settings
    Dusk.requests (fun unit => unit.cullingBuffer.isSome &&
      unit.vertexBuffers.map (·.layout) = [.color, .normal]) (by decide +kernel)
  simp only [Bool.and_eq_true, decide_eq_true_eq] at htest
  exact ⟨e, unit, hexport, hunit, htest.1, htest.2, layouts_compileUnits hexport hunit⟩

end Scene

end SceneCompiler
