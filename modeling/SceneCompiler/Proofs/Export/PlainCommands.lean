import SceneCompiler.Export
import SceneCompiler.Proofs.Unit.PlainCommands

/-!
# Exports in plain commands

Whether the hardware can draw two triangles by one command, and whether it can take several matrices
off the stack by one command, is of no consequence for anything else in an export. Two exports that
differ in these settings only are the same once their units are written in plain commands
(`Scene.plain_compileUnits`): the same units fail for the same reasons, with the same reports,
buffers and shared lists.
-/

namespace SceneCompiler

/-- The export with its units in plain commands, and everything else as it is. -/
def Export.plain (e : Export) : Export := { e with units := e.units.map CompiledUnit.plain }

namespace ExportContext

theorem plain_compileAll (ctx : ExportContext) (nextBuffer : BufferId) (units : List OrderedUnit) :
    ctx.plain.compileAll nextBuffer units =
      { ctx.compileAll nextBuffer units with
        units := (ctx.compileAll nextBuffer units).units.map CompiledUnit.plain } := by
  induction units generalizing nextBuffer with
  | nil => rfl
  | cons unit rest ih =>
    unfold compileAll
    rw [plain_compileUnit]
    generalize ctx.compileUnit unit.name unit.batches nextBuffer = outcome
    obtain ⟨result, next, diagnostics⟩ := outcome
    cases result with
    | error failure => simp [UnitOutcome.plain, Except.map, ih]
    | ok compiled => simp [UnitOutcome.plain, Except.map, ih]

end ExportContext

namespace Scene

variable (scene : Scene) (settings : Settings)

/-- What is planned does not depend on what the hardware can do by one command. -/
theorem plan_plain (requests : List UnitRequest) :
    scene.plan settings.plain requests = scene.plan settings requests := by
  have hextract : ∀ ids : List MeshId,
      scene.extractBatches settings.plain ids = scene.extractBatches settings ids := by
    intro ids
    induction ids with
    | nil => rfl
    | cons id rest ih =>
      unfold extractBatches
      rw [ih]
      rfl
  induction requests with
  | nil => rfl
  | cons request rest ih =>
    unfold plan
    rw [hextract, ih]
    rfl

/-- **Exporting in plain commands.**  For hardware that has only plain commands, the export is the
one for any other hardware, in plain commands. -/
theorem compileUnits_plain (requests : List UnitRequest) :
    scene.compileUnits settings.plain requests =
      (scene.compileUnits settings requests).map Export.plain := by
  have haccepted : settings.plain.error? = settings.error? := rfl
  have hcontext : ∀ uses, scene.exportContext settings.plain uses =
      (scene.exportContext settings uses).plain := fun _ => rfl
  unfold compileUnits
  rw [haccepted]
  cases settings.error? with
  | some refusal => rfl
  | none =>
    dsimp only
    rw [plan_plain, hcontext, ExportContext.plain_compileAll]
    rfl

/-- **Fast commands do not change the program.**  Take any settings, and change whether one command
can draw two triangles and whether one command can take several matrices off the stack. Then both
exports are refused alike, or they become the same when each pair of triangles is drawn one by one
and matrices are taken off one by one: the same units with the same buffers, the same shared lists,
failures and reports. -/
theorem plain_compileUnits (requests : List UnitRequest) (drawsPairs popsMany : Bool) :
    (scene.compileUnits { settings with drawsPairs, popsMany } requests).map Export.plain =
      (scene.compileUnits settings requests).map Export.plain := by
  rw [← compileUnits_plain, ← compileUnits_plain]
  rfl

end Scene

end SceneCompiler
