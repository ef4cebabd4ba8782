import SceneCompiler.Command
import SceneCompiler.Number.Cost

/-!
# Timing

Estimated costs of commands. They only serve to compare orders of drawing, so they come from a table
that a user can replace, and they are added up in any kind of number that can serve as a cost.
-/

namespace SceneCompiler

/-- The estimated cost of each kind of command. -/
structure Timing (C : Type) where
  pipeSync : C
  /-- Waiting for tiles or for loads. -/
  minorSync : C
  otherMode : C
  geometryMode : C
  combine : C
  renderMode : C
  /-- Setting any of the colors. -/
  color : C
  textureState : C
  textureImage : C
  loadBlock : C
  loadBlockPerByte : C
  loadPalettePerColor : C
  setTile : C
  setTileSize : C
  /-- Taking any number of matrices off the stack. -/
  matrixPop : C
  /-- Putting one matrix on the stack. -/
  matrixPush : C

namespace Timing

variable {C : Type}

/-- The estimates used unless others are given. -/
def standard : Timing Cost where
  pipeSync := .ofFloat 50
  minorSync := .ofFloat 10
  otherMode := .ofFloat 6
  geometryMode := .ofFloat 8
  combine := .ofFloat 6
  renderMode := .ofFloat 6
  color := .ofFloat 4
  textureState := .ofFloat 8
  textureImage := .ofFloat 4
  loadBlock := .ofFloat 40
  loadBlockPerByte := .ofFloat 0.125
  loadPalettePerColor := .ofFloat 0.5
  setTile := .ofFloat 6
  setTileSize := .ofFloat 6
  matrixPop := .ofFloat 120
  matrixPush := .ofFloat 300

def writeCost (timing : Timing C) : Register → C
  | .mode _ => timing.otherMode
  | .combine => timing.combine
  | .renderMode => timing.renderMode
  | .primitiveColor => timing.color
  | .environmentColor => timing.color
  | .fillColor => timing.color
  | .fogColor => timing.color
  | .blendColor => timing.color
  | .texture => timing.textureState

variable [CostScale C]

def stateCost (timing : Timing C) : StateCommand → C
  | .pipeSync => timing.pipeSync
  | .tileSync => timing.minorSync
  | .loadSync => timing.minorSync
  | .write register _ => timing.writeCost register
  | .touchMode _ => timing.otherMode
  | .setTextureImage _ => timing.textureImage
  | .loadBlock texture _ =>
    timing.loadBlock + CostScale.ofNat texture.byteCount * timing.loadBlockPerByte
  | .loadPalette palette _ => CostScale.ofNat palette.colorCount.toNat * timing.loadPalettePerColor
  | .setTile _ _ => timing.setTile
  | .setTileSize _ _ => timing.setTileSize

/-- The cost of a command. Drawing is the same in every order and costs nothing here. -/
def cost (timing : Timing C) : Command → C
  | .setGeometryMode _ _ => timing.geometryMode
  | .popMatrix _ => timing.matrixPop
  | .pushMatrix _ => timing.matrixPush
  | .state command => timing.stateCost command
  | .loadVertices .. | .triangle _ | .trianglePair _ _ | .callList _ | .cullList _ | .comment _ => 0

/-- The cost of moving the matrix stack. All pops together cost one. -/
def matrixCost (timing : Timing C) (pops pushes : Nat) : C :=
  (if 0 < pops then timing.matrixPop else 0) + CostScale.ofNat pushes * timing.matrixPush

/-- The cost of a list of commands, added up in order. -/
def total (timing : Timing C) (commands : List Command) : C :=
  commands.foldl (fun sum command => sum + timing.cost command) 0

end Timing

end SceneCompiler
