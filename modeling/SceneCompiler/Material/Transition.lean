import SceneCompiler.Material.State
import SceneCompiler.Timing

/-!
# Transitions

The commands that take the registers from one state to another, and what they cost. A register is
written when the target fixes it and it is not known to hold that value. A texture or palette is
uploaded when no tile of the current state shows that it is in place and no earlier tile of the
target has already asked for it.

A transition that writes anything starts by waiting for all drawing.
-/

namespace SceneCompiler.MaterialState

def registerWrites (registers : List Register) (current target : Registers) : List Command :=
  registers.filterMap fun r =>
    match target.get r with
    | some value => if current.get r = some value then none else some (.state (.write r value))
    | none => none

def geometryWrites (current target : GeometryRegister) : List Command :=
  let missing := current.missing target
  if missing = 0 then []
  else [.setGeometryMode (missing &&& ~~~target.on) (missing &&& target.on)]

def uploadTexture (texture : Texture) (address : UInt16) : List Command :=
  [.state .tileSync, .state (.setTextureImage texture), .state .loadSync,
    .state (.loadBlock texture address), .state .pipeSync]

def uploadPalette (palette : Palette) (slot : UInt8) : List Command :=
  [.state .tileSync, .state (.loadPalette palette slot), .state .pipeSync]

/-- The upload that a wanted tile's texture needs, given the tiles that tell what is in place. -/
def textureUploads (inPlace : List Tile) (wanted : Tile) : List Command :=
  match wanted.texture with
  | some texture =>
    if inPlace.any (·.holdsTexture texture wanted.params.address) then []
    else uploadTexture texture wanted.params.address
  | none => []

/-- The upload that a wanted tile's palette needs, given the tiles that tell what is in place. -/
def paletteUploads (inPlace : List Tile) (wanted : Tile) : List Command :=
  match wanted.texture.bind (·.palette) with
  | some palette =>
    if inPlace.any (·.holdsPalette palette wanted.params.palette) then []
    else uploadPalette palette wanted.params.palette
  | none => []

def descriptorWrites (place : Nat) (current : Option Tile) (wanted : Tile) : List Command :=
  (if current.map (·.params) = some wanted.params then []
    else [.state (.setTile place wanted.params)]) ++
  (if current.map (·.size) = some wanted.size then []
    else [.state (.setTileSize place wanted.size)])

/-- The commands for the tiles from one place on, given the tiles that tell what is in place. -/
def tileWritesFrom (inPlace : List Tile) (place : Nat) :
    List (Option Tile × Option Tile) → List Command
  | [] => []
  | (_, none) :: rest => tileWritesFrom inPlace (place + 1) rest
  | (current, some wanted) :: rest =>
    textureUploads inPlace wanted ++ paletteUploads inPlace wanted ++
      descriptorWrites place current wanted ++
      tileWritesFrom (inPlace ++ [wanted]) (place + 1) rest

def tileWrites (current target : Tiles) : List Command :=
  tileWritesFrom current.specified 0 (current.toList.zip target.toList)

/-- The commands that take the registers from `current` to `target`, without the wait at the
start. -/
def writes (current target : MaterialState) : List Command :=
  registerWrites Register.leading current.registers target.registers ++
    geometryWrites current.geometry target.geometry ++
    registerWrites Register.trailing current.registers target.registers ++
    tileWrites current.tiles target.tiles

/-- The commands that take the registers from `current` to `target`. -/
def transition (current target : MaterialState) : List Command :=
  match writes current target with
  | [] => []
  | commands => .state .pipeSync :: commands

end SceneCompiler.MaterialState

namespace SceneCompiler

/-- The cost of the commands that take the registers from `current` to `target`. -/
def Timing.transitionCost {C : Type} [CostScale C] (timing : Timing C)
    (current target : MaterialState) : C :=
  match MaterialState.writes current target with
  | [] => 0
  | commands => timing.total commands + timing.pipeSync

end SceneCompiler
