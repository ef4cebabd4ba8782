import SceneCompiler.Command
import SceneCompiler.Material.State

/-!
# Executing register commands

What a list of commands does to a material state. Texture memory remembers the last texture loaded
at each address. Before the first command it holds what the tiles sample, and where two tiles
disagree, what the later one does. A load changes every tile at its address, and a tile that is
moved samples what lies at its new address. All other commands leave the state alone.
-/

namespace SceneCompiler

/-- The textures in memory by address, the latest load first. -/
abbrev TextureMemory := List (UInt16 × Texture)

namespace TextureMemory

def get? (memory : TextureMemory) (address : UInt16) : Option Texture := memory.lookup address

def ofTiles (tiles : Tiles) : TextureMemory :=
  tiles.specified.reverse.filterMap fun tile => tile.texture.map (tile.params.address, ·)

end TextureMemory

namespace Tiles

def load (tiles : Tiles) (texture : Texture) (address : UInt16) : Tiles :=
  tiles.map fun tile => tile.map fun tile =>
    if tile.params.address = address then { tile with texture := some texture } else tile

/-- The tiles with one of them changed, starting from an empty descriptor if it is open. -/
def modify (tiles : Tiles) (place : Nat) (change : Tile → Tile) : Tiles :=
  tiles.mapFinIdx fun i tile _ => if i = place then some (change (tile.getD {})) else tile

end Tiles

namespace MaterialState

/-- A state together with texture memory. -/
structure Machine where
  state : MaterialState
  memory : TextureMemory

namespace Machine

/-- A state with the texture memory that its tiles tell of. -/
def ofState (state : MaterialState) : Machine where
  state
  memory := .ofTiles state.tiles

/-- The machine after a command to the rasterizer. -/
def stateStep (m : Machine) : StateCommand → Machine
  | .write register value =>
    { m with state.registers := m.state.registers.write register value }
  | .loadBlock texture address =>
    { state := { m.state with tiles := m.state.tiles.load texture address }
      memory := (address, texture) :: m.memory }
  | .setTile tile params =>
    { m with state.tiles := m.state.tiles.modify tile fun old =>
        { old with params, texture := m.memory.get? params.address } }
  | .setTileSize tile size =>
    { m with state.tiles := m.state.tiles.modify tile fun old => { old with size } }
  | .pipeSync | .tileSync | .loadSync | .touchMode _ | .setTextureImage _ | .loadPalette _ _ => m

def step (m : Machine) : Command → Machine
  | .setGeometryMode off on => { m with state.geometry := m.state.geometry.write off on }
  | .state command => m.stateStep command
  | _ => m

def run (m : Machine) (commands : List Command) : Machine := commands.foldl step m

end Machine

def execute (s : MaterialState) (commands : List Command) : MaterialState :=
  ((Machine.ofState s).run commands).state

end MaterialState

/-- Whether a command names a tile that the rasterizer does not have. -/
def Command.namesMissingTile : Command → Bool
  | .state (.setTile tile _) => 8 ≤ tile
  | .state (.setTileSize tile _) => 8 ≤ tile
  | _ => false

/-- The state after a list of commands, if all tiles that they name exist. -/
def MaterialState.execute? (s : MaterialState) (commands : List Command) : Option MaterialState :=
  if commands.any Command.namesMissingTile then none else some (s.execute commands)

end SceneCompiler
