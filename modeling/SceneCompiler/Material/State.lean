import SceneCompiler.Register.Basic
import SceneCompiler.Texture

/-!
# Material states

A material state says what some of the registers and tiles hold and leaves the others open. The same
type describes a material, which asks for what it fixes, and the registers of the hardware as far as
they are known.

Texture memory is part of a state only through its tiles: a specified tile names the texture at its
address. A load replaces what every tile at that address samples, so to apply a state is more than
to overwrite tiles.
-/

namespace SceneCompiler

/-- What is known of the registers, the geometry modes and the tiles. -/
structure MaterialState where
  registers : Registers := {}
  geometry : GeometryRegister := {}
  tiles : Tiles := Tiles.unspecified
  deriving DecidableEq, Repr

namespace Tiles

/-- The texture that the first of some tiles with one at an address samples. -/
def textureAt? (tiles : List Tile) (address : UInt16) : Option Texture :=
  tiles.findSome? fun tile => if tile.params.address = address then tile.texture else none

/-- One tile after another state's tiles are applied: it is overwritten if that state specifies it,
and otherwise samples what that state puts at its address. -/
def applyTile (placed : List Tile) (current update : Option Tile) : Option Tile :=
  match update, current with
  | some tile, _ => some tile
  | none, some tile =>
    some { tile with texture := (textureAt? placed tile.params.address).or tile.texture }
  | none, none => none

/-- The tiles after another state's tiles are applied. -/
def apply (current update : Tiles) : Tiles := current.zipWith (applyTile update.specified) update

/-- Whether a tile is as wanted. A wanted tile without a texture accepts any texture. -/
def tileSatisfies : Option Tile → Option Tile → Bool
  | _, none => true
  | none, some _ => false
  | some current, some wanted =>
    current.params = wanted.params && current.size = wanted.size &&
      (wanted.texture.isNone || current.texture = wanted.texture)

def satisfies (current wanted : Tiles) : Bool :=
  (current.toList.zip wanted.toList).all fun pair => tileSatisfies pair.1 pair.2

def restrictedTo (tiles mask : Tiles) : Tiles :=
  tiles.zipWith (fun tile wanted => if wanted.isSome then tile else none) mask

def firstTextured? (tiles : Tiles) : Option Tile := tiles.specified.find? (·.texture.isSome)

end Tiles

namespace MaterialState

def usesLighting (s : MaterialState) : Bool := s.geometry.lit

def firstTexturedTile? (s : MaterialState) : Option Tile := s.tiles.firstTextured?

def textureSize? (s : MaterialState) : Option (Nat × Nat) :=
  (s.firstTexturedTile?.bind (·.texture)).map fun t => (t.width, t.height)

/-- Whether some tile samples a texture from an address. -/
def isTextureLoaded (s : MaterialState) (t : Texture) (address : UInt16) : Bool :=
  s.tiles.specified.any (·.holdsTexture t address)

/-- Whether some tile goes through a palette in a slot. -/
def isPaletteLoaded (s : MaterialState) (p : Palette) (slot : UInt8) : Bool :=
  s.tiles.specified.any (·.holdsPalette p slot)

/-- The state after taking over everything that `update` fixes. -/
def apply (current update : MaterialState) : MaterialState where
  registers := current.registers.apply update.registers
  geometry := current.geometry.apply update.geometry
  tiles := current.tiles.apply update.tiles

/-- Whether the state holds everything that `target` fixes. -/
def satisfies (current target : MaterialState) : Bool :=
  current.tiles.satisfies target.tiles && current.registers.satisfies target.registers &&
    current.geometry.satisfies target.geometry

/-- The state limited to what `mask` fixes. -/
def restrictedTo (s mask : MaterialState) : MaterialState where
  registers := s.registers.restrictedTo mask.registers
  geometry := s.geometry.restrictedTo mask.geometry
  tiles := s.tiles.restrictedTo mask.tiles

end MaterialState

end SceneCompiler
