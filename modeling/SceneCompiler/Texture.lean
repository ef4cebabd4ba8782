/-!
# Textures and tiles

Of an image the compiler knows its name, its size and its format, which is enough to tell what has
to be uploaded and how large it is. A tile describes how a texture in texture memory is sampled;
the rasterizer has eight of them.
-/

namespace SceneCompiler

/-- The format of a texel. -/
inductive TexelFormat | rgba | yuv | ci | ia | i
  deriving DecidableEq, Repr

/-- The size of a texel. -/
inductive TexelSize | bits4 | bits8 | bits16 | bits32
  deriving DecidableEq, Repr

def TexelSize.bits : TexelSize → Nat
  | bits4 => 4
  | bits8 => 8
  | bits16 => 16
  | bits32 => 32

/-- A table of colors that an image refers to. -/
structure Palette where
  name : String
  colorCount : UInt16
  deriving DecidableEq, Repr

/-- An image. -/
structure Texture where
  name : String
  width : Nat
  height : Nat
  format : TexelFormat
  size : TexelSize
  palette : Option Palette := none
  deriving DecidableEq, Repr

namespace Texture

def texelCount (t : Texture) : Nat := t.width * t.height

def bytesFor (bits : Nat) : Nat := (bits + 7) / 8

def byteCount (t : Texture) : Nat := bytesFor (t.texelCount * t.size.bits)

/-- Whether the bits of the image, the bits of a line and the quarters of texels along each axis can
be counted in 32 bits. -/
def isCountable (t : Texture) : Bool :=
  let fits (count : Nat) : Bool := count < Nat.pow 2 32
  fits (t.texelCount * t.size.bits) && fits (t.width * t.size.bits) && fits ((t.height - 1) * 4)

def lineWords (t : Texture) : Nat := (t.width * t.size.bits + 63) / 64

end Texture

/-- How a tile continues along one axis. -/
structure TileAxis where
  /-- Whether the image repeats. -/
  wrap : Bool := false
  /-- Whether every other repetition is reversed. -/
  mirror : Bool := false
  /-- The binary logarithm of the length after which it repeats. -/
  mask : UInt8 := 0
  /-- The shift of coordinates for a level of detail. -/
  shift : UInt8 := 0
  deriving DecidableEq, Repr

/-- The descriptor of a tile. -/
structure TileParams where
  format : TexelFormat := .rgba
  size : TexelSize := .bits16
  /-- The length of a line in words of 64 bits. -/
  line : UInt16 := 0
  /-- The address in texture memory in words of 64 bits. -/
  address : UInt16 := 0
  /-- The palette slot. -/
  palette : UInt8 := 0
  s : TileAxis := {}
  t : TileAxis := {}
  deriving DecidableEq, Repr

/-- The rectangle of a tile, in quarters of a texel. -/
structure TileSize where
  sOffset : UInt16 := 0
  tOffset : UInt16 := 0
  sLimit : UInt16 := 0
  tLimit : UInt16 := 0
  deriving DecidableEq, Repr

/-- The rectangle that covers a whole image. -/
def TileSize.covering (t : Texture) : TileSize where
  sLimit := UInt16.ofNat ((t.width - 1) * 4)
  tLimit := UInt16.ofNat ((t.height - 1) * 4)

/-- A tile: its descriptor, its rectangle, and the texture at its address. -/
structure Tile where
  texture : Option Texture := none
  params : TileParams := {}
  size : TileSize := {}
  deriving DecidableEq, Repr

/-- The tile that samples a whole image from an address. -/
def Tile.ofTexture (t : Texture) (address : UInt16) : Tile where
  texture := some t
  params :=
    { format := t.format, size := t.size, line := UInt16.ofNat t.lineWords, address }
  size := .covering t

/-- The eight tiles of the rasterizer, each specified or open. -/
abbrev Tiles := Vector (Option Tile) 8

namespace Tiles

def unspecified : Tiles := Vector.replicate 8 none

def specified (tiles : Tiles) : List Tile := tiles.toList.filterMap id

end Tiles

namespace Tile

/-- Whether the tile samples a given texture from a given address. -/
def holdsTexture (tile : Tile) (t : Texture) (address : UInt16) : Bool :=
  tile.params.address = address && tile.texture = some t

/-- Whether the tile goes through a given palette in a given slot. -/
def holdsPalette (tile : Tile) (p : Palette) (slot : UInt8) : Bool :=
  tile.params.palette = slot && (tile.texture.bind (·.palette)) = some p

end Tile

end SceneCompiler
