import SceneCompiler.Register.Basic
import SceneCompiler.Skeleton.Basic
import SceneCompiler.Texture

/-!
# Commands

The commands of a display list. Commands to the rasterizer set registers and load texture memory;
the others load vertices, draw, move the matrix stack, call lists, or speak to the reader.
-/

namespace SceneCompiler

/-- A vertex buffer by its number. -/
abbrev BufferId := Nat

/-- A command to the rasterizer. -/
inductive StateCommand
  /-- Waits for all drawing. -/
  | pipeSync
  /-- Waits for the use of tiles. -/
  | tileSync
  /-- Waits for loads. -/
  | loadSync
  /-- Sets a register. -/
  | write (register : Register) (value : register.Value)
  /-- Writes a mode field without fixing its setting, which changes nothing. -/
  | touchMode (field : ModeField)
  /-- Points the loader at an image. -/
  | setTextureImage (texture : Texture)
  /-- Copies the image into texture memory. -/
  | loadBlock (texture : Texture) (address : UInt16)
  /-- Copies a palette into a palette slot. -/
  | loadPalette (palette : Palette) (slot : UInt8)
  /-- Sets the descriptor of a tile. -/
  | setTile (tile : Nat) (params : TileParams)
  /-- Sets the rectangle of a tile. -/
  | setTileSize (tile : Nat) (size : TileSize)
  deriving DecidableEq

/-- A triangle by the cache slots of its corners. -/
structure SlotTriangle where
  a : UInt8
  b : UInt8
  c : UInt8
  deriving DecidableEq, Repr

/-- A command of a display list. -/
inductive Command
  /-- Copies `count` vertices of a buffer, from `offset` on, into the slots from `slot` on. -/
  | loadVertices (buffer : BufferId) (offset count slot : Nat)
  /-- Draws one triangle. -/
  | triangle (face : SlotTriangle)
  /-- Draws two triangles. -/
  | trianglePair (first second : SlotTriangle)
  /-- Puts the matrix of a bone on the stack. -/
  | pushMatrix (bone : BoneId)
  /-- Takes matrices off the stack. -/
  | popMatrix (count : Nat)
  /-- Calls another list. -/
  | callList (name : String)
  /-- Turns switches of the geometry processor off and on. -/
  | setGeometryMode (off on : GeometryModes)
  /-- Ends the list if none of the vertices in the first slots is on screen. -/
  | cullList (count : Nat)
  /-- Speaks to the reader. -/
  | comment (text : String)
  /-- Speaks to the rasterizer. -/
  | state (command : StateCommand)
  deriving DecidableEq

namespace Command

/-- The number of triangles that the command draws. -/
def triangleCount : Command → Nat
  | triangle _ => 1
  | trianglePair _ _ => 2
  | _ => 0

/-- Whether the command moves the matrix stack. -/
def isMatrix : Command → Bool
  | pushMatrix _ | popMatrix _ => true
  | _ => false

end Command

/-- A named list of commands. -/
structure DisplayList where
  name : String
  commands : List Command := []
  deriving DecidableEq

namespace DisplayList

/-- The list with further commands at its end. -/
def append (list : DisplayList) (commands : List Command) : DisplayList :=
  { list with commands := list.commands ++ commands }

def length (list : DisplayList) : Nat := list.commands.length

def triangleCount (list : DisplayList) : Nat :=
  list.commands.foldr (fun command count => command.triangleCount + count) 0

/-- The number of commands that move the matrix stack. -/
def matrixCount (list : DisplayList) : Nat := list.commands.countP Command.isMatrix

def drawCount (list : DisplayList) : Nat :=
  list.commands.countP fun command => 0 < command.triangleCount

end DisplayList

end SceneCompiler
