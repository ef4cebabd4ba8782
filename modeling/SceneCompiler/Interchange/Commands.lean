import SceneCompiler.Command
import SceneCompiler.Interchange.Materials

/-!
# Commands in documents

A command is a record of one field, whose name says what the command does, or that name alone if
there is nothing more to say.
-/

namespace SceneCompiler

namespace Register

def form : (register : Register) → Form register.Value
  | mode field => .named field.settingNames
  | combine => CombineCycles.form
  | renderMode => RenderMode.form
  | primitiveColor => PrimitiveColor.form
  | environmentColor => Color.form
  | fillColor => Color.form
  | fogColor => Color.form
  | blendColor => Color.form
  | texture => TextureState.form

def commandName : Register → String
  | mode _ => "SetOtherMode"
  | combine => "SetCombine"
  | renderMode => "SetRenderMode"
  | primitiveColor => "SetPrimitiveColor"
  | environmentColor => "SetEnvironmentColor"
  | fillColor => "SetFillColor"
  | fogColor => "SetFogColor"
  | blendColor => "SetBlendColor"
  | texture => "SetTexture"

end Register

open RecordForm (field)

namespace StateCommand

/-- An image and the address it is copied to. -/
def blockForm : Form (Texture × UInt16) :=
  (field "texture" Texture.form |>.and (field "tmem" .word16)).via id id

/-- A palette and the slot it is copied to. -/
def paletteForm : Form (Palette × UInt8) :=
  (field "palette" Palette.form |>.and (field "index" .word8)).via id id

def tileForm : Form (Nat × TileParams) :=
  (field "tile" .natural |>.and (field "params" TileParams.form)).via id id

def tileSizeForm : Form (Nat × TileSize) :=
  (field "tile" .natural |>.and (field "size" TileSize.form)).via id id

def toDocument : StateCommand → Document
  | pipeSync => .text "PipeSync"
  | tileSync => .text "TileSync"
  | loadSync => .text "LoadSync"
  | write (.mode mode) setting =>
    .record [("SetOtherMode", ModeField.assignmentForm.write ⟨mode, some setting⟩)]
  | write register value => .record [(register.commandName, register.form.write value)]
  | touchMode mode => .record [("SetOtherMode", ModeField.assignmentForm.write ⟨mode, none⟩)]
  | setTextureImage texture => .record [("SetTextureImage", Texture.form.write texture)]
  | loadBlock texture address => .record [("LoadBlock", blockForm.write (texture, address))]
  | loadPalette palette slot => .record [("LoadTlut", paletteForm.write (palette, slot))]
  | setTile tile params => .record [("SetTile", tileForm.write (tile, params))]
  | setTileSize tile size => .record [("SetTileSize", tileSizeForm.write (tile, size))]

/-- Reads a write to a register that is not a mode field. -/
def registerWrite? (name : String) (value : Document) : Option StateCommand := do
  let register ← Register.trailing.find? (·.commandName = name)
  return write register (← register.form.read? value)

def ofDocument? : Document → Option StateCommand
  | .text "PipeSync" => some pipeSync
  | .text "TileSync" => some tileSync
  | .text "LoadSync" => some loadSync
  | .record [("SetOtherMode", value)] => do
    match ← ModeField.assignmentForm.read? value with
    | ⟨mode, some setting⟩ => return write (.mode mode) setting
    | ⟨mode, none⟩ => return touchMode mode
  | .record [("SetTextureImage", value)] => (Texture.form.read? value).map setTextureImage
  | .record [("LoadBlock", value)] => (blockForm.read? value).map fun (t, a) => loadBlock t a
  | .record [("LoadTlut", value)] => (paletteForm.read? value).map fun (p, i) => loadPalette p i
  | .record [("SetTile", value)] => (tileForm.read? value).map fun (i, p) => setTile i p
  | .record [("SetTileSize", value)] => (tileSizeForm.read? value).map fun (i, s) => setTileSize i s
  | .record [(name, value)] => registerWrite? name value
  | _ => none

def form : Form StateCommand := ⟨toDocument, ofDocument?⟩

end StateCommand

/-- Triangles by the slots of their corners. -/
def SlotTriangle.form : Form SlotTriangle where
  write face := Form.word8.list.write [face.a, face.b, face.c]
  read? document :=
    match Form.word8.list.read? document with
    | some [a, b, c] => some ⟨a, b, c⟩
    | _ => none

namespace Command

/-- Where vertices come from, how many they are, and where they go. -/
def loadForm : Form (((BufferId × Nat) × Nat) × Nat) :=
  (field "buffer" .natural |>.and (field "source_offset" .natural) |>.and (field "count" .natural)
    |>.and (field "first_slot" .natural)).via id id

/-- Switches turned off, and switches turned on. -/
def modesForm : Form (GeometryModes × GeometryModes) :=
  (field "clear" GeometryModes.form |>.and (field "set" GeometryModes.form)).via id id

def countForm (name : String) : Form Nat := (field name .natural).via id id

def toDocument : Command → Document
  | loadVertices buffer offset count slot =>
    .record [("LoadVertices", loadForm.write (((buffer, offset), count), slot))]
  | triangle face => .record [("Triangle1", SlotTriangle.form.write face)]
  | trianglePair first second =>
    .record [("Triangle2", SlotTriangle.form.list.write [first, second])]
  | pushMatrix bone => .record [("PushMatrix", (countForm "bone").write bone)]
  | popMatrix count => .record [("PopMatrix", (countForm "count").write count)]
  | callList name => .record [("CallList", .text name)]
  | setGeometryMode off on => .record [("SetGeometryMode", modesForm.write (off, on))]
  | cullList count => .record [("CullList", (countForm "vertex_count").write count)]
  | comment text => .record [("Comment", .text text)]
  | state command => .record [("Raw", StateCommand.form.write command)]

def ofDocument? : Document → Option Command
  | .record [("LoadVertices", value)] =>
    (loadForm.read? value).map fun (((buffer, offset), count), slot) =>
      loadVertices buffer offset count slot
  | .record [("Triangle1", value)] => (SlotTriangle.form.read? value).map triangle
  | .record [("Triangle2", value)] =>
    match SlotTriangle.form.list.read? value with
    | some [first, second] => some (trianglePair first second)
    | _ => none
  | .record [("PushMatrix", value)] => ((countForm "bone").read? value).map pushMatrix
  | .record [("PopMatrix", value)] => ((countForm "count").read? value).map popMatrix
  | .record [("CallList", .text name)] => some (callList name)
  | .record [("SetGeometryMode", value)] =>
    (modesForm.read? value).map fun (off, on) => setGeometryMode off on
  | .record [("CullList", value)] => ((countForm "vertex_count").read? value).map cullList
  | .record [("Comment", .text text)] => some (comment text)
  | .record [("Raw", value)] => (StateCommand.form.read? value).map state
  | _ => none

def form : Form Command := ⟨toDocument, ofDocument?⟩

end Command

def DisplayList.form : Form DisplayList :=
  (field "name" .text |>.and (field "commands" Command.form.list)).via
    (fun (name, commands) => ⟨name, commands⟩) fun list => (list.name, list.commands)

end SceneCompiler
