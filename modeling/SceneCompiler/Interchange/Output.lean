import SceneCompiler.Interchange.Commands
import SceneCompiler.UnitCompiler

/-!
# Compiled units in documents

What the compiler makes is written for other programs and never read back.
-/

namespace SceneCompiler

namespace Document

def orNull {α : Type} (write : α → Document) : Option α → Document
  | some a => write a
  | none => null

def integers (ns : List Int) : Document := list (ns.map integer)

end Document

/-- Writes the third attribute of a vertex. -/
def Shading.toDocument : Shading → Document
  | normal x y z alpha =>
    .record [("Normal", .record
      [("normal", .integers [x.toInt, y.toInt, z.toInt]), ("alpha", Form.word8.write alpha)])]
  | color r g b a => .record [("Color", Form.word8.list.write [r, g, b, a])]

def HardwareVertex.toDocument (v : HardwareVertex) : Document :=
  .record [("position", .integers [v.position.x.toInt, v.position.y.toInt, v.position.z.toInt]),
    ("uv", .integers [v.uv.x.toInt, v.uv.y.toInt]), ("shading", v.shading.toDocument)]

def VertexLayout.names : List (VertexLayout × String) := [(.normal, "Normal"), (.color, "Color")]

def VertexBuffer.toDocument (b : VertexBuffer) : Document :=
  .record [("id", .natural b.id), ("name", .text b.name), ("mesh", .orNull .natural b.mesh),
    ("vertex_type", (Form.named VertexLayout.names).write b.layout),
    ("vertices", .list (b.vertices.map HardwareVertex.toDocument))]

def Diagnostic.toDocument (d : Diagnostic) : Document :=
  .record (("message", .text d.message) ::
    match d with
    | .valueOutOfRange buffer vertex component value =>
      [("kind", .text "ValueOutOfRange"), ("buffer", .natural buffer), ("vertex", .natural vertex),
        ("role", .text component.label), ("value", .integer value)]
    | .unresolvedMaterial name mesh =>
      [("kind", .text "UnresolvedMaterial"), ("name", .text name), ("mesh", .natural mesh)]
    | .missingAttributes buffer =>
      [("kind", .text "MissingAttributes"), ("buffer", .natural buffer)]
    | .missingVertices mesh => [("kind", .text "MissingVertices"), ("mesh", .natural mesh)])

def CompiledUnit.toDocument (unit : CompiledUnit) : Document :=
  .record [("display_list", DisplayList.form.write unit.displayList),
    ("vertex_buffers", .list (unit.vertexBuffers.map VertexBuffer.toDocument)),
    ("culling_buffer", .orNull VertexBuffer.toDocument unit.cullingBuffer)]

end SceneCompiler
