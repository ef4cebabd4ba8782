import SceneCompiler.Command
import SceneCompiler.Mesh.Basic

/-!
# Reports

What can go wrong. An error ends the compilation of a unit; a diagnostic tells of a problem that was
worked around. Some diagnostics tell that a mesh contradicts itself, and then what was made of it is
only a stand-in.
-/

namespace SceneCompiler

/-- Why a unit cannot be compiled. -/
inductive CompileError
  /-- The matrix stack is too short for the bones of a chain, which are named from the root on. -/
  | matrixStackOverflow (chain : List String) (limit : Nat)
  /-- The vertex cache is too small for the vertices that are needed at once. -/
  | cacheOverflow (requested capacity : Nat)
  /-- The scene has no such mesh. -/
  | unknownMesh (mesh : MeshId)
  deriving DecidableEq, Repr

def meshLabel (mesh : MeshId) : String := s!"MeshId({mesh})"

def CompileError.message : CompileError → String
  | matrixStackOverflow chain limit =>
    let bone := chain.getLast?.getD "<root>"
    let links := " -> ".intercalate chain
    s!"Matrix stack overflow: reaching {bone} needs depth {chain.length} > {limit} (chain: {links})"
  | cacheOverflow requested capacity =>
    s!"Vertex cache overflow: {requested} vertices requested, capacity {capacity}"
  | unknownMesh mesh => s!"Unknown mesh: {meshLabel mesh}"

/-- What a converted number of a vertex stands for. -/
inductive VertexComponent | x | y | z | u | v
  deriving DecidableEq, Repr

def VertexComponent.label : VertexComponent → String
  | x => "x coordinate"
  | y => "y coordinate"
  | z => "z coordinate"
  | u => "texture u coordinate"
  | v => "texture v coordinate"

/-- A problem that was worked around. -/
inductive Diagnostic
  /-- A number does not fit into a vertex and was clamped. -/
  | valueOutOfRange (buffer : BufferId) (vertex : Nat) (component : VertexComponent) (value : Int)
  /-- A mesh's material does not exist; its batches are drawn in the state they find. -/
  | unresolvedMaterial (name : String) (mesh : MeshId)
  /-- Some vertices of a mesh lack an attribute that others have, and the buffer holds a standard
  one for them. -/
  | missingAttributes (buffer : BufferId)
  /-- Some faces of a mesh have vertices that are missing, or that lack an attribute that others
  have, and texture coordinates could not be projected onto them. -/
  | missingVertices (mesh : MeshId)
  deriving DecidableEq, Repr

def Diagnostic.message : Diagnostic → String
  | valueOutOfRange buffer vertex component value =>
    s!"The value {value} is too big to fit into a short for {component.label} " ++
      s!"(vertex {vertex} of vtx#{buffer})"
  | unresolvedMaterial name mesh =>
    s!"Material `{name}` used by mesh {meshLabel mesh} could not be resolved"
  | missingAttributes buffer => s!"Some vertices of vtx#{buffer} lack attributes that others have"
  | missingVertices mesh => s!"Some faces of mesh {meshLabel mesh} have vertices that are missing"

/-- Whether a diagnostic tells that a mesh contradicts itself. -/
def Diagnostic.isMeshFault : Diagnostic → Bool
  | missingAttributes _ | missingVertices _ => true
  | valueOutOfRange .. | unresolvedMaterial .. => false

end SceneCompiler
