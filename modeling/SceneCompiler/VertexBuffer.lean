import SceneCompiler.Report
import SceneCompiler.Settings.Basic

/-!
# Vertex buffers

A mesh is drawn from a buffer of vertices in the form that the hardware reads: positions and texture
coordinates in sixteen bits, and either a normal or a color in bytes. Numbers that do not fit are
clamped and reported, in the order of the vertices and of the components x, y, z, u, v, so a
conversion always comes to its end. A mesh that lacks what it needs for some vertices is reported
before that.
-/

namespace SceneCompiler

/-- What the third attribute of a vertex is. Lit materials need normals. -/
inductive VertexLayout | normal | color
  deriving DecidableEq, Repr

/-- The third attribute of a vertex. -/
inductive Shading
  | normal (x y z : Int8) (alpha : UInt8)
  | color (r g b a : UInt8)
  deriving DecidableEq, Repr

/-- A vertex as the hardware reads it. -/
structure HardwareVertex where
  position : Vec3 Int16
  uv : Vec2 Int16
  shading : Shading
  deriving DecidableEq, Repr

/-- The vertices of a mesh in one layout. -/
structure VertexBuffer where
  id : BufferId
  name : String
  /-- The mesh that the vertices come from, unless they were made up. -/
  mesh : Option MeshId
  layout : VertexLayout
  vertices : List HardwareVertex
  deriving DecidableEq, Repr

/-! ### Rounding -/

/-- The nearest integer, a half going up. It stays within 64 bits, and what is no number goes to
zero. -/
def roundHalfUp (value : Float32) : Int := (value.toFloat + 0.5).floor.toInt64.toInt

/-- The nearest integer if it fits into sixteen bits, and otherwise the integer that does not. -/
def toFixed (value : Float32) : Except Int Int16 :=
  let rounded := roundHalfUp value
  if -32768 ≤ rounded && rounded ≤ 32767 then .ok (Int16.ofInt rounded) else .error rounded

/-- The integer of sixteen bits closest to another integer. -/
def clampShort (value : Int) : Int16 := Int16.ofInt (max (-32768) (min 32767 value))

/-- The integer of sixteen bits that stands for a number. -/
def fixedOrClamped (value : Float32) : Int16 :=
  match toFixed value with
  | .ok fixed => fixed
  | .error rounded => clampShort rounded

/-- A coordinate of a normal as a byte: 128 steps to one, cut off towards zero. -/
def normalByte (value : Float32) : Int8 :=
  Int8.ofInt (max (-128) (min 127 (value * 128).toInt32.toInt))

/-- A part of a color as a byte: 256 steps to one, cut off towards zero. -/
def colorByte (value : Float32) : UInt8 :=
  UInt8.ofNat (max 0 (min 255 (value * 256).toInt32.toInt)).toNat

/-! ### Vertices -/

namespace VertexBuffer

/-- The matrix that moves a vertex: into the space of its bone if the mesh tells how, and otherwise
into the space of the exported model. -/
def vertexTransform (settings : Settings) (mesh : SkinnedMesh) (vertex : Nat) : Matrix :=
  match (mesh.vertexBone vertex).bind mesh.offset? with
  | some offset => Matrix.uniformScaling settings.vertexScale * offset
  | none => settings.globalTransform

/-- A texture coordinate in units of 2⁻⁵ texels. The second axis points the other way. -/
def texelCoordinate (uv : Vec2 Float32) (width height : Nat) : Vec2 Float32 where
  x := uv.x * Float32.ofNat width * 32
  y := (1 - uv.y) * Float32.ofNat height * 32

/-- A vertex before rounding. -/
structure Placed where
  position : Vec3 Float32
  uv : Option (Vec2 Float32)

/-- A vertex of a mesh before rounding. It has texture coordinates if the mesh does and the size of
the texture is known. -/
def place (settings : Settings) (mesh : SkinnedMesh) (textureSize : Option (Nat × Nat))
    (vertex : Nat) : Placed where
  position := (vertexTransform settings mesh vertex).onPoint (mesh.surface.position vertex)
  uv := do
    let uvs ← mesh.surface.uvs
    let (width, height) ← textureSize
    return texelCoordinate (uvs[vertex]?.getD ⟨0, 0⟩) width height

/-- The numbers of a vertex that are rounded, in the order in which they are reported. -/
def Placed.components (p : Placed) : List (VertexComponent × Float32) :=
  [(.x, p.position.x), (.y, p.position.y), (.z, p.position.z)] ++
    match p.uv with
    | some uv => [(.u, uv.x), (.v, uv.y)]
    | none => []

def Placed.diagnostics (p : Placed) (buffer : BufferId) (vertex : Nat) : List Diagnostic :=
  p.components.filterMap fun (component, value) =>
    match toFixed value with
    | .ok _ => none
    | .error rounded => some (.valueOutOfRange buffer vertex component rounded)

def shade (settings : Settings) (mesh : SkinnedMesh) (layout : VertexLayout) (vertex : Nat) :
    Shading :=
  match layout with
  | .normal =>
    let given := (mesh.surface.normals.map fun normals => normals[vertex]?.getD .zero).getD .zero
    let normal := (vertexTransform settings mesh vertex).onNormal given
    let alpha := (mesh.colors.map fun colors => (colors[vertex]?.map (·.a)).getD 1).getD 1
    .normal (normalByte normal.x) (normalByte normal.y) (normalByte normal.z) (colorByte alpha)
  | .color =>
    let color := (mesh.colors.bind fun colors => colors[vertex]?).getD ⟨0, 0, 0, 1⟩
    .color (colorByte color.r) (colorByte color.g) (colorByte color.b) (colorByte color.a)

def convert (settings : Settings) (mesh : SkinnedMesh) (layout : VertexLayout)
    (textureSize : Option (Nat × Nat)) (vertex : Nat) : HardwareVertex :=
  let placed := place settings mesh textureSize vertex
  { position := placed.position.map fixedOrClamped
    uv := match placed.uv with
      | some uv => ⟨fixedOrClamped uv.x, fixedOrClamped uv.y⟩
      | none => ⟨0, 0⟩
    shading := shade settings mesh layout vertex }

/-- Whether a mesh has all that a buffer asks for, for each of its vertices or for none. -/
def isComplete (mesh : SkinnedMesh) (layout : VertexLayout) (textureSize : Option (Nat × Nat)) :
    Bool :=
  let count := mesh.surface.vertexCount
  coversVertices mesh.colors count &&
    (layout ≠ .normal || coversVertices mesh.surface.normals count) &&
    (textureSize.isNone || coversVertices mesh.surface.uvs count)

def layoutSuffix : VertexLayout → String
  | .normal => "normal"
  | .color => "color"

/-- The buffer of a mesh in one layout, and the reports about it. -/
def build (settings : Settings) (id : BufferId) (meshId : Option MeshId) (mesh : SkinnedMesh)
    (layout : VertexLayout) (textureSize : Option (Nat × Nat)) :
    VertexBuffer × List Diagnostic :=
  let vertices := List.range mesh.surface.vertexCount
  ({ id
     name := s!"{mesh.name}_{layoutSuffix layout}_vtx"
     mesh := meshId
     layout
     vertices := vertices.map (convert settings mesh layout textureSize) },
   (if isComplete mesh layout textureSize then [] else [.missingAttributes id]) ++
     vertices.flatMap fun vertex =>
       (place settings mesh textureSize vertex).diagnostics id vertex)

end VertexBuffer

end SceneCompiler
