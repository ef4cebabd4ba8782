import SceneCompiler.Space.Pose
import SceneCompiler.Timing

/-!
# Settings

What the hardware can do and how a model is exported. Settings are checked before they are used: a
cache that holds no triangle, a stack that holds no matrix and a scale that is no positive number
are refused, in this order.
-/

namespace SceneCompiler

/-- What the hardware can do and how a model is exported. -/
structure Settings where
  /-- The number of slots of the vertex cache. -/
  vertexCacheSize : Nat := 32
  /-- Whether one command can draw two triangles. -/
  drawsPairs : Bool := true
  /-- The number of matrices that the stack holds. -/
  maxMatrixDepth : Nat := 10
  /-- Whether one command can take several matrices off the stack. -/
  popsMany : Bool := true
  /-- The number of partial orders that the order search may extend. -/
  maxIterations : Nat := 1000
  /-- The units of a vertex coordinate in one unit of the scaled model. -/
  fixedPointScale : Float32 := 256
  modelScale : Float32 := 1
  /-- The rotation of the model, as angles in degrees about the three axes. -/
  modelRotation : Vec3 Float32 := .zero
  /-- Whether each list starts with a test of its bounding box. -/
  includeCulling : Bool := false
  /-- The material that describes the registers at rest. -/
  defaultMaterial : String := "default"
  /-- A material to use for every mesh. -/
  forceMaterial : Option String := none
  timing : Timing Cost := Timing.standard

/-- The largest vertex cache that the hardware can have. -/
def maxVertexCacheSize : Nat := 32

/-- Why settings are refused. -/
inductive SettingsError
  | vertexCacheSize (size : Nat)
  | maxMatrixDepth
  | fixedPointScale (scale : Float32)
  | modelScale (scale : Float32)

namespace Settings

/-- Whether a scale is a positive finite number. -/
def validScale (scale : Float32) : Bool := scale.isFinite && 0 < scale

/-- The first reason to refuse the settings, if there is one. -/
def error? (s : Settings) : Option SettingsError :=
  if s.vertexCacheSize < 3 || maxVertexCacheSize < s.vertexCacheSize then
    some (.vertexCacheSize s.vertexCacheSize)
  else if s.maxMatrixDepth = 0 then some .maxMatrixDepth
  else if !validScale s.fixedPointScale then some (.fixedPointScale s.fixedPointScale)
  else if !validScale s.modelScale then some (.modelScale s.modelScale)
  else none

/-- The units of a vertex coordinate in one unit of the model. -/
def vertexScale (s : Settings) : Float32 := s.fixedPointScale * s.modelScale

def rotation (s : Settings) : Rotation := .ofEulerDegrees s.modelRotation

/-- The matrix from the space of the model to the space of vertices. -/
def globalTransform (s : Settings) : Matrix := s.rotation.afterScaling s.vertexScale

end Settings

namespace SettingsError

def field : SettingsError → String
  | vertexCacheSize _ => "vertex_cache_size"
  | maxMatrixDepth => "max_matrix_depth"
  | fixedPointScale _ => "fixed_point_scale"
  | modelScale _ => "model_scale"

end SettingsError

end SceneCompiler
