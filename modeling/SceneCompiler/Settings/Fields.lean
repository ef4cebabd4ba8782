import SceneCompiler.Settings.Basic

/-!
# Settings as named fields

Files give settings as values under names. What a name means is the same in every format, and a
`ValueReader` tells how the values of a format are read. A name that means nothing is passed over, a
setting that is not named keeps its standard value, and a value of the wrong kind or a setting that
is named twice makes the file unreadable.
-/

namespace SceneCompiler

/-- A group of settings. -/
structure FieldGroup where
  /-- The name of the group. -/
  kind : String
  /-- The names of its fields in order. -/
  members : List String
  /-- The names of those fields that are groups themselves. -/
  inner : List String := []
  /-- The names of those fields that may be there without a value. -/
  optional : List String := []

/-- How the values of a format are read. -/
structure ValueReader (V : Type) where
  boolean? : V → Option Bool
  natural? : V → Option Nat
  single? : V → Option Float32
  double? : V → Option Float
  triple? : V → Option (Vec3 Float32)
  text? : V → Option String
  optionalText? : V → Option (Option String)
  /-- The fields of a group of settings, under their names. -/
  fields? : FieldGroup → V → Option (List (String × V))

def FieldGroup.unknown : FieldGroup := ⟨"", [], [], []⟩

def timingGroup : FieldGroup where
  kind := "TransitionTiming"
  members :=
    ["pipe_sync", "minor_sync", "other_mode", "geometry_mode", "combine", "render_mode", "color",
      "texture_state", "texture_image", "load_block", "load_block_per_byte",
      "load_tlut_per_color", "set_tile", "set_tile_size", "matrix_pop", "matrix_push"]

def settingsGroup : FieldGroup where
  kind := "DisplayListSettings"
  members :=
    ["vertex_cache_size", "has_tri2", "max_matrix_depth", "can_pop_multiple_matrices",
      "max_optimization_iterations", "fixed_point_scale", "model_scale",
      "model_rotation_degrees", "include_culling", "default_material", "force_material", "timing"]
  inner := ["timing"]
  optional := ["force_material"]

namespace ValueReader

variable {V α : Type}

/-- The value of a field read in a given way, or a standard value if the field is not there. -/
def field (fields : List (String × V)) (name : String) (read : V → Option α) (standard : α) :
    Option α :=
  match fields.filter (·.1 = name) with
  | [] => some standard
  | [(_, value)] => read value
  | _ => none

/-- The timing estimates given by some fields. -/
def timing? (r : ValueReader V) (fields : List (String × V)) : Option (Timing Cost) := do
  let cost (name : String) (standard : Cost) : Option Cost :=
    field fields name (fun value => (r.double? value).map Cost.ofFloat) standard
  let standard := Timing.standard
  return {
    pipeSync := ← cost "pipe_sync" standard.pipeSync
    minorSync := ← cost "minor_sync" standard.minorSync
    otherMode := ← cost "other_mode" standard.otherMode
    geometryMode := ← cost "geometry_mode" standard.geometryMode
    combine := ← cost "combine" standard.combine
    renderMode := ← cost "render_mode" standard.renderMode
    color := ← cost "color" standard.color
    textureState := ← cost "texture_state" standard.textureState
    textureImage := ← cost "texture_image" standard.textureImage
    loadBlock := ← cost "load_block" standard.loadBlock
    loadBlockPerByte := ← cost "load_block_per_byte" standard.loadBlockPerByte
    loadPalettePerColor := ← cost "load_tlut_per_color" standard.loadPalettePerColor
    setTile := ← cost "set_tile" standard.setTile
    setTileSize := ← cost "set_tile_size" standard.setTileSize
    matrixPop := ← cost "matrix_pop" standard.matrixPop
    matrixPush := ← cost "matrix_push" standard.matrixPush }

def settings? (r : ValueReader V) (fields : List (String × V)) : Option Settings := do
  let standard : Settings := {}
  return {
    vertexCacheSize := ← field fields "vertex_cache_size" r.natural? standard.vertexCacheSize
    drawsPairs := ← field fields "has_tri2" r.boolean? standard.drawsPairs
    maxMatrixDepth := ← field fields "max_matrix_depth" r.natural? standard.maxMatrixDepth
    popsMany := ← field fields "can_pop_multiple_matrices" r.boolean? standard.popsMany
    maxIterations :=
      ← field fields "max_optimization_iterations" r.natural? standard.maxIterations
    fixedPointScale := ← field fields "fixed_point_scale" r.single? standard.fixedPointScale
    modelScale := ← field fields "model_scale" r.single? standard.modelScale
    modelRotation := ← field fields "model_rotation_degrees" r.triple? standard.modelRotation
    includeCulling := ← field fields "include_culling" r.boolean? standard.includeCulling
    defaultMaterial := ← field fields "default_material" r.text? standard.defaultMaterial
    forceMaterial := ← field fields "force_material" r.optionalText? standard.forceMaterial
    timing :=
      ← field fields "timing" (fun value => (r.fields? timingGroup value).bind r.timing?)
        standard.timing }

end ValueReader

/-- The timing estimates under their names, in the order in which they are written. -/
def Timing.namedFields {C : Type} (timing : Timing C) : List (String × C) :=
  [("pipe_sync", timing.pipeSync), ("minor_sync", timing.minorSync),
    ("other_mode", timing.otherMode), ("geometry_mode", timing.geometryMode),
    ("combine", timing.combine), ("render_mode", timing.renderMode), ("color", timing.color),
    ("texture_state", timing.textureState), ("texture_image", timing.textureImage),
    ("load_block", timing.loadBlock), ("load_block_per_byte", timing.loadBlockPerByte),
    ("load_tlut_per_color", timing.loadPalettePerColor), ("set_tile", timing.setTile),
    ("set_tile_size", timing.setTileSize), ("matrix_pop", timing.matrixPop),
    ("matrix_push", timing.matrixPush)]

/-- A setting as it is written. -/
inductive SettingValue
  | boolean (value : Bool)
  | natural (value : Nat)
  | single (value : Float32)
  | triple (value : Vec3 Float32)
  | text (value : String)
  | optionalText (value : Option String)

/-- The settings under their names, in the order in which they are written; the timing estimates
come after them. -/
def Settings.namedFields (s : Settings) : List (String × SettingValue) :=
  [("vertex_cache_size", .natural s.vertexCacheSize), ("has_tri2", .boolean s.drawsPairs),
    ("max_matrix_depth", .natural s.maxMatrixDepth),
    ("can_pop_multiple_matrices", .boolean s.popsMany),
    ("max_optimization_iterations", .natural s.maxIterations),
    ("fixed_point_scale", .single s.fixedPointScale), ("model_scale", .single s.modelScale),
    ("model_rotation_degrees", .triple s.modelRotation),
    ("include_culling", .boolean s.includeCulling),
    ("default_material", .text s.defaultMaterial),
    ("force_material", .optionalText s.forceMaterial)]

end SceneCompiler
