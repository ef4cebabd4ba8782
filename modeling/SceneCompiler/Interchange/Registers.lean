import SceneCompiler.Interchange.Form
import SceneCompiler.Register.Basic

/-!
# Registers in documents

A setting of a mode field is written as its name, and an open field as `Unknown`. A set of geometry
switches is the names of its switches, in the order of their bits, with a bar between them.
-/

namespace SceneCompiler

open RecordForm (field)

/-! ### Names -/

namespace GeometryMode

def name : GeometryMode → String
  | zBuffer => "ZBUFFER"
  | shade => "SHADE"
  | textureEnable => "TEXTURE_ENABLE"
  | shadingSmooth => "SHADING_SMOOTH"
  | cullFront => "CULL_FRONT"
  | cullBack => "CULL_BACK"
  | fog => "FOG"
  | lighting => "LIGHTING"
  | textureGen => "TEXTURE_GEN"
  | textureGenLinear => "TEXTURE_GEN_LINEAR"
  | lod => "LOD"
  | clipping => "CLIPPING"

end GeometryMode

namespace ModeField

def fieldName : ModeField → String
  | pipeline => "pipeline_mode"
  | cycle => "cycle_type"
  | perspective => "perspective"
  | textureDetail => "texture_detail"
  | textureLod => "texture_lod"
  | textureLut => "texture_lut"
  | textureFilter => "texture_filter"
  | textureConvert => "texture_convert"
  | combineKey => "combine_key"
  | colorDither => "color_dither"
  | alphaDither => "alpha_dither"
  | alphaCompare => "alpha_compare"
  | depthSource => "depth_source"

/-- The name of a mode field before a setting of its own. -/
def name : ModeField → String
  | pipeline => "PipelineMode"
  | cycle => "CycleType"
  | perspective => "Perspective"
  | textureDetail => "TextureDetail"
  | textureLod => "TextureLod"
  | textureLut => "TextureLut"
  | textureFilter => "TextureFilter"
  | textureConvert => "TextureConvert"
  | combineKey => "CombineKey"
  | colorDither => "ColorDither"
  | alphaDither => "AlphaDither"
  | alphaCompare => "AlphaCompare"
  | depthSource => "DepthSource"

def settingNames : (field : ModeField) → List (field.Setting × String)
  | pipeline => [(.onePrimitive, "OnePrimitive"), (.manyPrimitives, "NPrimitive")]
  | cycle => [(.oneCycle, "OneCycle"), (.twoCycle, "TwoCycle"), (.copy, "Copy"), (.fill, "Fill")]
  | perspective => [(.affine, "None"), (.corrected, "Perspective")]
  | textureDetail => [(.clamp, "Clamp"), (.sharpen, "Sharpen"), (.detail, "Detail")]
  | textureLod => [(.tile, "Tile"), (.level, "Lod")]
  | textureLut => [(.off, "None"), (.rgba16, "Rgba16"), (.ia16, "Ia16")]
  | textureFilter => [(.point, "Point"), (.average, "Average"), (.bilinear, "Bilerp")]
  | textureConvert => [(.convert, "Conv"), (.filterConvert, "FiltConv"), (.filterOnly, "Filt")]
  | combineKey => [(.off, "None"), (.on, "Key")]
  | colorDither =>
    [(.magicSquare, "MagicSquare"), (.bayer, "Bayer"), (.noise, "Noise"), (.off, "Disable")]
  | alphaDither =>
    [(.pattern, "Pattern"), (.invertedPattern, "NotPattern"), (.noise, "Noise"), (.off, "Disable")]
  | alphaCompare => [(.off, "None"), (.threshold, "Threshold"), (.dither, "Dither")]
  | depthSource => [(.pixel, "Pixel"), (.primitive, "Primitive")]

end ModeField

def ColorSource.names : List (ColorSource × String) :=
  [(.combined, "Combined"), (.texel0, "Texel0"), (.texel1, "Texel1"),
    (.primitiveColor, "PrimitiveColor"), (.shadeColor, "ShadeColor"),
    (.environmentColor, "EnvironmentColor"), (.keyCenter, "KeyCenter"), (.keyScale, "KeyScale"),
    (.combinedAlpha, "CombinedAlpha"), (.texel0Alpha, "Texel0Alpha"),
    (.texel1Alpha, "Texel1Alpha"), (.primitiveAlpha, "PrimitiveAlpha"),
    (.shadeAlpha, "ShadeAlpha"), (.environmentAlpha, "EnvironmentAlpha"),
    (.lodFraction, "LodFraction"), (.primitiveLodFraction, "PrimitiveLodFraction"),
    (.noise, "Noise"), (.convertK4, "ConvertK4"), (.convertK5, "ConvertK5"), (.one, "One"),
    (.zero, "Zero")]

def AlphaSource.names : List (AlphaSource × String) :=
  [(.combinedAlpha, "CombinedAlpha"), (.texel0Alpha, "Texel0Alpha"),
    (.texel1Alpha, "Texel1Alpha"), (.primitiveAlpha, "PrimitiveAlpha"),
    (.shadeAlpha, "ShadeAlpha"), (.environmentAlpha, "EnvironmentAlpha"),
    (.lodFraction, "LodFraction"), (.primitiveLodFraction, "PrimitiveLodFraction"), (.one, "One"),
    (.zero, "Zero")]

/-! ### Forms -/

/-- The switches of a set in the order of their bits. -/
def GeometryModes.switches (modes : GeometryModes) : List GeometryMode :=
  GeometryMode.all.filter fun mode => modes &&& mode.bit ≠ 0

def GeometryModes.form : Form GeometryModes where
  write modes := .text (" | ".intercalate ((switches modes).map GeometryMode.name))
  read? document := do
    let names := ((← document.text?).splitOn " | ").filter (· ≠ "")
    let modes ← names.mapM fun name => GeometryMode.all.find? (·.name = name)
    return modes.foldl (fun set mode => set ||| mode.bit) 0

def GeometryRegister.form : Form GeometryRegister :=
  (field "flags" GeometryModes.form |>.and (field "known" GeometryModes.form)).via
    (fun (on, known) => { on, known }) fun r => (r.on, r.known)

def ModeField.settingForm (field : ModeField) : Form (Option field.Setting) where
  write
    | some setting => (Form.named field.settingNames).write setting
    | none => .text "Unknown"
  read?
    | .null | .text "Unknown" => some none
    | document => ((Form.named field.settingNames).read? document).map some

def Modes.form : Form Modes where
  write modes :=
    .record (ModeField.all.map fun field =>
      (field.fieldName, field.settingForm.write (modes.get field)))
  read? document := do
    let setting (field : ModeField) : Option (Option field.Setting) :=
      field.settingForm.read? (document.field field.fieldName)
    return {
      pipeline := ← setting .pipeline
      cycle := ← setting .cycle
      perspective := ← setting .perspective
      textureDetail := ← setting .textureDetail
      textureLod := ← setting .textureLod
      textureLut := ← setting .textureLut
      textureFilter := ← setting .textureFilter
      textureConvert := ← setting .textureConvert
      combineKey := ← setting .combineKey
      colorDither := ← setting .colorDither
      alphaDither := ← setting .alphaDither
      alphaCompare := ← setting .alphaCompare
      depthSource := ← setting .depthSource }

def ModeField.assignmentForm : Form (Σ field : ModeField, Option field.Setting) where
  write assignment :=
    .record [(assignment.1.name, assignment.1.settingForm.write assignment.2)]
  read?
    | .record [(name, value)] => do
      let field ← ModeField.all.find? (·.name = name)
      return ⟨field, ← field.settingForm.read? value⟩
    | _ => none

def Color.form : Form Color :=
  (field "r" .word8 |>.and (field "g" .word8) |>.and (field "b" .word8)
    |>.and (field "a" .word8)).via
    (fun (((r, g), b), a) => ⟨r, g, b, a⟩) fun c => (((c.r, c.g), c.b), c.a)

def PrimitiveColor.form : Form PrimitiveColor :=
  (field "color" Color.form |>.and (field "lod_min" .word8)
    |>.and (field "lod_fraction" .word8)).via
    (fun ((color, lodMin), lodFraction) => ⟨color, lodMin, lodFraction⟩)
    fun p => ((p.color, p.lodMin), p.lodFraction)

def CombineInputs.form {Source : Type} (source : Form Source) : Form (CombineInputs Source) where
  write inputs := source.list.write [inputs.a, inputs.b, inputs.c, inputs.d]
  read? document :=
    match source.list.read? document with
    | some [a, b, c, d] => some ⟨a, b, c, d⟩
    | _ => none

def CombineMode.form : Form CombineMode :=
  (field "color" (CombineInputs.form (.named ColorSource.names)) |>.and
    (field "alpha" (CombineInputs.form (.named AlphaSource.names)))).via
    (fun (color, alpha) => ⟨color, alpha⟩) fun mode => (mode.color, mode.alpha)

def CombineCycles.form : Form CombineCycles :=
  (field "first" CombineMode.form |>.and (field "second" CombineMode.form)).via
    (fun (first, second) => ⟨first, second⟩) fun cycles => (cycles.first, cycles.second)

def RenderMode.form : Form RenderMode :=
  (field "first" .word32 |>.and (field "second" .word32)).via
    (fun (first, second) => ⟨first, second⟩) fun mode => (mode.first, mode.second)

def TextureState.form : Form TextureState :=
  (field "scale_s" .word16 |>.and (field "scale_t" .word16) |>.and (field "levels" .word8)
    |>.and (field "tile" .word8) |>.and (field "enabled" .switch)).via
    (fun ((((scaleS, scaleT), levels), tile), enabled) => ⟨scaleS, scaleT, levels, tile, enabled⟩)
    fun t => ((((t.scaleS, t.scaleT), t.levels), t.tile), t.enabled)

end SceneCompiler
