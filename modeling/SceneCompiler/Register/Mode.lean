/-!
# Rasterizer modes

The rasterizer has thirteen mode fields, each with settings of its own. `ModeField` names the fields
and `ModeField.Setting` the settings of each. A material may leave a field open, so `Modes` holds an
optional setting for every field; it is read through `get` and built through `ofFields`, and two
values agree when they agree on every field.
-/

namespace SceneCompiler

/-- Whether primitives overlap in the pipeline. -/
inductive PipelineMode | onePrimitive | manyPrimitives
  deriving DecidableEq, Repr

/-- What the rasterizer does in a cycle. -/
inductive CycleType | oneCycle | twoCycle | copy | fill
  deriving DecidableEq, Repr

/-- Whether textures are mapped with perspective. -/
inductive PerspectiveMode | affine | corrected
  deriving DecidableEq, Repr

/-- How a texture is refined near the eye. -/
inductive TextureDetail | clamp | sharpen | detail
  deriving DecidableEq, Repr

/-- How the tile of a texture is chosen. -/
inductive TextureLod | tile | level
  deriving DecidableEq, Repr

/-- The colors of a palette, if textures go through one. -/
inductive TextureLut | off | rgba16 | ia16
  deriving DecidableEq, Repr

/-- How texels are blended. -/
inductive TextureFilter | point | average | bilinear
  deriving DecidableEq, Repr

/-- Whether texels are converted, filtered or both. -/
inductive TextureConvert | convert | filterConvert | filterOnly
  deriving DecidableEq, Repr

/-- Whether a key color is cut out. -/
inductive CombineKey | off | on
  deriving DecidableEq, Repr

/-- How colors are dithered. -/
inductive ColorDither | magicSquare | bayer | noise | off
  deriving DecidableEq, Repr

/-- How coverage is dithered. -/
inductive AlphaDither | pattern | invertedPattern | noise | off
  deriving DecidableEq, Repr

/-- What a pixel's alpha is compared with. -/
inductive AlphaCompare | off | threshold | dither
  deriving DecidableEq, Repr

/-- Where the depth of a pixel comes from. -/
inductive DepthSource | pixel | primitive
  deriving DecidableEq, Repr

/-- The mode fields of the rasterizer, in the order in which they are written. -/
inductive ModeField
  | pipeline | cycle | perspective | textureDetail | textureLod | textureLut | textureFilter
  | textureConvert | combineKey | colorDither | alphaDither | alphaCompare | depthSource
  deriving DecidableEq, Repr

namespace ModeField

/-- All mode fields in the order in which they are written. -/
def all : List ModeField :=
  [pipeline, cycle, perspective, textureDetail, textureLod, textureLut, textureFilter,
    textureConvert, combineKey, colorDither, alphaDither, alphaCompare, depthSource]

theorem mem_all (field : ModeField) : field ∈ all := by cases field <;> simp [all]

/-- The settings of a mode field. -/
abbrev Setting : ModeField → Type
  | pipeline => PipelineMode
  | cycle => CycleType
  | perspective => PerspectiveMode
  | textureDetail => TextureDetail
  | textureLod => TextureLod
  | textureLut => TextureLut
  | textureFilter => TextureFilter
  | textureConvert => TextureConvert
  | combineKey => CombineKey
  | colorDither => ColorDither
  | alphaDither => AlphaDither
  | alphaCompare => AlphaCompare
  | depthSource => DepthSource

/-- Settings of one field can be told apart. -/
def decideSetting : (field : ModeField) → DecidableEq field.Setting
  | pipeline => inferInstanceAs (DecidableEq PipelineMode)
  | cycle => inferInstanceAs (DecidableEq CycleType)
  | perspective => inferInstanceAs (DecidableEq PerspectiveMode)
  | textureDetail => inferInstanceAs (DecidableEq TextureDetail)
  | textureLod => inferInstanceAs (DecidableEq TextureLod)
  | textureLut => inferInstanceAs (DecidableEq TextureLut)
  | textureFilter => inferInstanceAs (DecidableEq TextureFilter)
  | textureConvert => inferInstanceAs (DecidableEq TextureConvert)
  | combineKey => inferInstanceAs (DecidableEq CombineKey)
  | colorDither => inferInstanceAs (DecidableEq ColorDither)
  | alphaDither => inferInstanceAs (DecidableEq AlphaDither)
  | alphaCompare => inferInstanceAs (DecidableEq AlphaCompare)
  | depthSource => inferInstanceAs (DecidableEq DepthSource)

instance (field : ModeField) : DecidableEq field.Setting := decideSetting field

end ModeField

/-- A setting for each mode field, or none where it is open. -/
structure Modes where
  pipeline : Option PipelineMode := none
  cycle : Option CycleType := none
  perspective : Option PerspectiveMode := none
  textureDetail : Option TextureDetail := none
  textureLod : Option TextureLod := none
  textureLut : Option TextureLut := none
  textureFilter : Option TextureFilter := none
  textureConvert : Option TextureConvert := none
  combineKey : Option CombineKey := none
  colorDither : Option ColorDither := none
  alphaDither : Option AlphaDither := none
  alphaCompare : Option AlphaCompare := none
  depthSource : Option DepthSource := none
  deriving DecidableEq, Repr

namespace Modes

def get (m : Modes) : (field : ModeField) → Option field.Setting
  | .pipeline => m.pipeline
  | .cycle => m.cycle
  | .perspective => m.perspective
  | .textureDetail => m.textureDetail
  | .textureLod => m.textureLod
  | .textureLut => m.textureLut
  | .textureFilter => m.textureFilter
  | .textureConvert => m.textureConvert
  | .combineKey => m.combineKey
  | .colorDither => m.colorDither
  | .alphaDither => m.alphaDither
  | .alphaCompare => m.alphaCompare
  | .depthSource => m.depthSource

def ofFields (settings : (field : ModeField) → Option field.Setting) : Modes where
  pipeline := settings .pipeline
  cycle := settings .cycle
  perspective := settings .perspective
  textureDetail := settings .textureDetail
  textureLod := settings .textureLod
  textureLut := settings .textureLut
  textureFilter := settings .textureFilter
  textureConvert := settings .textureConvert
  combineKey := settings .combineKey
  colorDither := settings .colorDither
  alphaDither := settings .alphaDither
  alphaCompare := settings .alphaCompare
  depthSource := settings .depthSource

@[simp] theorem get_ofFields (settings : (field : ModeField) → Option field.Setting)
    (field : ModeField) : (ofFields settings).get field = settings field := by
  cases field <;> rfl

end Modes

end SceneCompiler
