/-!
# Register values

The values that the other rasterizer registers hold: colors, the color combiner, the blender and the
scaling of texture coordinates.
-/

namespace SceneCompiler

/-- A color with alpha, eight bits each. -/
structure Color where
  r : UInt8
  g : UInt8
  b : UInt8
  a : UInt8
  deriving DecidableEq, Repr

/-- The primitive color with its level of detail. -/
structure PrimitiveColor where
  color : Color
  lodMin : UInt8
  lodFraction : UInt8
  deriving DecidableEq, Repr

/-- What the color combiner can take as an input for color. -/
inductive ColorSource
  | combined | texel0 | texel1 | primitiveColor | shadeColor | environmentColor | keyCenter
  | keyScale | combinedAlpha | texel0Alpha | texel1Alpha | primitiveAlpha | shadeAlpha
  | environmentAlpha | lodFraction | primitiveLodFraction | noise | convertK4 | convertK5 | one
  | zero
  deriving DecidableEq, Repr

/-- What the color combiner can take as an input for alpha. -/
inductive AlphaSource
  | combinedAlpha | texel0Alpha | texel1Alpha | primitiveAlpha | shadeAlpha | environmentAlpha
  | lodFraction | primitiveLodFraction | one | zero
  deriving DecidableEq, Repr

/-- The four inputs of a combiner step, which computes `(a - b) * c + d`. -/
structure CombineInputs (Source : Type) where
  a : Source
  b : Source
  c : Source
  d : Source
  deriving DecidableEq, Repr

/-- One combiner cycle: a step for color and a step for alpha. -/
structure CombineMode where
  color : CombineInputs ColorSource
  alpha : CombineInputs AlphaSource
  deriving DecidableEq, Repr

/-- The combiner in both cycles. -/
structure CombineCycles where
  first : CombineMode
  second : CombineMode
  deriving DecidableEq, Repr

namespace CombineMode

def shade : CombineMode where
  color := ⟨.zero, .zero, .zero, .shadeColor⟩
  alpha := ⟨.zero, .zero, .zero, .shadeAlpha⟩

/-- The texture multiplied by the shade color. -/
def textureShade : CombineMode where
  color := ⟨.texel0, .zero, .shadeColor, .zero⟩
  alpha := ⟨.zero, .zero, .zero, .shadeAlpha⟩

def twice (mode : CombineMode) : CombineCycles := ⟨mode, mode⟩

end CombineMode

/-- The blender's configuration word for each cycle. -/
structure RenderMode where
  first : UInt32
  second : UInt32
  deriving DecidableEq, Repr

/-- How the geometry processor scales texture coordinates, and which tile it starts from. -/
structure TextureState where
  /-- The factor for the first coordinate, in units of 2⁻¹⁶. -/
  scaleS : UInt16 := 0xFFFF
  /-- The factor for the second coordinate, in units of 2⁻¹⁶. -/
  scaleT : UInt16 := 0xFFFF
  /-- The levels of detail beyond the first. -/
  levels : UInt8 := 0
  /-- The tile of the first level. -/
  tile : UInt8 := 0
  enabled : Bool := true
  deriving DecidableEq, Repr

end SceneCompiler
