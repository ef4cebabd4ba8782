import SceneCompiler.Number.Shortest
import SceneCompiler.Settings.Basic

/-!
# Texts about settings

The text that tells why settings are refused. A scale is shown by its shortest decimal, whole
numbers without a point.
-/

namespace SceneCompiler

/-- Numbers in messages have no point if they are whole. -/
def messageNumber : FloatNotation := ⟨"NaN", "inf", ""⟩

namespace SettingsError

def reason : SettingsError → String
  | vertexCacheSize size =>
    s!"must hold at least one triangle and at most {maxVertexCacheSize} vertices, got {size}"
  | maxMatrixDepth => "must be at least 1"
  | fixedPointScale scale | modelScale scale =>
    let shown := messageNumber.render (.ofFloat32 scale)
    s!"must be a positive finite number, got {shown}"

def message (e : SettingsError) : String := s!"Invalid setting `{e.field}`: {e.reason}"

end SettingsError

end SceneCompiler
