import SceneCompiler.Hardware.BoneStack
import SceneCompiler.Hardware.Emission
import SceneCompiler.Hardware.VertexCache
import SceneCompiler.Material.Execution
import SceneCompiler.Settings.Basic

/-!
# The pipeline

What is known of the hardware while a list is written: the vertex cache, the matrix stack and the
registers.
-/

namespace SceneCompiler

/-- What is known of the hardware. -/
structure Pipeline where
  cache : VertexCache
  stack : BoneStack
  registers : MaterialState

def Settings.stackLimits (s : Settings) : StackLimits := ⟨s.maxMatrixDepth, s.popsMany⟩

namespace Pipeline

/-- The pipeline at rest: nothing in the cache or on the stack. -/
def atRest (settings : Settings) (registers : MaterialState) : Pipeline where
  cache := .empty settings.vertexCacheSize
  stack := []
  registers

/-- Brings a bone to the top of the matrix stack. -/
def moveTo (skeleton : Skeleton) (limits : StackLimits) (p : Pipeline) (target : Option BoneId) :
    Emission Pipeline :=
  match BoneStack.moveTo skeleton limits p.stack target with
  | .ok (commands, stack) => { state := { p with stack }, commands }
  | .error failure => { state := p, failure := some failure }

/-- Records that the registers hold everything that a state fixes. -/
def applyMaterial (p : Pipeline) (update : MaterialState) : Pipeline :=
  { p with registers := p.registers.apply update }

/-- Records what commands did to the registers. -/
def execute (p : Pipeline) (commands : List Command) : Pipeline :=
  { p with registers := p.registers.execute commands }

end Pipeline

end SceneCompiler
