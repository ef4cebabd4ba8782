import SceneCompiler.Report

/-!
# Emissions

Writing commands for a machine changes what is known of the machine, and it can fail half way. An
emission is all three: the state reached, the commands written until then, and the error that ended
it, if one did. After a failure nothing more is written.
-/

namespace SceneCompiler

/-- Commands written while a state changed, up to a failure or to the end. -/
structure Emission (σ : Type) where
  state : σ
  commands : List Command := []
  failure : Option CompileError := none

namespace Emission

variable {σ α : Type}

/-- One emission after another, unless the first one failed. -/
def andThen (first : Emission σ) (next : σ → Emission σ) : Emission σ :=
  match first.failure with
  | some _ => first
  | none =>
    let second := next first.state
    { second with commands := first.commands ++ second.commands }

/-- Emissions for the elements of a list in order. -/
def forEach (emit : σ → α → Emission σ) (state : σ) : List α → Emission σ
  | [] => { state }
  | a :: rest => (emit state a).andThen fun reached => forEach emit reached rest

end Emission

end SceneCompiler
