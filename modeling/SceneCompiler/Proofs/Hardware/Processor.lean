import SceneCompiler.Proofs.Hardware.StackRun
import SceneCompiler.Proofs.Hardware.VertexCache
import SceneCompiler.Hardware.Pipeline

/-!
# The geometry processor

The hardware as far as geometry is concerned: a stack of bones, and slots that hold vertices. A load
copies vertices of a buffer into slots, each under the bone on top of the stack, and a triangle
reads three slots. What has been loaded and drawn is recorded.

A processor *matches* a pipeline when its stack is the one that the pipeline keeps and its slots hold
what the pipeline's cache tells of them.
-/

namespace SceneCompiler

/-- A triangle by what its slots hold. -/
structure DrawnTriangle where
  a : Option VertexKey
  b : Option VertexKey
  c : Option VertexKey

/-- A load: the stack under which it was done, and which vertices of which buffer. -/
structure VertexLoad where
  stack : BoneStack
  buffer : BufferId
  offset : Nat
  count : Nat

/-- The geometry processor, with what it has drawn and loaded. -/
structure Processor where
  stack : BoneStack := []
  slots : Nat → Option VertexKey := fun _ => none
  drawn : List DrawnTriangle := []
  loads : List VertexLoad := []

namespace Processor

def read (proc : Processor) (face : SlotTriangle) : DrawnTriangle where
  a := proc.slots face.a.toNat
  b := proc.slots face.b.toNat
  c := proc.slots face.c.toNat

/-- The slots after `count` vertices of a buffer, from `offset` on, are loaded into those from
`slot` on. -/
def fill (proc : Processor) (buffer : BufferId) (offset count slot : Nat) (i : Nat) :
    Option VertexKey :=
  if slot ≤ i ∧ i < slot + count then some ⟨buffer, offset + (i - slot), proc.stack.top?⟩
  else proc.slots i

/-- The processor after a command, unless the command takes more off the stack than there is. -/
def step? (proc : Processor) : Command → Option Processor
  | .loadVertices buffer offset count slot =>
    some { proc with
      slots := proc.fill buffer offset count slot
      loads := proc.loads ++ [⟨proc.stack, buffer, offset, count⟩] }
  | .triangle face => some { proc with drawn := proc.drawn ++ [proc.read face] }
  | .trianglePair first second =>
    some { proc with drawn := proc.drawn ++ [proc.read first, proc.read second] }
  | c => (proc.stack.step? c).map fun stack => { proc with stack }

/-- The processor after some commands, unless one of them takes more off the stack than there
is. -/
def run? (proc : Processor) (commands : List Command) : Option Processor :=
  commands.foldlM step? proc

@[simp] theorem run?_nil (proc : Processor) : proc.run? [] = some proc := rfl

theorem run?_cons (proc : Processor) (c : Command) (commands : List Command) :
    proc.run? (c :: commands) = (proc.step? c).bind (·.run? commands) := rfl

theorem run?_append (proc : Processor) (xs ys : List Command) :
    proc.run? (xs ++ ys) = (proc.run? xs).bind (·.run? ys) := by
  rw [run?, List.foldlM_append]
  rfl

end Processor

/-- Whether a command loads into slots or reads them. -/
def Command.usesSlots : Command → Bool
  | .loadVertices _ _ _ _ | .triangle _ | .trianglePair _ _ => true
  | _ => false

theorem Command.triangleCount_of_not_usesSlots {c : Command} (h : c.usesSlots = false) :
    c.triangleCount = 0 := by
  cases c <;> simp_all [usesSlots, triangleCount]

theorem Command.usesSlots_of_move {c : Command}
    (h : c.isMatrix = true ∨ ∃ text, c = .comment text) : c.usesSlots = false := by
  rcases h with hmatrix | ⟨text, rfl⟩
  · cases c <;> simp_all [isMatrix, usesSlots]
  · rfl

namespace Processor

/-- Commands that use no slots move the stack at most. -/
theorem run?_of_not_usesSlots (proc : Processor) {commands : List Command}
    (h : ∀ c ∈ commands, c.usesSlots = false) :
    proc.run? commands = (proc.stack.run? commands).map fun stack => { proc with stack } := by
  induction commands generalizing proc with
  | nil => rfl
  | cons c rest ih =>
    have hstep : proc.step? c = (proc.stack.step? c).map fun stack => { proc with stack } := by
      have hc := h c List.mem_cons_self
      cases c with
      | loadVertices buffer offset count slot => simp [Command.usesSlots] at hc
      | triangle face => simp [Command.usesSlots] at hc
      | trianglePair first second => simp [Command.usesSlots] at hc
      | _ => rfl
    rw [run?_cons, hstep, BoneStack.run?_cons]
    cases proc.stack.step? c with
    | none => rfl
    | some stack => exact ih _ fun d hd => h d (List.mem_cons_of_mem c hd)

theorem run?_of_inert (proc : Processor) {commands : List Command}
    (h : ∀ c ∈ commands, c.usesSlots = false ∧ c.isMatrix = false) :
    proc.run? commands = some proc := by
  rw [run?_of_not_usesSlots proc fun c hc => (h c hc).1,
    BoneStack.run?_of_not_isMatrix _ fun c hc => (h c hc).2]
  rfl

/-- The processor's stack is the one that the pipeline keeps, and its slots hold what the pipeline's
cache tells of them. -/
structure Matches (proc : Processor) (p : Pipeline) : Prop where
  stack : proc.stack = p.stack
  slots : ∀ slot key, p.cache.get? slot = some key → proc.slots slot = some key

theorem matches_atRest (settings : Settings) (registers : MaterialState) :
    Matches {} (.atRest settings registers) := by
  refine ⟨rfl, fun slot key h => ?_⟩
  rw [Pipeline.atRest, VertexCache.get?_empty] at h
  simp at h

end Processor

end SceneCompiler
