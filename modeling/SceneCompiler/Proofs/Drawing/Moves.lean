import SceneCompiler.Proofs.Drawing.Failures
import SceneCompiler.Proofs.Hardware.StackTraversal
import SceneCompiler.Proofs.Skeleton.Chains

/-!
# Moving from bone to bone

However the stack was moved before, and whichever of the moves failed, it holds the chain of the bone
on its top (`BoneStack.IsChain`). So how much of the stack a move keeps is how far down the common
ancestor of two bones is, and a move that succeeds takes off and puts on no more than any other way
to get there. A chain that is too long changes nothing.
-/

namespace SceneCompiler

/-- A stack that holds the chain of a bone, with room for it. -/
structure BoneStack.IsChain (skeleton : Skeleton) (limit : Nat) (stack : BoneStack) : Prop where
  chain : stack = skeleton.pathFromRoot stack.top?
  fits : stack.length ≤ limit

/-- Commands that lead from a stack to the stack of a bone as they should. -/
structure BoneStack.LeadsTo (skeleton : Skeleton) (limit : Nat) (stack : BoneStack)
    (target : Option BoneId) (commands : List Command) : Prop where
  /-- They never take off what is not there, and the chain of the bone is left. -/
  run : stack.run? commands = some (skeleton.pathFromRoot target)
  /-- The stack never holds more than it has room for. -/
  bounded : ∀ xs ys, commands = xs ++ ys →
    ∃ between, stack.run? xs = some between ∧ between.length ≤ limit
  /-- A bone is put on the bone that it hangs from. -/
  beneath : ∀ xs bone ys, commands = xs ++ .pushMatrix bone :: ys →
    ∃ between, stack.run? xs = some between ∧ skeleton.parentOf (some bone) = between.top?
  counts : (popCount commands, (pushed commands).length) =
    skeleton.traversalCounts stack.top? target
  /-- Nothing else that leads there takes off or puts on less. -/
  minimal : ∀ others, stack.run? others = some (skeleton.pathFromRoot target) →
    popCount commands ≤ popCount others ∧ (pushed commands).length ≤ (pushed others).length

/-! ### One move -/

/-- The stack keeps the chain of the common ancestor. -/
theorem Skeleton.commonLength_eq_depth (s : Skeleton) (a b : Option BoneId) :
    BoneStack.commonLength (s.pathFromRoot a) (s.pathFromRoot b) =
      s.depth (s.commonAncestor a b) := by
  rw [← s.length_pathFromRoot]
  exact (BoneStack.length_eq_commonLength fun part => s.prefix_commonAncestor a b part).symm

theorem Skeleton.parentOf_of_prefix {s : Skeleton} {below : List BoneId} {bone : BoneId}
    {target : Option BoneId} (h : below ++ [bone] <+: s.pathFromRoot target) :
    s.parentOf (some bone) = BoneStack.top? below := by
  have hpath := prefix_pathFromRoot h
  rw [List.getLast?_concat, pathFromRoot_some] at hpath
  rw [List.append_cancel_right hpath, top?_pathFromRoot]

theorem BoneStack.IsChain.leadsTo {skeleton : Skeleton} {limits : StackLimits} {stack : BoneStack}
    {target : Option BoneId} (h : stack.IsChain skeleton limits.depth)
    (hroom : skeleton.depth target ≤ limits.depth) :
    stack.LeadsTo skeleton limits.depth target
      (stack.moves skeleton limits (skeleton.pathFromRoot target)) where
  run := run?_moves skeleton limits stack _
  bounded := by
    intro xs ys hsplit
    obtain ⟨between, hrun, hlength⟩ := moves_bounded hsplit
    rw [skeleton.length_pathFromRoot] at hlength
    exact ⟨between, hrun, hlength.trans (Nat.max_le.mpr ⟨h.fits, hroom⟩)⟩
  beneath := by
    intro xs bone ys hsplit
    obtain ⟨between, hrun, hprefix⟩ := moves_beneath hsplit
    exact ⟨between, hrun, Skeleton.parentOf_of_prefix hprefix⟩
  counts := by
    have hstack : stack.length = skeleton.depth stack.top? := by
      rw [← skeleton.length_pathFromRoot, ← h.chain]
    have hkept := skeleton.commonLength_eq_depth stack.top? target
    rw [← h.chain] at hkept
    rw [popCount_moves, pushed_moves, List.length_drop, skeleton.length_pathFromRoot, hkept, hstack]
    rfl
  minimal := fun _ hothers => moves_minimal skeleton limits hothers

namespace Pipeline

variable {skeleton : Skeleton} {limits : StackLimits} {p : Pipeline} {target : Option BoneId}

theorem moveTo_failed {failure : CompileError}
    (h : (p.moveTo skeleton limits target).failure = some failure) :
    (p.moveTo skeleton limits target).state = p ∧
      (p.moveTo skeleton limits target).commands = [] := by
  unfold moveTo at h ⊢
  cases hmove : p.stack.moveTo skeleton limits target with
  | error refusal => exact ⟨rfl, rfl⟩
  | ok result =>
    rw [hmove] at h
    simp at h

theorem isChain_moveTo (h : p.stack.IsChain skeleton limits.depth) (target : Option BoneId) :
    (p.moveTo skeleton limits target).state.stack.IsChain skeleton limits.depth := by
  cases hfailure : (p.moveTo skeleton limits target).failure with
  | some failure =>
    rw [(moveTo_failed hfailure).1]
    exact h
  | none =>
    obtain ⟨hstate, hroom, _⟩ := moveTo_ok hfailure
    rw [hstate]
    refine ⟨?_, hroom⟩
    rw [skeleton.top?_pathFromRoot]

/-! ### Many moves -/

/-- The pipeline after moves to one bone after another. A move that fails is not made. -/
def visit (skeleton : Skeleton) (limits : StackLimits) (p : Pipeline)
    (targets : List (Option BoneId)) : Pipeline :=
  targets.foldl (fun reached target => (reached.moveTo skeleton limits target).state) p

theorem isChain_visit (h : p.stack.IsChain skeleton limits.depth) (targets : List (Option BoneId)) :
    (p.visit skeleton limits targets).stack.IsChain skeleton limits.depth := by
  induction targets generalizing p with
  | nil => exact h
  | cons target rest ih => exact ih (isChain_moveTo h target)

/-- **Moves are exact, minimal, bounded and atomic**, whatever the moves before them were and
whichever of these failed. -/
theorem moveTo_visit (skeleton : Skeleton) (limits : StackLimits) (settings : Settings)
    (registers : MaterialState) (targets : List (Option BoneId)) (target : Option BoneId) :
    let before := (atRest settings registers).visit skeleton limits targets
    let move := before.moveTo skeleton limits target
    (move.failure.isSome = true ↔ limits.depth < skeleton.depth target) ∧
      (∀ failure, move.failure = some failure →
        failure = .matrixStackOverflow
            ((skeleton.pathFromRoot target).map fun bone => skeleton.nameOf (some bone))
            limits.depth ∧
          move.state = before ∧ move.commands = []) ∧
      (move.failure = none →
        move.state = { before with stack := skeleton.pathFromRoot target } ∧
          before.stack.LeadsTo skeleton limits.depth target move.commands) := by
  intro before move
  have hchain : before.stack.IsChain skeleton limits.depth :=
    isChain_visit ⟨rfl, Nat.zero_le _⟩ targets
  have hrefusal : move.failure = skeleton.overflow? limits.depth target :=
    failure_moveTo skeleton limits before target
  refine ⟨?_, ?_, ?_⟩
  · rw [hrefusal, Skeleton.overflow?]
    by_cases hdeep : limits.depth < skeleton.depth target <;> simp [hdeep]
  · intro failure hfailure
    refine ⟨?_, moveTo_failed hfailure⟩
    rw [hrefusal, Skeleton.overflow?] at hfailure
    split at hfailure
    · exact (Option.some.inj hfailure).symm
    · simp at hfailure
  · intro hdone
    obtain ⟨hstate, hroom, hcommands⟩ := moveTo_ok hdone
    refine ⟨hstate, ?_⟩
    rw [skeleton.length_pathFromRoot] at hroom
    rw [hcommands]
    exact hchain.leadsTo hroom

/-- An arm and a head on a spine, with room for three: the hand is out of reach, and the way from
the arm to the head leaves the spine where it is. -/
example (settings : Settings) (registers : MaterialState) : (do
    let skeleton ← Skeleton.empty.add? ⟨"root", none, {}⟩
    let skeleton ← skeleton.add? ⟨"spine", some 0, {}⟩
    let skeleton ← skeleton.add? ⟨"arm", some 1, {}⟩
    let skeleton ← skeleton.add? ⟨"hand", some 2, {}⟩
    let skeleton ← skeleton.add? ⟨"head", some 1, {}⟩
    let p := (atRest settings registers).visit skeleton ⟨3, true⟩ [some 2, some 3]
    return (p.moveTo skeleton ⟨3, true⟩ (some 4)).commands) =
    some [.popMatrix 1, .comment "head", .pushMatrix 4] := by
  cbv

end Pipeline

end SceneCompiler
