import SceneCompiler.Hardware.BoneStack

/-!
# Running the matrix stack

The stack as the hardware has it: a push puts a bone on top, and a pop takes bones off, if there are
so many. The moves that bring a chain of bones onto a stack never take too much off, and they leave
exactly this chain (`BoneStack.run?_moves`).
-/

namespace SceneCompiler

namespace BoneStack

/-- The stack after a command, unless the command takes more off than there is. -/
def step? (stack : BoneStack) : Command → Option BoneStack
  | .pushMatrix bone => some (stack ++ [bone])
  | .popMatrix count =>
    if count ≤ stack.length then some (stack.take (stack.length - count)) else none
  | _ => some stack

/-- The stack after some commands, unless one of them takes more off than there is. -/
def run? (stack : BoneStack) (commands : List Command) : Option BoneStack :=
  commands.foldlM step? stack

@[simp] theorem run?_nil (stack : BoneStack) : stack.run? [] = some stack := rfl

theorem run?_cons (stack : BoneStack) (c : Command) (commands : List Command) :
    stack.run? (c :: commands) = (stack.step? c).bind (·.run? commands) := rfl

theorem run?_singleton (stack : BoneStack) (c : Command) : stack.run? [c] = stack.step? c := by
  rw [run?_cons]
  cases stack.step? c <;> rfl

theorem run?_append (stack : BoneStack) (xs ys : List Command) :
    stack.run? (xs ++ ys) = (stack.run? xs).bind (·.run? ys) := by
  rw [run?, List.foldlM_append]
  rfl

theorem run?_of_not_isMatrix (stack : BoneStack) {commands : List Command}
    (h : ∀ c ∈ commands, c.isMatrix = false) : stack.run? commands = some stack := by
  induction commands with
  | nil => rfl
  | cons c rest ih =>
    have hstep : stack.step? c = some stack := by
      have hc := h c List.mem_cons_self
      cases c with
      | pushMatrix bone => simp [Command.isMatrix] at hc
      | popMatrix count => simp [Command.isMatrix] at hc
      | _ => rfl
    rw [run?_cons, hstep]
    exact ih fun d hd => h d (List.mem_cons_of_mem c hd)

/-! ### Moves -/

theorem take_commonLength (stack path : List BoneId) :
    stack.take (commonLength stack path) = path.take (commonLength stack path) := by
  induction stack generalizing path with
  | nil => rfl
  | cons a rest ih =>
    cases path with
    | nil => rfl
    | cons b path =>
      by_cases hab : a = b
      · have hlength : commonLength (a :: rest) (b :: path) = commonLength rest path + 1 := by
          simp [commonLength, hab]
        rw [hlength, List.take_succ_cons, List.take_succ_cons, ih path, hab]
      · have hlength : commonLength (a :: rest) (b :: path) = 0 := by
          simp [commonLength, hab]
        rw [hlength, List.take_zero, List.take_zero]

theorem commonLength_le (stack path : List BoneId) : commonLength stack path ≤ stack.length := by
  have hprefix := List.takeWhile_sublist (l := stack.zip path) fun pair => pair.1 = pair.2
  calc commonLength stack path ≤ (stack.zip path).length := hprefix.length_le
    _ ≤ stack.length := by
      rw [List.length_zip]
      exact Nat.min_le_left _ _

theorem run?_replicate_pop (stack : BoneStack) {count : Nat} (h : count ≤ stack.length) :
    stack.run? (List.replicate count (.popMatrix 1)) =
      some (stack.take (stack.length - count)) := by
  induction count generalizing stack with
  | zero => simp
  | succ count ih =>
    have hstep : stack.step? (.popMatrix 1) = some (stack.take (stack.length - 1)) :=
      if_pos (by omega)
    have hlength : (stack.take (stack.length - 1)).length = stack.length - 1 := by
      rw [List.length_take]
      omega
    rw [List.replicate_succ, run?_cons, hstep, Option.bind_some, ih _ (by omega), hlength,
      List.take_take]
    congr 2
    omega

/-- However the hardware pops, `count` bones are taken off. -/
theorem run?_pops (limits : StackLimits) (stack : BoneStack) {count : Nat}
    (h : count ≤ stack.length) :
    stack.run? (pops limits count) = some (stack.take (stack.length - count)) := by
  unfold pops
  split
  · rename_i hzero
    simp [hzero]
  · split
    · rw [run?_cons, step?, if_pos h]
      rfl
    · exact run?_replicate_pop stack h

theorem run?_push (skeleton : Skeleton) (stack : BoneStack) (bones : List BoneId) :
    stack.run? (bones.flatMap (push skeleton)) = some (stack ++ bones) := by
  induction bones generalizing stack with
  | nil => simp
  | cons bone rest ih =>
    have hstep : stack.run? (push skeleton bone) = some (stack ++ [bone]) := rfl
    rw [List.flatMap_cons, run?_append, hstep, Option.bind_some, ih, List.append_assoc]
    rfl

/-- **The moves lead where they should.** -/
theorem run?_moves (skeleton : Skeleton) (limits : StackLimits) (stack : BoneStack)
    (path : List BoneId) : stack.run? (moves skeleton limits stack path) = some path := by
  have hle := commonLength_le stack path
  have hcount : stack.length - commonLength stack path ≤ stack.length := Nat.sub_le _ _
  have hpops := run?_pops limits stack hcount
  have hkept : stack.length - (stack.length - commonLength stack path) =
      commonLength stack path := by omega
  rw [hkept, take_commonLength] at hpops
  unfold moves
  rw [run?_append, hpops, Option.bind_some, run?_push, List.take_append_drop]

theorem mem_moves {skeleton : Skeleton} {limits : StackLimits} {stack : BoneStack}
    {path : List BoneId} {c : Command} (h : c ∈ moves skeleton limits stack path) :
    c.isMatrix = true ∨ ∃ text, c = .comment text := by
  unfold moves at h
  rcases List.mem_append.mp h with h | h
  · unfold pops at h
    split at h
    · simp at h
    · split at h
      · obtain rfl := List.mem_singleton.mp h
        exact Or.inl rfl
      · obtain rfl := List.eq_of_mem_replicate h
        exact Or.inl rfl
  · obtain ⟨bone, _, hbone⟩ := List.mem_flatMap.mp h
    simp only [push, List.mem_cons, List.not_mem_nil, or_false] at hbone
    rcases hbone with rfl | rfl
    · exact Or.inr ⟨_, rfl⟩
    · exact Or.inl rfl

end BoneStack

end SceneCompiler
