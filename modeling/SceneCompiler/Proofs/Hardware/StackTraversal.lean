import SceneCompiler.Proofs.Hardware.StackRun

/-!
# What moves do to the stack

Every command takes some bones off the stack and puts some on it (`BoneStack.step?_eq`). What a list
of commands takes off bounds how much of the stack it can change: the rest is still at the bottom
afterwards (`BoneStack.take_prefix_run?`). So commands that lead to a chain of bones must take off
all that the stack does not share with it, and this much is what the moves take off
(`BoneStack.moves_minimal`).
-/

namespace SceneCompiler

/-- How many matrices a command takes off the stack. -/
def Command.takesOff : Command → Nat
  | .popMatrix count => count
  | _ => 0

/-- The bones whose matrices a command puts on the stack. -/
def Command.putsOn : Command → List BoneId
  | .pushMatrix bone => [bone]
  | _ => []

namespace BoneStack

variable {stack reached path : BoneStack} {skeleton : Skeleton} {limits : StackLimits}
  {commands xs ys : List Command}

/-- How many matrices some commands take off the stack. -/
def popCount : List Command → Nat
  | [] => 0
  | c :: rest => c.takesOff + popCount rest

/-- The bones whose matrices some commands put on the stack. -/
def pushed (commands : List Command) : List BoneId := commands.flatMap Command.putsOn

@[simp] theorem popCount_nil : popCount [] = 0 := rfl

@[simp] theorem popCount_cons (c : Command) (rest : List Command) :
    popCount (c :: rest) = c.takesOff + popCount rest := rfl

@[simp] theorem popCount_append (xs ys : List Command) :
    popCount (xs ++ ys) = popCount xs + popCount ys := by
  induction xs with
  | nil => simp
  | cons c rest ih => rw [List.cons_append, popCount_cons, popCount_cons, ih, Nat.add_assoc]

@[simp] theorem pushed_cons (c : Command) (rest : List Command) :
    pushed (c :: rest) = c.putsOn ++ pushed rest := List.flatMap_cons

@[simp] theorem pushed_append (xs ys : List Command) :
    pushed (xs ++ ys) = pushed xs ++ pushed ys := List.flatMap_append

/-! ### Steps and runs -/

/-- **What a command does to the stack.** -/
theorem step?_eq (stack : BoneStack) (c : Command) :
    stack.step? c =
      if c.takesOff ≤ stack.length then some (stack.take (stack.length - c.takesOff) ++ c.putsOn)
      else none := by
  cases c with
  | popMatrix count => simp only [step?, Command.takesOff, Command.putsOn, List.append_nil]
  | _ => simp [step?, Command.takesOff, Command.putsOn]

theorem step?_eq_some {c : Command} (h : stack.step? c = some reached) :
    c.takesOff ≤ stack.length ∧ reached = stack.take (stack.length - c.takesOff) ++ c.putsOn := by
  rw [step?_eq] at h
  split at h
  · rename_i hle
    exact ⟨hle, (Option.some.inj h).symm⟩
  · simp at h

theorem length_step? {c : Command} (h : stack.step? c = some reached) :
    reached.length + c.takesOff = stack.length + c.putsOn.length := by
  obtain ⟨hle, rfl⟩ := step?_eq_some h
  rw [List.length_append, List.length_take]
  omega

theorem run?_cons_eq_some {c : Command} (h : stack.run? (c :: commands) = some reached) :
    ∃ next, stack.step? c = some next ∧ BoneStack.run? next commands = some reached := by
  rw [run?_cons] at h
  exact Option.bind_eq_some_iff.mp h

theorem run?_append_eq_some (h : stack.run? (xs ++ ys) = some reached) :
    ∃ between, stack.run? xs = some between ∧ BoneStack.run? between ys = some reached := by
  rw [run?_append] at h
  exact Option.bind_eq_some_iff.mp h

/-- What is on the stack in the end was on it or was put on it, and was not taken off. -/
theorem length_run? (h : stack.run? commands = some reached) :
    reached.length + popCount commands = stack.length + (pushed commands).length := by
  induction commands generalizing stack with
  | nil =>
    obtain rfl := Option.some.inj h
    rfl
  | cons c rest ih =>
    obtain ⟨next, hstep, hrest⟩ := run?_cons_eq_some h
    have hfirst := length_step? hstep
    have hlater := ih hrest
    rw [popCount_cons, pushed_cons, List.length_append]
    omega

/-- **What is deep enough stays.** -/
theorem take_prefix_run? (h : stack.run? commands = some reached) :
    stack.take (stack.length - popCount commands) <+: reached := by
  induction commands generalizing stack with
  | nil =>
    obtain rfl := Option.some.inj h
    exact List.take_prefix _ _
  | cons c rest ih =>
    obtain ⟨next, hstep, hrest⟩ := run?_cons_eq_some h
    have hlength := length_step? hstep
    have hnext := (step?_eq_some hstep).2
    -- what both leave alone is what the command leaves alone and the rest does not get to
    have hkept : stack.take (stack.length - popCount (c :: rest)) =
        next.take (stack.length - popCount (c :: rest)) := by
      have hle : stack.length - popCount (c :: rest) ≤
          (stack.take (stack.length - c.takesOff)).length := by
        rw [popCount_cons, List.length_take]
        omega
      rw [hnext, List.take_append_of_le_length hle, List.take_take, popCount_cons]
      congr 1
      omega
    have hdeeper : stack.length - popCount (c :: rest) ≤ next.length - popCount rest := by
      rw [popCount_cons]
      omega
    rw [hkept]
    exact (List.take_prefix_take_left hdeeper).trans (ih hrest)

theorem prefix_of_popCount (h : stack.run? commands = some reached)
    (hpops : popCount commands = 0) : stack <+: reached := by
  have hkept := take_prefix_run? h
  rw [hpops, Nat.sub_zero, List.take_length] at hkept
  exact hkept

/-! ### Common starts -/

theorem length_le_commonLength {start : List BoneId} (hstack : start <+: stack)
    (hpath : start <+: path) : start.length ≤ commonLength stack path := by
  induction start generalizing stack path with
  | nil => exact Nat.zero_le _
  | cons bone rest ih =>
    obtain ⟨stackRest, rfl, hstackRest⟩ := List.cons_prefix_iff.mp hstack
    obtain ⟨pathRest, rfl, hpathRest⟩ := List.cons_prefix_iff.mp hpath
    have hlength : commonLength (bone :: stackRest) (bone :: pathRest) =
        commonLength stackRest pathRest + 1 := by
      simp [commonLength]
    rw [hlength]
    exact Nat.succ_le_succ (ih hstackRest hpathRest)

theorem commonLength_le_right (stack path : List BoneId) : commonLength stack path ≤ path.length := by
  have hlength := congrArg List.length (take_commonLength stack path)
  have hle := commonLength_le stack path
  rw [List.length_take, List.length_take] at hlength
  omega

/-- A common start that every common start is part of tells how much two lists have in common. -/
theorem length_eq_commonLength {start : List BoneId}
    (h : ∀ part, part <+: start ↔ part <+: stack ∧ part <+: path) :
    start.length = commonLength stack path := by
  obtain ⟨hstack, hpath⟩ := (h start).mp (List.prefix_refl start)
  apply Nat.le_antisymm (length_le_commonLength hstack hpath)
  have hcommon : stack.take (commonLength stack path) <+: start := by
    rw [h]
    refine ⟨List.take_prefix _ _, ?_⟩
    rw [take_commonLength]
    exact List.take_prefix _ _
  have hlength := hcommon.length_le
  rw [List.length_take, Nat.min_eq_left (commonLength_le stack path)] at hlength
  exact hlength

/-! ### Moves -/

theorem popCount_replicate (count : Nat) :
    popCount (List.replicate count (.popMatrix 1)) = count := by
  induction count with
  | zero => rfl
  | succ count ih =>
    rw [List.replicate_succ, popCount_cons, ih]
    exact Nat.add_comm 1 count

theorem popCount_pops (limits : StackLimits) (count : Nat) : popCount (pops limits count) = count := by
  unfold pops
  split
  · rename_i hzero
    rw [hzero]
    rfl
  · split
    · rfl
    · exact popCount_replicate count

theorem pushed_pops (limits : StackLimits) (count : Nat) : pushed (pops limits count) = [] := by
  unfold pops
  split
  · rfl
  · split
    · rfl
    · rw [pushed, List.flatMap_replicate]
      exact List.flatten_replicate_nil

theorem popCount_push (skeleton : Skeleton) (bones : List BoneId) :
    popCount (bones.flatMap (push skeleton)) = 0 := by
  induction bones with
  | nil => rfl
  | cons bone rest ih =>
    rw [List.flatMap_cons, popCount_append, ih]
    rfl

theorem pushed_push (skeleton : Skeleton) (bones : List BoneId) :
    pushed (bones.flatMap (push skeleton)) = bones := by
  induction bones with
  | nil => rfl
  | cons bone rest ih =>
    rw [List.flatMap_cons, pushed_append, ih]
    rfl

theorem popCount_moves (skeleton : Skeleton) (limits : StackLimits) (stack path : BoneStack) :
    popCount (moves skeleton limits stack path) = stack.length - commonLength stack path := by
  unfold moves
  rw [popCount_append, popCount_pops, popCount_push, Nat.add_zero]

theorem pushed_moves (skeleton : Skeleton) (limits : StackLimits) (stack path : BoneStack) :
    pushed (moves skeleton limits stack path) = path.drop (commonLength stack path) := by
  unfold moves
  rw [pushed_append, pushed_pops, pushed_push, List.nil_append]

/-- **No way is shorter than the moves.** -/
theorem moves_minimal (skeleton : Skeleton) (limits : StackLimits)
    (h : stack.run? commands = some path) :
    popCount (moves skeleton limits stack path) ≤ popCount commands ∧
      (pushed (moves skeleton limits stack path)).length ≤ (pushed commands).length := by
  have hshared := length_le_commonLength (List.take_prefix _ _) (take_prefix_run? h)
  have hbalance := length_run? h
  have hright := commonLength_le_right stack path
  rw [List.length_take] at hshared
  rw [popCount_moves, pushed_moves, List.length_drop]
  omega

/-- The moves take off what they take off before they put anything on. -/
theorem moves_ordered (h : moves skeleton limits stack path = xs ++ ys) :
    pushed xs = [] ∨ popCount ys = 0 := by
  unfold moves at h
  have hpops := pushed_pops limits (stack.length - commonLength stack path)
  have hpushes := popCount_push skeleton (path.drop (commonLength stack path))
  rcases List.append_eq_append_iff.mp h with ⟨more, _, hrest⟩ | ⟨more, hfirst, _⟩
  · right
    rw [hrest, popCount_append] at hpushes
    omega
  · left
    rw [hfirst, pushed_append] at hpops
    exact (List.append_eq_nil_iff.mp hpops).1

/-- **On the way** to a chain, the stack is never longer than before or after. -/
theorem moves_bounded (h : moves skeleton limits stack path = xs ++ ys) :
    ∃ between, stack.run? xs = some between ∧
      between.length ≤ max stack.length path.length := by
  have hrun := run?_moves skeleton limits stack path
  rw [h] at hrun
  obtain ⟨between, hxs, hys⟩ := run?_append_eq_some hrun
  refine ⟨between, hxs, ?_⟩
  rcases moves_ordered h with hpushes | hpops
  · have hbalance := length_run? hxs
    rw [hpushes, List.length_nil] at hbalance
    omega
  · have hle := (prefix_of_popCount hys hpops).length_le
    omega

/-- A bone is put on what is to be beneath it. -/
theorem moves_beneath {bone : BoneId}
    (h : moves skeleton limits stack path = xs ++ .pushMatrix bone :: ys) :
    ∃ between, stack.run? xs = some between ∧ between ++ [bone] <+: path := by
  have hrun := run?_moves skeleton limits stack path
  rw [h] at hrun
  obtain ⟨between, hxs, hrest⟩ := run?_append_eq_some hrun
  obtain ⟨next, hstep, hys⟩ := run?_cons_eq_some hrest
  obtain rfl : between ++ [bone] = next := Option.some.inj hstep
  refine ⟨between, hxs, prefix_of_popCount hys ?_⟩
  have hsplit : moves skeleton limits stack path = (xs ++ [.pushMatrix bone]) ++ ys := by
    rw [h, List.append_assoc]
    rfl
  rcases moves_ordered hsplit with hpushes | hpops
  · rw [pushed_append] at hpushes
    simp [Command.putsOn] at hpushes
  · exact hpops

end BoneStack

end SceneCompiler
