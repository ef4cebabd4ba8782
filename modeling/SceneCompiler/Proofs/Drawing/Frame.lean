import SceneCompiler.Drawing
import SceneCompiler.Proofs.Hardware.Emission
import SceneCompiler.Proofs.Hardware.Processor
import SceneCompiler.Proofs.Material.Arrival
import SceneCompiler.Proofs.Material.SharedLists

/-!
# What drawing leaves alone

The commands that draw a batch load vertices, move the matrix stack and draw triangles. They do not
touch the registers, the tiles or texture memory, and they call no lists, so the registers at a draw
are those from before its batch. The stack that is kept while they are written is the stack that the
hardware has.
-/

namespace SceneCompiler

/-! ### Commands that concern the registers -/

namespace Command

/-- Whether a command concerns the registers: it sets some, loads, or calls a list that does. -/
def touchesRegisters : Command → Bool
  | state _ | setGeometryMode _ _ | callList _ => true
  | _ => false

variable {c : Command}

theorem isCall_of_not_touches (h : c.touchesRegisters = false) : c.isCall = false := by
  cases c <;> simp_all [touchesRegisters, isCall]

theorem isUpload_of_not_touches (h : c.touchesRegisters = false) : c.isUpload = false := by
  cases c <;> simp_all [touchesRegisters, isUpload, textureLoad?, paletteLoad?]

theorem isMatrix_of_touches (h : c.touchesRegisters = true) : c.isMatrix = false := by
  cases c <;> simp_all [touchesRegisters, isMatrix]

theorem usesSlots_of_touches (h : c.touchesRegisters = true) : c.usesSlots = false := by
  cases c <;> simp_all [touchesRegisters, usesSlots]

theorem touches_of_isMatrix (h : c.isMatrix = true) : c.touchesRegisters = false := by
  cases c <;> simp_all [touchesRegisters, isMatrix]

end Command

namespace MaterialState

theorem Machine.run_of_not_touches (m : Machine) {commands : List Command}
    (h : ∀ c ∈ commands, c.touchesRegisters = false) : m.run commands = m := by
  refine Machine.run_keeps id (fun c hc m => ?_) m
  have hc := h c hc
  cases c with
  | state command => simp [Command.touchesRegisters] at hc
  | setGeometryMode off on => simp [Command.touchesRegisters] at hc
  | _ => rfl

theorem mem_transition {current target : MaterialState} {c : Command}
    (h : c ∈ transition current target) : c.touchesRegisters = true ∧ c.isCall = false := by
  have hwrites : c ∈ writes current target → c.touchesRegisters = true ∧ c.isCall = false := by
    intro hc
    simp only [writes, List.mem_append] at hc
    rcases hc with ((hc | hc) | hc) | hc
    · obtain ⟨r, v, rfl, _⟩ := mem_registerWrites hc
      exact ⟨rfl, rfl⟩
    · obtain ⟨off, on, rfl⟩ := mem_geometryWrites hc
      exact ⟨rfl, rfl⟩
    · obtain ⟨r, v, rfl, _⟩ := mem_registerWrites hc
      exact ⟨rfl, rfl⟩
    · obtain ⟨command, rfl, _⟩ := mem_tileWrites hc
      exact ⟨rfl, rfl⟩
  unfold transition at h
  split at h
  · simp at h
  · rename_i hne
    rcases List.mem_cons.mp h with rfl | hc
    · exact ⟨rfl, rfl⟩
    · exact hwrites hc

end MaterialState

theorem SharedMaterials.mem_lists_build {uses : MaterialUses} {library : MaterialLibrary}
    {default : MaterialState} {list : DisplayList}
    (h : list ∈ (build uses library default).lists) {c : Command} (hc : c ∈ list.commands) :
    c.touchesRegisters = true ∧ c.isCall = false := by
  obtain ⟨⟨key, found⟩, hentry, rfl⟩ := List.mem_map.mp h
  obtain ⟨material, _, hcommands⟩ := (faithful_build uses library default).commands key found hentry
  have hc : c ∈ found.commands := hc
  rw [hcommands] at hc
  exact MaterialState.mem_transition hc

theorem SharedMaterials.mem_commandsOf_build {uses : MaterialUses} {library : MaterialLibrary}
    {default : MaterialState} {name : String} {c : Command}
    (h : c ∈ (build uses library default).commandsOf name) :
    c.touchesRegisters = true ∧ c.isCall = false := by
  unfold commandsOf at h
  cases hfound : (build uses library default).lists.find? (·.name = name) with
  | none =>
    rw [hfound] at h
    simp at h
  | some list =>
    rw [hfound] at h
    exact mem_lists_build (List.mem_of_find?_eq_some hfound) h

theorem SharedMaterials.run?_inline {uses : MaterialUses} {library : MaterialLibrary}
    {default : MaterialState} (stack : BoneStack) (commands : List Command) :
    stack.run? ((build uses library default).inline commands) = stack.run? commands := by
  induction commands generalizing stack with
  | nil => rfl
  | cons c rest ih =>
    have hstep : stack.run? ((build uses library default).expand c) = stack.step? c := by
      cases c with
      | callList name =>
        refine BoneStack.run?_of_not_isMatrix _ fun d hd => ?_
        exact Command.isMatrix_of_touches (mem_commandsOf_build hd).1
      | _ => exact BoneStack.run?_singleton stack _
    rw [inline, List.flatMap_cons, BoneStack.run?_append, hstep, BoneStack.run?_cons]
    exact congrArg _ (funext fun reached => ih reached)

/-! ### Drawing -/

/-- Commands that lead from one pipeline to another without a change of registers, as far as the
matrix stack is concerned. -/
structure Pipeline.Follows (p : Pipeline) (commands : List Command) (reached : Pipeline) : Prop where
  registers : reached.registers = p.registers
  inert : ∀ c ∈ commands, c.touchesRegisters = false
  stack : p.stack.run? commands = some reached.stack

namespace Pipeline.Follows

theorem nil (p : Pipeline) : p.Follows [] p := ⟨rfl, by simp, rfl⟩

theorem append {p q r : Pipeline} {xs ys : List Command} (hpq : p.Follows xs q)
    (hqr : q.Follows ys r) : p.Follows (xs ++ ys) r where
  registers := hqr.registers.trans hpq.registers
  inert c hc := by
    rcases List.mem_append.mp hc with hc | hc
    · exact hpq.inert c hc
    · exact hqr.inert c hc
  stack := by
    rw [BoneStack.run?_append, hpq.stack]
    exact hqr.stack

theorem forEach {α : Type} {emit : Pipeline → α → Emission Pipeline}
    (hemit : ∀ p a, (emit p a).failure = none → p.Follows (emit p a).commands (emit p a).state)
    {p : Pipeline} {list : List α} (h : (Emission.forEach emit p list).failure = none) :
    p.Follows (Emission.forEach emit p list).commands (Emission.forEach emit p list).state :=
  Emission.forEach_induction (R := fun p _ commands reached => p.Follows commands reached)
    nil (fun p a _ _ _ hfirst hrest => (hemit p a hfirst).append hrest) h

end Pipeline.Follows

/-- Moving the matrix stack, if it succeeds, leaves the chain of the bone on it. -/
theorem Pipeline.moveTo_ok {skeleton : Skeleton} {limits : StackLimits} {p : Pipeline}
    {target : Option BoneId} (h : (p.moveTo skeleton limits target).failure = none) :
    (p.moveTo skeleton limits target).state = { p with stack := skeleton.pathFromRoot target } ∧
      (skeleton.pathFromRoot target).length ≤ limits.depth ∧
      (p.moveTo skeleton limits target).commands =
        p.stack.moves skeleton limits (skeleton.pathFromRoot target) := by
  unfold moveTo at h ⊢
  cases hmove : p.stack.moveTo skeleton limits target with
  | error failure =>
    rw [hmove] at h
    simp at h
  | ok result =>
    unfold BoneStack.moveTo at hmove
    dsimp only at hmove
    split at hmove
    · simp at hmove
    · rename_i hdepth
      obtain rfl := Except.ok.inj hmove
      exact ⟨rfl, Nat.le_of_not_lt hdepth, rfl⟩

theorem Pipeline.follows_moveTo {skeleton : Skeleton} {limits : StackLimits} {p : Pipeline}
    {target : Option BoneId} (h : (p.moveTo skeleton limits target).failure = none) :
    p.Follows (p.moveTo skeleton limits target).commands
      (p.moveTo skeleton limits target).state := by
  obtain ⟨hstate, _, hcommands⟩ := moveTo_ok h
  rw [hstate, hcommands]
  refine ⟨rfl, fun c hc => ?_, BoneStack.run?_moves _ _ _ _⟩
  rcases BoneStack.mem_moves hc with hmatrix | ⟨text, rfl⟩
  · exact Command.touches_of_isMatrix hmatrix
  · rfl

namespace Canvas

variable {canvas : Canvas} {buffer : BufferId} {mesh : SkinnedMesh} {p : Pipeline}

theorem follows_load {group : List (VertexKey × Nat)}
    (h : (canvas.load buffer p group).failure = none) :
    p.Follows (canvas.load buffer p group).commands (canvas.load buffer p group).state := by
  cases group with
  | nil => exact .nil p
  | cons first rest =>
    obtain ⟨hmove, _⟩ := Emission.andThen_failure h
    rw [load, Emission.andThen_commands hmove, Emission.andThen_state hmove]
    refine (Pipeline.follows_moveTo hmove).append ⟨rfl, ?_, rfl⟩
    intro c hc
    obtain rfl := List.mem_singleton.mp hc
    rfl

theorem mem_drawPairs {triangles : List SlotTriangle} {c : Command}
    (h : c ∈ drawPairs triangles) :
    (∃ t ∈ triangles, c = .triangle t) ∨
      ∃ t ∈ triangles, ∃ u ∈ triangles, c = .trianglePair t u := by
  induction triangles using drawPairs.induct with
  | case1 => simp [drawPairs] at h
  | case2 single =>
    obtain rfl := List.mem_singleton.mp h
    exact Or.inl ⟨single, List.mem_cons_self, rfl⟩
  | case3 first second rest ih =>
    have hrest : ∀ {t}, t ∈ rest → t ∈ first :: second :: rest := fun ht =>
      List.mem_cons_of_mem first (List.mem_cons_of_mem second ht)
    rcases List.mem_cons.mp h with rfl | h
    · exact Or.inr ⟨first, by simp, second, by simp, rfl⟩
    · rcases ih h with ⟨t, ht, rfl⟩ | ⟨t, ht, u, hu, rfl⟩
      · exact Or.inl ⟨t, hrest ht, rfl⟩
      · exact Or.inr ⟨t, hrest ht, u, hrest hu, rfl⟩

/-- Triangles are drawn by commands for one or two of them. -/
theorem mem_draw {triangles : List SlotTriangle} {c : Command}
    (h : c ∈ canvas.draw triangles) :
    (∃ t ∈ triangles, c = .triangle t) ∨
      ∃ t ∈ triangles, ∃ u ∈ triangles, c = .trianglePair t u := by
  unfold draw at h
  split at h
  · exact mem_drawPairs h
  · obtain ⟨t, ht, rfl⟩ := List.mem_map.mp h
    exact Or.inl ⟨t, ht, rfl⟩

theorem follows_draw (canvas : Canvas) (p : Pipeline) (triangles : List SlotTriangle) :
    p.Follows (canvas.draw triangles) p := by
  have hinert : ∀ c ∈ canvas.draw triangles, c.touchesRegisters = false ∧ c.isMatrix = false := by
    intro c hc
    rcases mem_draw hc with ⟨_, _, rfl⟩ | ⟨_, _, _, _, rfl⟩
    · exact ⟨rfl, rfl⟩
    · exact ⟨rfl, rfl⟩
  exact ⟨rfl, fun c hc => (hinert c hc).1,
    BoneStack.run?_of_not_isMatrix _ fun c hc => (hinert c hc).2⟩

theorem follows_drawRun {bone : Option BoneId} {run : Run}
    (h : (canvas.drawRun mesh bone buffer p run).failure = none) :
    p.Follows (canvas.drawRun mesh bone buffer p run).commands
      (canvas.drawRun mesh bone buffer p run).state := by
  unfold drawRun at h ⊢
  dsimp only at h ⊢
  split at h
  · simp at h
  · obtain ⟨hloads, _⟩ := Emission.andThen_failure h
    rw [Emission.andThen_commands hloads, Emission.andThen_state hloads]
    exact (Pipeline.Follows.forEach (fun p group => follows_load) hloads).append
      (follows_draw canvas _ _)

/-- **Drawing a batch leaves the registers alone**, and the stack is where it is thought to be. -/
theorem follows_drawBatch {pair : BonePair}
    (h : (canvas.drawBatch mesh pair buffer p).failure = none) :
    p.Follows (canvas.drawBatch mesh pair buffer p).commands
      (canvas.drawBatch mesh pair buffer p).state :=
  Pipeline.Follows.forEach (fun _ _ => follows_drawRun) h

end Canvas

end SceneCompiler
