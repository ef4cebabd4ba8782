import SceneCompiler.Proofs.Drawing.Geometry

/-!
# What is loaded

The loads of a list can be read off its commands, or be taken from a processor that has run it; both
tell the same (`Processor.loads_run?`). A vertex that is in a slot, or was drawn from one, came there
by a load, so nothing is drawn from a buffer that was not loaded (`Processor.Backed`). Every load
that is written for a batch is from the batch's buffer and not empty (`Canvas.span?_drawBatch`).
-/

namespace SceneCompiler

/-- Which vertices a command loads, if it does: the buffer, the first one, and how many. -/
def Command.span? : Command → Option (BufferId × Nat × Nat)
  | loadVertices buffer offset count _ => some (buffer, offset, count)
  | _ => none

def VertexLoad.span (load : VertexLoad) : BufferId × Nat × Nat :=
  (load.buffer, load.offset, load.count)

theorem Command.span?_of_not_usesSlots {c : Command} (h : c.usesSlots = false) : c.span? = none := by
  cases c <;> first | rfl | simp [usesSlots] at h

/-- The faces that a command draws. -/
def Command.faces : Command → List SlotTriangle
  | triangle face => [face]
  | trianglePair first second => [first, second]
  | _ => []

namespace Processor

variable {proc after : Processor} {c : Command} {commands : List Command}

/-- **What a step does.**  It loads vertices, or it draws the faces of the command and moves the stack
at most. -/
theorem step?_cases (h : proc.step? c = some after) :
    (∃ buffer offset count slot, c = .loadVertices buffer offset count slot ∧
        after = { proc with
          slots := proc.fill buffer offset count slot
          loads := proc.loads ++ [⟨proc.stack, buffer, offset, count⟩] }) ∨
      (c.span? = none ∧ ∃ stack,
        after = { proc with stack, drawn := proc.drawn ++ c.faces.map proc.read }) := by
  cases c with
  | loadVertices buffer offset count slot =>
    exact Or.inl ⟨buffer, offset, count, slot, rfl, (Option.some.inj h).symm⟩
  | triangle face => exact Or.inr ⟨rfl, proc.stack, (Option.some.inj h).symm⟩
  | trianglePair first second => exact Or.inr ⟨rfl, proc.stack, (Option.some.inj h).symm⟩
  | _ =>
    unfold step? at h
    obtain ⟨stack, _, rfl⟩ := Option.map_eq_some_iff.mp h
    exact Or.inr ⟨rfl, stack, by simp [Command.faces]⟩

/-! ### Loads that are recorded -/

theorem loads_step? (h : proc.step? c = some after) :
    after.loads.map VertexLoad.span = proc.loads.map VertexLoad.span ++ c.span?.toList := by
  rcases step?_cases h with ⟨buffer, offset, count, slot, rfl, rfl⟩ | ⟨hspan, stack, rfl⟩
  · exact List.map_append
  · rw [hspan, Option.toList_none, List.append_nil]

theorem loads_run? (h : proc.run? commands = some after) :
    after.loads.map VertexLoad.span =
      proc.loads.map VertexLoad.span ++ commands.filterMap Command.span? := by
  induction commands generalizing proc with
  | nil =>
    obtain rfl := Option.some.inj h
    simp
  | cons c rest ih =>
    rw [run?_cons, Option.bind_eq_some_iff] at h
    obtain ⟨next, hnext, hrest⟩ := h
    rw [ih hrest, loads_step? hnext, List.append_assoc, List.filterMap_cons]
    cases c.span? <;> rfl

/-! ### Vertices that were loaded -/

/-- Every vertex in a slot or in a drawn triangle is from a buffer that was loaded. -/
structure Backed (proc : Processor) : Prop where
  slots : ∀ slot key, proc.slots slot = some key → ∃ load ∈ proc.loads, load.buffer = key.buffer
  drawn : ∀ triangle ∈ proc.drawn, ∀ key, some key ∈ [triangle.a, triangle.b, triangle.c] →
    ∃ load ∈ proc.loads, load.buffer = key.buffer

theorem Backed.step? (h : proc.Backed) (hstep : proc.step? c = some after) : after.Backed := by
  rcases step?_cases hstep with ⟨buffer, offset, count, slot, rfl, rfl⟩ | ⟨_, stack, rfl⟩
  · have hmore : ∀ {key : VertexKey}, (∃ load ∈ proc.loads, load.buffer = key.buffer) →
        ∃ load ∈ proc.loads ++ [⟨proc.stack, buffer, offset, count⟩], load.buffer = key.buffer := by
      rintro key ⟨load, hload, hsame⟩
      exact ⟨load, List.mem_append_left _ hload, hsame⟩
    refine ⟨fun i key hkey => ?_, fun triangle ht key hkey => hmore (h.drawn triangle ht key hkey)⟩
    change proc.fill buffer offset count slot i = some key at hkey
    unfold fill at hkey
    split at hkey
    · obtain rfl := Option.some.inj hkey
      exact ⟨_, List.mem_append_right _ List.mem_cons_self, rfl⟩
    · exact hmore (h.slots i key hkey)
  · refine ⟨h.slots, fun triangle ht key hkey => ?_⟩
    rcases List.mem_append.mp ht with ht | ht
    · exact h.drawn triangle ht key hkey
    · obtain ⟨face, _, rfl⟩ := List.mem_map.mp ht
      simp only [read, List.mem_cons, List.not_mem_nil, or_false] at hkey
      rcases hkey with ha | hb | hc
      · exact h.slots _ key ha.symm
      · exact h.slots _ key hb.symm
      · exact h.slots _ key hc.symm

theorem Backed.run? (h : proc.Backed) (hrun : proc.run? commands = some after) : after.Backed := by
  induction commands generalizing proc with
  | nil =>
    obtain rfl := Option.some.inj hrun
    exact h
  | cons c rest ih =>
    rw [run?_cons, Option.bind_eq_some_iff] at hrun
    obtain ⟨next, hnext, hrest⟩ := hrun
    exact ih (h.step? hnext) hrest

theorem backed_empty : Backed {} := ⟨by simp, by simp⟩

end Processor

/-! ### Loads that are written -/

namespace Emission

variable {σ α : Type}

theorem mem_andThen {first : Emission σ} {next : σ → Emission σ} {c : Command}
    (h : c ∈ (first.andThen next).commands) :
    c ∈ first.commands ∨ c ∈ (next first.state).commands := by
  unfold andThen at h
  split at h
  · exact Or.inl h
  · exact List.mem_append.mp h

theorem mem_forEach {emit : σ → α → Emission σ} {s : σ} {list : List α} {c : Command}
    (h : c ∈ (forEach emit s list).commands) : ∃ t, ∃ a ∈ list, c ∈ (emit t a).commands := by
  induction list generalizing s with
  | nil => simp [forEach] at h
  | cons a rest ih =>
    rcases mem_andThen h with hfirst | hrest
    · exact ⟨s, a, List.mem_cons_self, hfirst⟩
    · obtain ⟨t, b, hb, hc⟩ := ih hrest
      exact ⟨t, b, List.mem_cons_of_mem a hb, hc⟩

end Emission

theorem Pipeline.span?_moveTo {skeleton : Skeleton} {limits : StackLimits} {p : Pipeline}
    {target : Option BoneId} {c : Command} (h : c ∈ (p.moveTo skeleton limits target).commands) :
    c.span? = none := by
  have hsucceeds : (p.moveTo skeleton limits target).failure = none := by
    unfold moveTo at h ⊢
    split
    · rfl
    · rename_i hfailure
      simp [hfailure] at h
  rw [(moveTo_ok hsucceeds).2.2] at h
  exact Command.span?_of_not_usesSlots (Command.usesSlots_of_move (BoneStack.mem_moves h))

namespace Canvas

variable {canvas : Canvas} {buffer : BufferId} {mesh : SkinnedMesh} {p : Pipeline} {c : Command}
  {span : BufferId × Nat × Nat}

theorem span?_load {group : List (VertexKey × Nat)}
    (hc : c ∈ (canvas.load buffer p group).commands) (h : c.span? = some span) :
    span.1 = buffer ∧ 0 < span.2.2 := by
  cases group with
  | nil => simp [load] at hc
  | cons first rest =>
    rcases Emission.mem_andThen hc with hmove | hload
    · rw [Pipeline.span?_moveTo hmove] at h
      simp at h
    · obtain rfl := List.mem_singleton.mp hload
      obtain rfl := Option.some.inj h
      exact ⟨rfl, Nat.succ_pos _⟩

theorem span?_drawRun {bone : Option BoneId} {run : Run}
    (hc : c ∈ (canvas.drawRun mesh bone buffer p run).commands) (h : c.span? = some span) :
    span.1 = buffer ∧ 0 < span.2.2 := by
  unfold drawRun at hc
  dsimp only at hc
  split at hc
  · simp at hc
  · rcases Emission.mem_andThen hc with hload | hdraw
    · obtain ⟨_, _, _, hgroup⟩ := Emission.mem_forEach hload
      exact span?_load hgroup h
    · rcases mem_draw hdraw with ⟨_, _, rfl⟩ | ⟨_, _, _, _, rfl⟩
      · simp [Command.span?] at h
      · simp [Command.span?] at h

/-- **Loads for a batch** are from the batch's buffer, and none is empty. -/
theorem span?_drawBatch {pair : BonePair}
    (hc : c ∈ (canvas.drawBatch mesh pair buffer p).commands) (h : c.span? = some span) :
    span.1 = buffer ∧ 0 < span.2.2 := by
  obtain ⟨_, _, _, hrun⟩ := Emission.mem_forEach hc
  exact span?_drawRun hrun h

end Canvas

end SceneCompiler
