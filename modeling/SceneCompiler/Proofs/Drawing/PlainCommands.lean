import SceneCompiler.Drawing

/-!
# Plain commands

Some hardware draws two triangles by one command, and some takes several matrices off the stack by
one command. What such a command does can be said in plain commands: one triangle each, and one
matrix each (`Command.plain`).

Nothing that is decided while a batch is drawn depends on what the hardware can do in this respect.
So drawing for hardware that has only plain commands writes what drawing for any hardware does, in
plain commands, and it leads to the same state or fails alike (`Canvas.plain_drawBatch`).
-/

namespace SceneCompiler

namespace Command

/-- What every hardware can do in the place of a command. -/
def plain : Command → List Command
  | trianglePair first second => [triangle first, triangle second]
  | popMatrix count => List.replicate count (popMatrix 1)
  | c => [c]

theorem flatMap_plain_eq_self {commands : List Command} (h : ∀ c ∈ commands, c.plain = [c]) :
    commands.flatMap plain = commands := by
  induction commands with
  | nil => rfl
  | cons c rest ih =>
    rw [List.flatMap_cons, h c List.mem_cons_self, ih fun d hd => h d (List.mem_cons_of_mem c hd)]
    rfl

end Command

/-! ### Emissions -/

namespace Emission

variable {σ α : Type}

def plain (e : Emission σ) : Emission σ := { e with commands := e.commands.flatMap Command.plain }

theorem plain_andThen (first : Emission σ) {next plainNext : σ → Emission σ}
    (h : ∀ s, (next s).plain = plainNext s) :
    (first.andThen next).plain = first.plain.andThen plainNext := by
  obtain ⟨state, commands, failure⟩ := first
  cases failure with
  | some failure => rfl
  | none => simp [andThen, plain, ← h]

theorem plain_forEach {emit plainEmit : σ → α → Emission σ}
    (h : ∀ s a, (emit s a).plain = plainEmit s a) (s : σ) (list : List α) :
    (forEach emit s list).plain = forEach plainEmit s list := by
  induction list generalizing s with
  | nil => rfl
  | cons a rest ih =>
    rw [forEach, forEach, plain_andThen _ ih, h]

end Emission

/-! ### Moves -/

/-- The same stack, from which matrices are taken one by one. -/
def StackLimits.plain (limits : StackLimits) : StackLimits := { limits with popsMany := false }

namespace BoneStack

theorem plain_pops (limits : StackLimits) (count : Nat) :
    (pops limits count).flatMap Command.plain = pops limits.plain count := by
  unfold pops
  by_cases hzero : count = 0
  · simp [hzero]
  · have hsingle : (List.replicate count (Command.popMatrix 1)).flatMap Command.plain =
        List.replicate count (.popMatrix 1) := by
      apply Command.flatMap_plain_eq_self
      intro c hc
      obtain rfl := List.eq_of_mem_replicate hc
      rfl
    cases hmany : limits.popsMany with
    | true => simp [hzero, StackLimits.plain, Command.plain]
    | false => simpa [hzero, StackLimits.plain] using hsingle

theorem plain_moves (skeleton : Skeleton) (limits : StackLimits) (stack path : List BoneId) :
    (moves skeleton limits stack path).flatMap Command.plain =
      moves skeleton limits.plain stack path := by
  have hpushes : ∀ bones : List BoneId,
      (bones.flatMap (push skeleton)).flatMap Command.plain = bones.flatMap (push skeleton) := by
    intro bones
    apply Command.flatMap_plain_eq_self
    intro c hc
    obtain ⟨bone, _, hbone⟩ := List.mem_flatMap.mp hc
    simp only [push, List.mem_cons, List.not_mem_nil, or_false] at hbone
    rcases hbone with rfl | rfl <;> rfl
  simp only [moves, List.flatMap_append, plain_pops, hpushes]

end BoneStack

theorem Pipeline.plain_moveTo (skeleton : Skeleton) (limits : StackLimits) (p : Pipeline)
    (target : Option BoneId) :
    (p.moveTo skeleton limits target).plain = p.moveTo skeleton limits.plain target := by
  unfold moveTo BoneStack.moveTo
  have hdepth : limits.plain.depth = limits.depth := rfl
  dsimp only
  rw [hdepth]
  split
  · rename_i commands stack hmove
    split at hmove
    · simp at hmove
    · rename_i hfits
      obtain ⟨rfl, rfl⟩ := Prod.mk.inj (Except.ok.inj hmove)
      simp [hfits, Emission.plain, BoneStack.plain_moves]
  · rename_i failure hmove
    split at hmove
    · rename_i hlong
      obtain rfl := Except.error.inj hmove
      simp [hlong, Emission.plain]
    · simp at hmove

/-! ### Drawing -/

namespace Canvas

def plain (canvas : Canvas) : Canvas where
  skeleton := canvas.skeleton
  limits := canvas.limits.plain
  drawsPairs := false

variable (canvas : Canvas) (mesh : SkinnedMesh) (buffer : BufferId)

theorem plain_drawPairs (triangles : List SlotTriangle) :
    (drawPairs triangles).flatMap Command.plain = triangles.map .triangle := by
  induction triangles using drawPairs.induct with
  | case1 => rfl
  | case2 single => rfl
  | case3 first second rest ih =>
    rw [drawPairs, List.flatMap_cons, ih]
    rfl

theorem plain_draw (triangles : List SlotTriangle) :
    (canvas.draw triangles).flatMap Command.plain = canvas.plain.draw triangles := by
  have hplain : canvas.plain.draw triangles = triangles.map .triangle := rfl
  rw [hplain, draw]
  split
  · exact plain_drawPairs triangles
  · apply Command.flatMap_plain_eq_self
    intro c hc
    obtain ⟨triangle, _, rfl⟩ := List.mem_map.mp hc
    rfl

theorem plain_load (p : Pipeline) (group : List (VertexKey × Nat)) :
    (canvas.load buffer p group).plain = canvas.plain.load buffer p group := by
  cases group with
  | nil => rfl
  | cons first rest =>
    rw [load, Emission.plain_andThen _ fun _ => rfl, Pipeline.plain_moveTo]
    rfl

theorem plain_drawRun (bone : Option BoneId) (p : Pipeline) (run : Run) :
    (canvas.drawRun mesh bone buffer p run).plain =
      canvas.plain.drawRun mesh bone buffer p run := by
  unfold drawRun
  dsimp only
  split
  · rfl
  · have hdraw : ∀ (loaded : Pipeline) (triangles : List SlotTriangle),
        Emission.plain { state := loaded, commands := canvas.draw triangles } =
          { state := loaded, commands := canvas.plain.draw triangles } := by
      intro loaded triangles
      rw [Emission.plain, plain_draw]
    rw [Emission.plain_andThen _ fun loaded => hdraw loaded _,
      Emission.plain_forEach (canvas.plain_load buffer)]

/-- **Drawing in plain commands.** -/
theorem plain_drawBatch (pair : BonePair) (p : Pipeline) :
    (canvas.drawBatch mesh pair buffer p).plain = canvas.plain.drawBatch mesh pair buffer p :=
  Emission.plain_forEach (canvas.plain_drawRun mesh buffer pair.1) p _

end Canvas

end SceneCompiler
