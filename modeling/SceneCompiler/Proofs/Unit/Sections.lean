import SceneCompiler.Proofs.Drawing.Frame
import SceneCompiler.UnitCompiler

/-!
# The sections of a unit

A unit that was compiled consists of the test of its bounding box, one section for each batch with a
mesh, and the commands that bring the hardware back to rest. What each of these parts can be is said
here once (`ExportContext.compileUnit_ok`, `ExportContext.writeBatch_ok`); what holds of a draft and
is carried over every batch holds at the end (`ExportContext.writeBatches_induction`).

Every draw of a unit belongs to the section of one batch (`ExportContext.exists_drawsFor`).
-/

namespace SceneCompiler

def Section.commands (s : Section) : List Command := s.switch ++ s.drawing

namespace UnitDraft

/-- What has been written. -/
def written (draft : UnitDraft) : List Command :=
  draft.prologue ++ draft.sections.flatMap Section.commands

theorem written_append {draft reached : UnitDraft} {s : Section}
    (hprologue : reached.prologue = draft.prologue)
    (hsections : reached.sections = draft.sections ++ [s]) :
    reached.written = draft.written ++ s.commands := by
  simp [written, hprologue, hsections]

/-- A draw in a section that follows some others, after some commands. -/
def DrawsIn (draft : UnitDraft) (earlier : List Section) (s : Section) (before : List Command) :
    Prop :=
  ∃ later drawn c rest, draft.sections = earlier ++ s :: later ∧ s.drawing = drawn ++ c :: rest ∧
    0 < c.triangleCount ∧
    before = draft.prologue ++ earlier.flatMap Section.commands ++ s.switch ++ drawn

/-- A draw that is emitted for a batch, after some commands. -/
def DrawsFor (draft : UnitDraft) (batch : Batch) (before : List Command) : Prop :=
  ∃ earlier s, draft.DrawsIn earlier s before ∧ s.batch = batch

theorem split_append_singleton {sections earlier later : List Section} {s t : Section}
    (h : sections ++ [s] = earlier ++ t :: later) :
    (later = [] ∧ sections = earlier ∧ s = t) ∨
      ∃ start, later = start ++ [s] ∧ sections = earlier ++ t :: start := by
  rcases List.eq_nil_or_concat later with rfl | ⟨start, last, rfl⟩
  · obtain ⟨hearlier, hlast⟩ := List.append_inj' h rfl
    exact Or.inl ⟨rfl, hearlier, List.singleton_inj.mp hlast⟩
  · rw [List.concat_eq_append, ← List.cons_append, ← List.append_assoc] at h
    obtain ⟨hinit, hlast⟩ := List.append_inj' h rfl
    rw [List.singleton_inj.mp hlast, List.concat_eq_append]
    exact Or.inr ⟨start, rfl, hinit⟩

/-- A draw of a draft with one section more is a draw of the draft, or one of this section. -/
theorem DrawsFor.of_append {draft reached : UnitDraft} {s : Section} {batch : Batch}
    {before : List Command} (h : reached.DrawsFor batch before)
    (hprologue : reached.prologue = draft.prologue)
    (hsections : reached.sections = draft.sections ++ [s]) :
    draft.DrawsFor batch before ∨
      (s.batch = batch ∧ ∃ drawn c rest, s.drawing = drawn ++ c :: rest ∧
        before = draft.written ++ s.switch ++ drawn) := by
  obtain ⟨earlier, t, ⟨later, drawn, c, rest, hsplit, hdrawing, hc, rfl⟩, hbatch⟩ := h
  rw [hprologue]
  rw [hsections] at hsplit
  rcases split_append_singleton hsplit with ⟨_, rfl, rfl⟩ | ⟨start, _, hinit⟩
  · exact Or.inr ⟨hbatch, drawn, c, rest, hdrawing, rfl⟩
  · exact Or.inl ⟨earlier, t, ⟨start, drawn, c, rest, hinit, hdrawing, hc, rfl⟩, hbatch⟩

end UnitDraft

namespace ExportContext

variable {ctx : ExportContext}

/-! ### Materials -/

theorem switchMaterial_unresolved {registers : MaterialState} {batch : Batch}
    (h : ∀ key, batch.material = some key → ctx.scene.library.get? key = none) :
    ctx.switchMaterial registers batch = ([], registers) := by
  unfold switchMaterial
  cases hkey : batch.material with
  | none => rfl
  | some key => simp [h key hkey]

/-- For an existing material commands are written unless it is in place already. -/
theorem switchMaterial_resolved {registers : MaterialState} {batch : Batch} {key : MaterialKey}
    {material : Material} (hkey : batch.material = some key)
    (hmaterial : ctx.scene.library.get? key = some material) :
    ctx.switchMaterial registers batch =
      if registers.satisfies material.state then ([], registers)
      else
        ([.comment s!"Material {material.name}"] ++ ctx.materialCommands registers key material ++
            [.comment s!"End Material {material.name}"],
          ctx.materialReached registers key material) := by
  simp [switchMaterial, hkey, hmaterial]

/-! ### Batches -/

theorem provideBuffer_frame {draft provided : UnitDraft} {id : MeshId} {mesh : SkinnedMesh}
    {buffer : BufferId} (h : ctx.provideBuffer draft id mesh = (provided, buffer)) :
    provided.pipeline = draft.pipeline ∧ provided.prologue = draft.prologue ∧
      provided.sections = draft.sections ∧ provided.culling = draft.culling := by
  unfold provideBuffer at h
  dsimp only at h
  split at h
  · obtain ⟨rfl, _⟩ := Prod.mk.inj h
    exact ⟨rfl, rfl, rfl, rfl⟩
  · obtain ⟨rfl, _⟩ := Prod.mk.inj h
    exact ⟨rfl, rfl, rfl, rfl⟩

/-- The draft with the registers switched to a batch's material. -/
def switched (ctx : ExportContext) (draft : UnitDraft) (batch : Batch) : UnitDraft :=
  { draft with
    pipeline :=
      { draft.pipeline with registers := (ctx.switchMaterial draft.pipeline.registers batch).2 } }

/-- **What a batch with a mesh writes**, whether or not its drawing fails. -/
theorem writeBatch_of_mesh {draft provided : UnitDraft} {batch : Batch} {id : MeshId}
    {mesh : SkinnedMesh} {buffer : BufferId} (hid : batch.mesh = some id)
    (hmesh : ctx.scene.mesh id = .ok mesh)
    (hprovided : ctx.provideBuffer (ctx.switched draft batch) id mesh = (provided, buffer))
    {drawn : Emission Pipeline}
    (hdrawn : drawn = (ctx.settings.canvas ctx.scene.skeleton).drawBatch mesh batch.bones buffer
      provided.pipeline) :
    ctx.writeBatch draft batch =
      ({ provided with
          pipeline := drawn.state
          sections := provided.sections ++
            [{ batch, switch := (ctx.switchMaterial draft.pipeline.registers batch).1,
               drawing := drawn.commands }] },
        drawn.failure) := by
  obtain ⟨rfl, rfl⟩ := Prod.mk.inj hprovided
  subst hdrawn
  simp only [writeBatch, hid, hmesh]
  rfl

/-- **What writing a batch does.**  A batch without a mesh is passed over. Otherwise the registers
are switched, a buffer is provided, and the faces are drawn. -/
theorem writeBatch_ok {draft reached : UnitDraft} {batch : Batch}
    (h : ctx.writeBatch draft batch = (reached, none)) :
    (batch.mesh = none ∧ reached = draft) ∨
      ∃ id mesh provided buffer, batch.mesh = some id ∧ ctx.scene.mesh id = .ok mesh ∧
        ctx.provideBuffer (ctx.switched draft batch) id mesh = (provided, buffer) ∧
        ∃ drawn, drawn = (ctx.settings.canvas ctx.scene.skeleton).drawBatch mesh batch.bones buffer
            provided.pipeline ∧ drawn.failure = none ∧
          reached =
            { provided with
              pipeline := drawn.state
              sections := provided.sections ++
                [{ batch, switch := (ctx.switchMaterial draft.pipeline.registers batch).1,
                   drawing := drawn.commands }] } := by
  unfold writeBatch at h
  split at h
  · rename_i hmesh
    exact Or.inl ⟨hmesh, (Prod.mk.inj h).1.symm⟩
  · rename_i id hmesh
    split at h
    · simp at h
    · rename_i mesh hscene
      obtain ⟨hreached, hfailure⟩ := Prod.mk.inj h
      exact Or.inr ⟨id, mesh, _, _, hmesh, hscene, rfl, _, rfl, hfailure, hreached.symm⟩

/-- As far as the registers and the matrix stack are concerned, a batch adds one section, in which
the registers are switched first and then left alone. -/
theorem writeBatch_section {draft reached : UnitDraft} {batch : Batch}
    (h : ctx.writeBatch draft batch = (reached, none)) :
    reached = draft ∨
      ∃ s : Section, s.batch = batch ∧
        s.switch = (ctx.switchMaterial draft.pipeline.registers batch).1 ∧
        (ctx.switched draft batch).pipeline.Follows s.drawing reached.pipeline ∧
        reached.prologue = draft.prologue ∧ reached.sections = draft.sections ++ [s] := by
  rcases writeBatch_ok h with ⟨_, rfl⟩ | ⟨id, mesh, provided, buffer, _, _, hprovided, drawn, hdrawn,
    hfailure, rfl⟩
  · exact Or.inl rfl
  · obtain ⟨hpipeline, hprologue, hsections, _⟩ := provideBuffer_frame hprovided
    subst hdrawn
    have hfollows := Canvas.follows_drawBatch hfailure
    rw [hpipeline] at hfollows
    refine Or.inr ⟨_, rfl, rfl, ?_, hprologue, by rw [hsections]; rfl⟩
    simpa only [hpipeline] using hfollows

/-- What is carried over each batch, as the batches that are written become more, holds in the
end. -/
theorem writeBatches_history {P : List Batch → UnitDraft → Prop} {batches : List Batch}
    (done : List Batch)
    (step : ∀ done draft batch reached, batch ∈ batches → P done draft →
      ctx.writeBatch draft batch = (reached, none) → P (done ++ [batch]) reached)
    {draft reached : UnitDraft} (h : ctx.writeBatches draft batches = (reached, none))
    (start : P done draft) :
    P (done ++ batches) reached := by
  induction batches generalizing done draft with
  | nil =>
    obtain rfl := (Prod.mk.inj h).1
    rw [List.append_nil]
    exact start
  | cons batch rest ih =>
    rw [writeBatches] at h
    split at h
    · simp at h
    · rename_i next hnext
      have hrest := ih (done ++ [batch])
        (fun done d b r hb => step done d b r (List.mem_cons_of_mem batch hb)) h
        (step done draft batch next List.mem_cons_self start hnext)
      rw [List.append_assoc] at hrest
      exact hrest

/-- What holds of a draft and is carried over each of the batches holds in the end. -/
theorem writeBatches_induction {P : UnitDraft → Prop} {batches : List Batch}
    (step : ∀ draft batch reached, batch ∈ batches → P draft →
      ctx.writeBatch draft batch = (reached, none) → P reached)
    {draft reached : UnitDraft} (h : ctx.writeBatches draft batches = (reached, none))
    (start : P draft) : P reached :=
  writeBatches_history (P := fun _ => P) [] (fun _ => step) h start

/-! ### Units -/

theorem startDraft_ok {name : String} {batches : List Batch} {nextBuffer : BufferId}
    {started : UnitDraft} (h : ctx.startDraft name batches nextBuffer = (started, none)) :
    started = ctx.emptyDraft nextBuffer ∨
      ∃ meshes, started = ctx.writeCulling name (ctx.emptyDraft nextBuffer) meshes := by
  unfold startDraft at h
  dsimp only at h
  split at h
  · split at h
    · simp at h
    · rename_i meshes _
      exact Or.inr ⟨meshes, (Prod.mk.inj h).1.symm⟩
  · exact Or.inl (Prod.mk.inj h).1.symm

theorem draft_ok {name : String} {batches : List Batch} {nextBuffer : BufferId}
    {draft : UnitDraft} (h : ctx.draft name batches nextBuffer = (draft, none)) :
    ∃ started, ctx.startDraft name batches nextBuffer = (started, none) ∧
      ctx.writeBatches started batches = (draft, none) := by
  unfold ExportContext.draft at h
  split at h
  · simp at h
  · rename_i started hstarted
    exact ⟨started, hstarted, h⟩

/-- The end of a unit takes all bones off the stack and then brings the registers to rest. -/
theorem closing_ok {p : Pipeline} (h : (ctx.closing p).failure = none) :
    ∃ moves, (ctx.closing p).commands = moves ++ MaterialState.transition p.registers ctx.default ∧
      p.Follows moves { p with stack := [] } ∧
      ∀ c ∈ moves, c.isMatrix = true ∨ ∃ text, c = .comment text := by
  obtain ⟨hmove, _⟩ := Emission.andThen_failure h
  have hfollows := Pipeline.follows_moveTo hmove
  obtain ⟨hstate, _, hcommands⟩ := Pipeline.moveTo_ok hmove
  refine ⟨(p.moveTo ctx.scene.skeleton ctx.settings.stackLimits none).commands, ?_, ?_, ?_⟩
  · rw [closing, Emission.andThen_commands hmove, hstate]
  · rw [hstate] at hfollows
    exact hfollows
  · intro c hc
    rw [hcommands] at hc
    exact BoneStack.mem_moves hc

/-- **What a compiled unit is.**  A draft of all batches was written without failure, and after it
come the moves that take all bones off the stack and the commands that bring the registers to
rest. -/
theorem compileUnit_ok {name : String} {batches : List Batch} {nextBuffer : BufferId}
    {unit : CompiledUnit} (h : (ctx.compileUnit name batches nextBuffer).result = .ok unit) :
    ∃ draft moves, ctx.draft name batches nextBuffer = (draft, none) ∧
      unit.displayList =
        { name
          commands := draft.written ++
            (moves ++ MaterialState.transition draft.pipeline.registers ctx.default) } ∧
      unit.vertexBuffers = draft.buffers ∧ unit.cullingBuffer = draft.culling ∧
      draft.pipeline.Follows moves { draft.pipeline with stack := [] } ∧
      ∀ c ∈ moves, c.isMatrix = true ∨ ∃ text, c = .comment text := by
  unfold compileUnit at h
  generalize hdraft : ctx.draft name batches nextBuffer = outcome at h
  obtain ⟨draft, failure⟩ := outcome
  dsimp only at h
  split at h
  · simp at h
  · rename_i hfailure
    obtain ⟨hnone, hclosing⟩ := Option.or_eq_none_iff.mp hfailure
    subst hnone
    obtain ⟨moves, hcommands, hfollows, hmoves⟩ := closing_ok hclosing
    obtain rfl := Except.ok.inj h
    refine ⟨draft, moves, rfl, ?_, rfl, rfl, hfollows, hmoves⟩
    rw [finish, hcommands]
    rfl

/-- A unit is compiled if neither its draft nor the commands after it fail. -/
theorem exists_compileUnit {name : String} {batches : List Batch} {nextBuffer : BufferId}
    (h : ((ctx.draft name batches nextBuffer).2.or
      (ctx.closing (ctx.draft name batches nextBuffer).1.pipeline).failure).isNone = true) :
    ∃ unit, (ctx.compileUnit name batches nextBuffer).result = .ok unit := by
  refine ⟨finish name (ctx.draft name batches nextBuffer).1
    (ctx.closing (ctx.draft name batches nextBuffer).1.pipeline).commands, ?_⟩
  rw [Option.isNone_iff_eq_none] at h
  simp only [compileUnit]
  rw [h]

theorem mem_culling {default : MaterialState} {buffer : BufferId} {c : Command}
    (h : c ∈ Culling.commands default buffer) :
    c.triangleCount = 0 ∧ c.isMatrix = false ∧ c.isCall = false ∧ c.isUpload = false := by
  rcases List.mem_append.mp h with h | h
  · simp only [List.mem_cons, List.not_mem_nil, or_false] at h
    rcases h with rfl | rfl | rfl <;> exact ⟨rfl, rfl, rfl, rfl⟩
  · split at h
    · obtain rfl := List.mem_singleton.mp h
      exact ⟨rfl, rfl, rfl, rfl⟩
    · simp at h

/-- What is known before the first batch: no section is there, the stack is empty, and the registers
are at rest, except that the test of a bounding box has put lighting in its position at rest. -/
theorem startDraft_known {name : String} {batches : List Batch} {nextBuffer : BufferId}
    {started : UnitDraft} (h : ctx.startDraft name batches nextBuffer = (started, none)) :
    started.sections = [] ∧ started.pipeline.stack = [] ∧
      ((started.prologue = [] ∧ started.pipeline.registers = ctx.default) ∨
        ∃ buffer, started.prologue = Culling.commands ctx.default buffer ∧
          started.pipeline.registers =
            { ctx.default with
              geometry :=
                ctx.default.geometry.set GeometryMode.lighting.bit ctx.default.usesLighting }) := by
  rcases startDraft_ok h with rfl | ⟨meshes, rfl⟩
  · exact ⟨rfl, rfl, Or.inl ⟨rfl, rfl⟩⟩
  · unfold writeCulling
    split
    · exact ⟨rfl, rfl, Or.inl ⟨rfl, rfl⟩⟩
    · exact ⟨rfl, rfl, Or.inr ⟨_, rfl, rfl⟩⟩

theorem not_drawsIn_startDraft {name : String} {batches : List Batch} {nextBuffer : BufferId}
    {started : UnitDraft} (h : ctx.startDraft name batches nextBuffer = (started, none))
    (earlier : List Section) (s : Section) (before : List Command) :
    ¬ started.DrawsIn earlier s before := by
  rintro ⟨later, drawn, c, rest, hsplit, _⟩
  rw [(startDraft_known h).1] at hsplit
  simp at hsplit

/-! ### Draws -/

/-- A switch to a material is commands that concern the registers, with two remarks around them. -/
theorem touches_of_mem_switch {registers : MaterialState} {batch : Batch} {c : Command}
    (h : c ∈ (ctx.switchMaterial registers batch).1) :
    c.touchesRegisters = true ∨ ∃ text, c = .comment text := by
  have hcommands : ∀ {key material}, c ∈ ctx.materialCommands registers key material →
      c.touchesRegisters = true := by
    intro key material hc
    unfold materialCommands at hc
    split at hc
    · rcases List.mem_append.mp hc with hc | hc
      · exact (MaterialState.mem_transition hc).1
      · obtain rfl := List.mem_singleton.mp hc
        rfl
    · exact (MaterialState.mem_transition hc).1
  unfold switchMaterial at h
  split at h
  · simp at h
  · split at h
    · simp at h
    · split at h
      · simp at h
      · simp only [List.mem_append, List.mem_singleton] at h
        rcases h with (rfl | h) | rfl
        · exact Or.inr ⟨_, rfl⟩
        · exact Or.inl (hcommands h)
        · exact Or.inr ⟨_, rfl⟩

/-- A switch to a material leaves the slots and the matrix stack alone. -/
theorem mem_switch {registers : MaterialState} {batch : Batch} {c : Command}
    (h : c ∈ (ctx.switchMaterial registers batch).1) :
    c.usesSlots = false ∧ c.isMatrix = false := by
  rcases touches_of_mem_switch h with htouches | ⟨text, rfl⟩
  · exact ⟨Command.usesSlots_of_touches htouches, Command.isMatrix_of_touches htouches⟩
  · exact ⟨rfl, rfl⟩

/-- Every section is that of a batch, and only its second half draws. -/
theorem mem_sections {name : String} {batches : List Batch} {nextBuffer : BufferId}
    {draft : UnitDraft} (h : ctx.draft name batches nextBuffer = (draft, none)) :
    ∀ s ∈ draft.sections, s.batch ∈ batches ∧
      ∀ c ∈ s.switch, c.triangleCount = 0 ∧ c.isMatrix = false := by
  obtain ⟨started, hstarted, hwrite⟩ := draft_ok h
  refine writeBatches_induction
    (P := fun draft => ∀ s ∈ draft.sections, s.batch ∈ batches ∧
      ∀ c ∈ s.switch, c.triangleCount = 0 ∧ c.isMatrix = false) ?_ hwrite ?_
  · intro draft batch reached hbatch hdraft hreached
    rcases writeBatch_section hreached with rfl | ⟨s, hs, hswitch, _, _, hsections⟩
    · exact hdraft
    · intro t ht
      rw [hsections] at ht
      rcases List.mem_append.mp ht with ht | ht
      · exact hdraft t ht
      · obtain rfl := List.mem_singleton.mp ht
        refine ⟨hs ▸ hbatch, fun c hc => ?_⟩
        rw [hswitch] at hc
        exact (mem_switch hc).imp_left Command.triangleCount_of_not_usesSlots
  · rw [(startDraft_known hstarted).1]
    simp

/-- There is one section for each batch with a mesh. -/
theorem batches_sections {name : String} {batches : List Batch} {nextBuffer : BufferId}
    {draft : UnitDraft} (h : ctx.draft name batches nextBuffer = (draft, none)) :
    draft.sections.map (·.batch) = batches.filter (·.mesh.isSome) := by
  obtain ⟨started, hstarted, hwrite⟩ := draft_ok h
  refine writeBatches_history (P := fun done draft =>
    draft.sections.map (·.batch) = done.filter (·.mesh.isSome)) [] ?_ hwrite ?_
  · intro done draft batch reached _ hdraft hreached
    rw [List.filter_append, ← hdraft]
    rcases writeBatch_ok hreached with ⟨hnone, rfl⟩ | ⟨id, mesh, provided, buffer, hid, _,
      hprovided, drawn, _, _, rfl⟩
    · simp [hnone]
    · rw [(provideBuffer_frame hprovided).2.2.1]
      simp [switched, hid]
  · rw [(startDraft_known hstarted).1]
    rfl

theorem prologue_startDraft {name : String} {batches : List Batch} {nextBuffer : BufferId}
    {started : UnitDraft} (h : ctx.startDraft name batches nextBuffer = (started, none)) :
    ∀ c ∈ started.prologue, c.triangleCount = 0 ∧ c.isMatrix = false := by
  intro c hc
  rcases (startDraft_known h).2.2 with ⟨hnone, _⟩ | ⟨buffer, hculling, _⟩
  · rw [hnone] at hc
    simp at hc
  · rw [hculling] at hc
    obtain ⟨hdraws, hmatrix, _⟩ := mem_culling hc
    exact ⟨hdraws, hmatrix⟩

theorem prologue_draft {name : String} {batches : List Batch} {nextBuffer : BufferId}
    {draft : UnitDraft} (h : ctx.draft name batches nextBuffer = (draft, none)) :
    ∀ c ∈ draft.prologue, c.triangleCount = 0 ∧ c.isMatrix = false := by
  obtain ⟨started, hstarted, hwrite⟩ := draft_ok h
  refine writeBatches_induction
    (P := fun draft => ∀ c ∈ draft.prologue, c.triangleCount = 0 ∧ c.isMatrix = false) ?_ hwrite
    (prologue_startDraft hstarted)
  intro draft batch reached _ hdraft hreached
  rcases writeBatch_section hreached with rfl | ⟨s, _, _, _, hprologue, _⟩
  · exact hdraft
  · rw [hprologue]
    exact hdraft

theorem append_eq_append_cons {α : Type} {xs ys before after : List α} {c : α}
    (h : xs ++ ys = before ++ c :: after) :
    (∃ rest, xs = before ++ c :: rest) ∨ ∃ inner, before = xs ++ inner ∧ ys = inner ++ c :: after := by
  rcases List.append_eq_append_iff.mp h with ⟨inner, hbefore, hys⟩ | ⟨tail, hxs, htail⟩
  · exact Or.inr ⟨inner, hbefore, hys⟩
  · cases tail with
    | nil => exact Or.inr ⟨[], by simpa using hxs.symm, by simpa using htail.symm⟩
    | cons d rest =>
      obtain ⟨rfl, _⟩ := List.cons.inj htail
      exact Or.inl ⟨rest, hxs⟩

theorem flatMap_eq_append_cons {α β : Type} {f : α → List β} {xs : List α} {before rest : List β}
    {c : β} (h : xs.flatMap f = before ++ c :: rest) :
    ∃ earlier x later inner tail, xs = earlier ++ x :: later ∧ f x = inner ++ c :: tail ∧
      before = earlier.flatMap f ++ inner := by
  induction xs generalizing before with
  | nil => simp at h
  | cons x xs ih =>
    rw [List.flatMap_cons] at h
    rcases append_eq_append_cons h with ⟨tail, hx⟩ | ⟨inner, rfl, hrest⟩
    · exact ⟨[], x, xs, before, tail, rfl, hx, rfl⟩
    · obtain ⟨earlier, y, later, found, tail, rfl, hy, rfl⟩ := ih hrest
      exact ⟨x :: earlier, y, later, found, tail, rfl, hy, by
        rw [List.flatMap_cons, List.append_assoc]⟩

/-- **Every draw is emitted for a batch.** -/
theorem exists_drawsFor {name : String} {batches : List Batch} {nextBuffer : BufferId}
    {unit : CompiledUnit} (h : (ctx.compileUnit name batches nextBuffer).result = .ok unit)
    {before after : List Command} {c : Command} (hc : 0 < c.triangleCount)
    (hsplit : unit.displayList.commands = before ++ c :: after) :
    ∃ batch ∈ batches, (ctx.draft name batches nextBuffer).1.DrawsFor batch before := by
  obtain ⟨draft, moves, hdraft, hlist, _, _, _, hmoves⟩ := compileUnit_ok h
  have hnotIn : ∀ commands : List Command, (∀ d ∈ commands, d.triangleCount = 0) →
      ∀ start rest, commands ≠ start ++ c :: rest := by
    rintro commands hnone start rest rfl
    have hzero := hnone c (by simp)
    omega
  rw [hlist, UnitDraft.written, List.append_assoc] at hsplit
  rw [hdraft]
  rcases append_eq_append_cons hsplit with ⟨rest, hin⟩ | ⟨inner, rfl, hinner⟩
  · exact absurd hin (hnotIn _ (fun d hd => (prologue_draft hdraft d hd).1) _ _)
  · rcases append_eq_append_cons hinner with ⟨rest, hin⟩ | ⟨tail, rfl, hin⟩
    · obtain ⟨earlier, s, later, found, tail, hsections, hs, rfl⟩ := flatMap_eq_append_cons hin
      have hmem : s ∈ draft.sections := by
        rw [hsections]
        simp
      obtain ⟨hbatch, hswitch⟩ := mem_sections hdraft s hmem
      rcases append_eq_append_cons hs with ⟨rest, hin⟩ | ⟨drawn, rfl, hdrawing⟩
      · exact absurd hin (hnotIn _ (fun d hd => (hswitch d hd).1) _ _)
      · exact ⟨s.batch, hbatch, earlier, s, ⟨later, drawn, c, tail, hsections, hdrawing, hc, by
          simp only [List.append_assoc]⟩, rfl⟩
    · refine absurd hin (hnotIn _ (fun d hd => ?_) _ _)
      rcases List.mem_append.mp hd with hd | hd
      · exact Command.triangleCount_of_not_usesSlots (Command.usesSlots_of_move (hmoves d hd))
      · exact Command.triangleCount_of_not_usesSlots
          (Command.usesSlots_of_touches (MaterialState.mem_transition hd).1)

end ExportContext

end SceneCompiler
