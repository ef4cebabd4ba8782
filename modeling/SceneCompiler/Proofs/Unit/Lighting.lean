import SceneCompiler.Proofs.Drawing.Loads
import SceneCompiler.Proofs.Unit.Registers
import SceneCompiler.Proofs.Unit.TextureScale

/-!
# Lighting and the layout of vertices

A batch is drawn from a buffer with normals if lighting is known to be on, and with colors otherwise.
What is known is what a machine knows that starts at rest and runs the unit up to there: switch by
switch the two never part (`MaterialState.Machine.Switches`), since a transition leaves out only what
is known to be in place. Textures and their memory do not come into it, so this needs no coherence
of materials.

A vertex that was loaded for an earlier batch may still be in the cache, but it is found there only
under the number of its buffer. So each slot that a triangle reads was loaded from the buffer that
was provided for the batch (`Section.DrawsFrom.reads`), in the layout that its registers call for
(`ExportContext.layouts_at_draws`).
-/

namespace SceneCompiler

open MaterialState (Machine)

namespace MaterialState.Machine

/-- A machine that knows the position of each switch of the geometry processor just as a state
does. -/
def Switches (m : Machine) (known : MaterialState) : Prop :=
  ∀ i, m.state.geometry.position? i = known.geometry.position? i

variable {m : Machine} {known : MaterialState}

theorem Switches.usesLighting (h : m.Switches known) :
    m.state.usesLighting = known.usesLighting := by
  simp only [MaterialState.usesLighting, GeometryRegister.lit, GeometryRegister.get?_bit]
  rw [h]

/-- A transition that was written for less than what is known has the effect of applying its target
to all that is known. -/
theorem Switches.run_transition_of_agrees (h : m.Switches known) {current : MaterialState}
    (hcurrent : ∀ i, Agrees (known.geometry.position? i) (current.geometry.position? i))
    (target : MaterialState) : (m.run (transition current target)).Switches (known.apply target) := by
  intro i
  have hknown : ∀ j, Agrees (m.state.geometry.position? j) (current.geometry.position? j) := by
    intro j
    rw [h j]
    exact hcurrent j
  rw [geometry_run_transition hknown, h i, apply, GeometryRegister.position?_apply]

theorem Switches.run_transition (h : m.Switches known) (target : MaterialState) :
    (m.run (transition known target)).Switches (known.apply target) :=
  h.run_transition_of_agrees (fun _ => Agrees.refl _) target

theorem Switches.run_of_not_touches (h : m.Switches known) {commands : List Command}
    (hinert : ∀ c ∈ commands, c.touchesRegisters = false) : (m.run commands).Switches known := by
  rw [Machine.run_of_not_touches m hinert]
  exact h

end MaterialState.Machine

/-! ### Slots that are read -/

theorem Processor.drawn_run? {proc after : Processor} {commands : List Command}
    (h : proc.run? commands = some after) : proc.drawn <+: after.drawn := by
  induction commands generalizing proc with
  | nil =>
    obtain rfl := Option.some.inj h
    exact List.prefix_refl _
  | cons c rest ih =>
    rw [run?_cons, Option.bind_eq_some_iff] at h
    obtain ⟨next, hnext, hrest⟩ := h
    refine List.IsPrefix.trans ?_ (ih hrest)
    rcases step?_cases hnext with ⟨_, _, _, _, _, rfl⟩ | ⟨_, stack, rfl⟩
    · exact List.prefix_refl _
    · exact List.prefix_append _ _

def Command.slots (c : Command) : List Nat :=
  c.faces.flatMap fun face => [face.a.toNat, face.b.toNat, face.c.toNat]

/-- **What a draw reads.**  Each slot that is read while a section draws from a buffer holds a vertex
of this buffer. -/
theorem Section.DrawsFrom.reads {s : Section} {before : List Command} {mesh : SkinnedMesh}
    {number : BufferId} (h : s.DrawsFrom before mesh number) {drawn rest : List Command}
    {c : Command} (hdrawing : s.drawing = drawn ++ c :: rest) (hc : 0 < c.triangleCount) :
    ∃ proc, Processor.run? {} (before ++ s.switch ++ drawn) = some proc ∧
      ∀ slot ∈ c.slots, ∃ key, proc.slots slot = some key ∧ key.buffer = number := by
  obtain ⟨start, after, _, hstart, hafter, hdrawn, _⟩ := h
  rw [hdrawing, Processor.run?_append, Option.bind_eq_some_iff] at hafter
  obtain ⟨proc, hproc, hafter⟩ := hafter
  rw [Processor.run?_cons, Option.bind_eq_some_iff] at hafter
  obtain ⟨next, hnext, hafter⟩ := hafter
  refine ⟨proc, by rw [Processor.run?_append, hstart]; exact hproc, fun slot hslot => ?_⟩
  obtain ⟨face, hface, hcorner⟩ := List.mem_flatMap.mp hslot
  -- the triangle comes after those before the section, and so it is one of the section's
  obtain ⟨earlier, hearlier⟩ := Processor.drawn_run? hproc
  obtain ⟨later, hlater⟩ := Processor.drawn_run? hafter
  have hstep : next.drawn = proc.drawn ++ c.faces.map proc.read := by
    rcases Processor.step?_cases hnext with ⟨_, _, _, _, rfl, _⟩ | ⟨_, stack, rfl⟩
    · simp [Command.triangleCount] at hc
    · rfl
  rw [← hlater, hstep, ← hearlier, List.append_assoc, List.append_assoc,
    List.append_right_inj] at hdrawn
  have hmem : proc.read face ∈ (mesh.pairFaces s.batch.bones).map (mesh.drawnFace number) := by
    rw [← hdrawn]
    exact List.mem_append_right _ (List.mem_append_left _ (List.mem_map_of_mem hface))
  obtain ⟨source, _, hread⟩ := List.mem_map.mp hmem
  obtain ⟨ha, hb, hc⟩ := DrawnTriangle.mk.inj hread
  simp only [List.mem_cons, List.not_mem_nil, or_false] at hcorner
  rcases hcorner with rfl | rfl | rfl
  · exact ⟨_, ha.symm, rfl⟩
  · exact ⟨_, hb.symm, rfl⟩
  · exact ⟨_, hc.symm, rfl⟩

namespace ExportContext

variable {ctx : ExportContext} {m start : Machine} {registers : MaterialState}
  {draft reached : UnitDraft} {uses : MaterialUses}

/-! ### Switching materials -/

theorem switches_materialCommands (hshared : ctx.shared = .build uses ctx.scene.library ctx.default)
    (h : m.Switches registers) {key : MaterialKey} {material : Material}
    (hmaterial : ctx.scene.library.get? key = some material) :
    (m.run (ctx.shared.inline (ctx.materialCommands registers key material))).Switches
      (ctx.materialReached registers key material) := by
  unfold materialCommands materialReached
  cases hname : ctx.shared.nameOf? key with
  | none =>
    simp only [inline_transition]
    exact h.run_transition _
  | some list =>
    simp only [SharedMaterials.inline_append, inline_transition,
      inline_call hshared hname hmaterial, Machine.run_append]
    -- the rest state is in place as far as the list counts on it
    refine (h.run_transition _).run_transition_of_agrees (fun i v hv => ?_) _
    rw [MaterialState.apply, GeometryRegister.position?_apply, hv]
    rfl

theorem switches_switchMaterial (hshared : ctx.shared = .build uses ctx.scene.library ctx.default)
    (h : m.Switches registers) (batch : Batch) :
    (m.run (ctx.shared.inline (ctx.switchMaterial registers batch).1)).Switches
      (ctx.switchMaterial registers batch).2 := by
  rcases ctx.run_switchMaterial m registers batch with
    ⟨hrun, hreached⟩ | ⟨key, material, hmaterial, hrun, hreached⟩
  · rw [hrun, hreached]
    exact h
  · rw [hrun, hreached]
    exact switches_materialCommands hshared h hmaterial

/-! ### Running a draft -/

/-- A machine that has run what is written knows the switches as the draft does, and each draw is from
a buffer in the layout that the machine calls for. -/
structure Lit (ctx : ExportContext) (start : Machine) (draft : UnitDraft) : Prop where
  switches : (start.run (ctx.shared.inline draft.written)).Switches draft.pipeline.registers
  draws : ∀ earlier s before, draft.DrawsIn earlier s before → ∃ mesh, ∃ buffer ∈ draft.buffers,
    buffer.layout = layoutFor (start.run (ctx.shared.inline before)).state ∧
      s.DrawsFrom (draft.prologue ++ earlier.flatMap Section.commands) mesh buffer.id

/-- The machine after a switch and any part of a drawing, which leaves the registers alone. -/
theorem Lit.switches_section (hshared : ctx.shared = .build uses ctx.scene.library ctx.default)
    (h : ctx.Lit start draft) (batch : Batch) {part : List Command}
    (hinert : ∀ c ∈ part, c.touchesRegisters = false) :
    (start.run (ctx.shared.inline (draft.written ++
        (ctx.switchMaterial draft.pipeline.registers batch).1 ++ part))).Switches
      (ctx.switched draft batch).pipeline.registers := by
  have hcalls : ctx.shared.inline part = part :=
    ctx.shared.inline_eq_self fun c hc => Command.isCall_of_not_touches (hinert c hc)
  simp only [SharedMaterials.inline_append, Machine.run_append, hcalls]
  exact (switches_switchMaterial hshared h.switches batch).run_of_not_touches hinert

theorem Lit.writeBatch (hsize : ctx.settings.vertexCacheSize ≤ maxVertexCacheSize)
    (hshared : ctx.shared = .build uses ctx.scene.library ctx.default)
    {faces : List (MeshId × Face)} (hrenders : ctx.Renders draft faces) (h : ctx.Lit start draft)
    {batch : Batch} (hwrite : ctx.writeBatch draft batch = (reached, none)) :
    ctx.Lit start reached := by
  rcases writeBatch_ok hwrite with ⟨_, rfl⟩ | ⟨id, mesh, provided, number, hid, hmesh, hprovided,
    drawn, hdrawn, hfailure, hreached⟩
  · exact h
  · obtain ⟨hpipeline, hprologue, hsections, _⟩ := provideBuffer_frame hprovided
    have hstocks : ctx.Stocks (ctx.switched draft batch) :=
      ⟨hrenders.stocks.made, hrenders.stocks.numbered, hrenders.stocks.fresh⟩
    have hmore := (hstocks.provideBuffer hmesh hprovided).2.1
    obtain ⟨buffer, hbuffer, rfl⟩ := (provideBuffer_ok hprovided).2
    rw [hpipeline] at hdrawn
    have hfollows : (ctx.switched draft batch).pipeline.Follows drawn.commands drawn.state := by
      rw [hdrawn]
      exact Canvas.follows_drawBatch (hdrawn ▸ hfailure)
    generalize hs : (⟨batch, (ctx.switchMaterial draft.pipeline.registers batch).1,
      drawn.commands⟩ : Section) = s at hreached
    have hsections' : reached.sections = draft.sections ++ [s] := by
      rw [hreached, hsections]
      rfl
    have hprologue' : reached.prologue = draft.prologue := by
      rw [hreached]
      exact hprologue
    have hswitch : s.switch = (ctx.switchMaterial draft.pipeline.registers batch).1 := by rw [← hs]
    have hdrawing : s.drawing = drawn.commands := by rw [← hs]
    constructor
    · have hregisters : reached.pipeline.registers =
          (ctx.switched draft batch).pipeline.registers := by
        rw [hreached]
        exact hfollows.registers
      have hwritten : reached.written = draft.written ++ s.switch ++ drawn.commands := by
        rw [UnitDraft.written_append hprologue' hsections', Section.commands, List.append_assoc,
          hdrawing]
      rw [Machine.Switches, hwritten, hswitch, hregisters]
      exact h.switches_section hshared batch hfollows.inert
    · rintro earlier t before ⟨later, part, c, rest, hsplit, hpartSplit, hc, rfl⟩
      rw [hsections'] at hsplit
      rw [hprologue']
      rcases UnitDraft.split_append_singleton hsplit with ⟨_, rfl, rfl⟩ | ⟨between, _, hinit⟩
      · refine ⟨mesh, buffer, ?_, ?_, ?_⟩
        · rw [hreached]
          exact List.mem_of_find?_eq_some hbuffer
        · have hinert : ∀ d ∈ part, d.touchesRegisters = false := by
            intro d hd
            refine hfollows.inert d ?_
            rw [← hdrawing, hpartSplit]
            exact List.mem_append_left _ hd
          have hlayout : buffer.layout =
              layoutFor (ctx.switched draft batch).pipeline.registers := by
            have hkind := List.find?_some hbuffer
            simp only [Bool.and_eq_true, decide_eq_true_eq] at hkind
            exact hkind.2
          have hmachine := h.switches_section hshared batch hinert
          rw [hlayout, layoutFor, layoutFor, ← hmachine.usesLighting, ← hswitch]
          rfl
        · rw [← hs]
          exact hrenders.drawsFrom_next hsize batch hdrawn hfailure
      · obtain ⟨source, old, hold, hlayout, hfrom⟩ :=
          h.draws earlier t _ ⟨between, part, c, rest, hinit, hpartSplit, hc, rfl⟩
        refine ⟨source, old, ?_, hlayout, hfrom⟩
        rw [hreached]
        exact hmore old hold

theorem lit_startDraft (h : start.Switches ctx.default) {name : String} {batches : List Batch}
    {nextBuffer : BufferId} (hstarted : ctx.startDraft name batches nextBuffer = (draft, none)) :
    ctx.Lit start draft := by
  constructor
  · rcases run_startDraft hstarted start with
      ⟨hrun, hknown⟩ | ⟨geometry, hrun, hposition, hknown⟩
    · rw [hrun, hknown]
      exact h
    · rw [hrun, hknown]
      intro i
      rw [hposition, GeometryRegister.position?_set, h i]
  · intro earlier s before hdraws
    exact absurd hdraws (not_drawsIn_startDraft hstarted earlier s before)

theorem lit_draft (hsize : ctx.settings.vertexCacheSize ≤ maxVertexCacheSize)
    (hshared : ctx.shared = .build uses ctx.scene.library ctx.default)
    (h : start.Switches ctx.default) {name : String} {batches : List Batch} {nextBuffer : BufferId}
    (hdraft : ctx.draft name batches nextBuffer = (draft, none)) : ctx.Lit start draft := by
  obtain ⟨started, hstarted, hwrite⟩ := draft_ok hdraft
  have hcarried := writeBatches_history (P := fun done draft =>
    ctx.Lit start draft ∧ ctx.Renders draft (done.flatMap ctx.scene.batchFaces)) [] ?_ hwrite
    ⟨lit_startDraft h hstarted, renders_startDraft hstarted⟩
  · exact hcarried.1
  · rintro done draft batch reached _ ⟨hlit, hrenders⟩ hreached
    refine ⟨hlit.writeBatch hsize hshared hrenders hreached, ?_⟩
    rw [List.flatMap_append, List.flatMap_singleton]
    exact hrenders.writeBatch hsize hreached

/-! ### Units -/

theorem written_of_drawsIn {earlier later : List Section} {s : Section}
    {drawn rest : List Command} {c : Command} (hsections : draft.sections = earlier ++ s :: later)
    (hdrawing : s.drawing = drawn ++ c :: rest) :
    draft.written = draft.prologue ++ earlier.flatMap Section.commands ++ s.switch ++ drawn ++
      c :: (rest ++ later.flatMap Section.commands) := by
  rw [UnitDraft.written, hsections, List.flatMap_append, List.flatMap_cons, Section.commands,
    hdrawing]
  simp only [List.append_assoc, List.cons_append]

/-- **The layout of what is drawn.**  Let a compiled unit be run from the rest state, the shared lists
in place of their calls. Whenever it draws, each slot that is read holds a vertex of one of the
unit's buffers, which has normals if lighting is known to be on, and colors otherwise. -/
theorem layouts_at_draws (hsize : ctx.settings.vertexCacheSize ≤ maxVertexCacheSize)
    (hshared : ctx.shared = .build uses ctx.scene.library ctx.default) {name : String}
    {batches : List Batch} {nextBuffer : BufferId} {unit : CompiledUnit}
    (hunit : (ctx.compileUnit name batches nextBuffer).result = .ok unit)
    {before after : List Command} {c : Command} (hc : 0 < c.triangleCount)
    (hsplit : unit.displayList.commands = before ++ c :: after) :
    ∃ proc, Processor.run? {} before = some proc ∧ ∀ slot ∈ c.slots, ∃ key,
      proc.slots slot = some key ∧ ∃ buffer ∈ unit.vertexBuffers, buffer.id = key.buffer ∧
        buffer.layout = layoutFor (ctx.default.execute (ctx.shared.inline before)) := by
  obtain ⟨batch, _, earlier, s, hdraws, _⟩ := exists_drawsFor hunit hc hsplit
  obtain ⟨draft, moves, hdraft, hlist, hbuffers, _⟩ := compileUnit_ok hunit
  rw [hdraft] at hdraws
  have hstart : (Machine.ofState ctx.default).Switches ctx.default := fun _ => rfl
  obtain ⟨mesh, buffer, hbuffer, hlayout, hfrom⟩ :=
    (lit_draft hsize hshared hstart hdraft).draws earlier s before hdraws
  obtain ⟨later, drawn, d, rest, hsections, hdrawing, _, rfl⟩ := hdraws
  obtain rfl : d = c := by
    rw [hlist, written_of_drawsIn hsections hdrawing, List.append_assoc _ (d :: _),
      List.append_right_inj] at hsplit
    exact (List.cons.inj hsplit).1
  obtain ⟨proc, hproc, hreads⟩ := hfrom.reads hdrawing hc
  refine ⟨proc, hproc, fun slot hslot => ?_⟩
  obtain ⟨key, hkey, hsource⟩ := hreads slot hslot
  exact ⟨key, hkey, buffer, hbuffers ▸ hbuffer, hsource.symm, hlayout⟩

end ExportContext

end SceneCompiler
