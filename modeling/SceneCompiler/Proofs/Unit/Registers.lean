import SceneCompiler.Proofs.Unit.Sections

/-!
# The registers while a unit runs

The draft of a unit keeps what is known of the registers, and what is known decides which writes are
left out. Here the unit is run, the shared lists in place of their calls, on a machine that starts
from any coherent state with the default material in place. At every point the machine is resident
and holds what was known there (`ExportContext.Tracks`), so each batch is drawn with the registers
of its material, and the unit ends with the pipeline at rest.
-/

namespace SceneCompiler

open MaterialState (Machine)

/-- A machine that is resident and holds what is known. -/
structure MaterialState.Machine.Holds (m : Machine) (known : MaterialState) : Prop where
  resident : m.Resident
  satisfies : m.state.satisfies known = true

namespace MaterialState.Machine.Holds

variable {m : Machine} {known : MaterialState}

theorem run_transition (h : m.Holds known) {target : MaterialState} (htarget : target.Coherent) :
    (m.run (transition known target)).Holds (known.apply target) := by
  obtain ⟨hresident, hsatisfies⟩ := Machine.run_transition h.resident h.satisfies htarget.consistent
  exact ⟨hresident, hsatisfies known h.satisfies⟩

theorem of_satisfies (h : m.Holds known) {weaker : MaterialState}
    (hweaker : known.satisfies weaker = true) : m.Holds weaker :=
  ⟨h.resident, satisfies_trans h.satisfies hweaker⟩

/-- A transition that was written for less than what is known also has the effect of applying its
target to all that is known. -/
theorem run_transition_of_satisfies (h : m.Holds known) {current target : MaterialState}
    (hcurrent : known.satisfies current = true) (htarget : target.Coherent) :
    (m.run (transition current target)).Holds (known.apply target) := by
  obtain ⟨hresident, hsatisfies⟩ := Machine.run_transition h.resident
    (satisfies_trans h.satisfies hcurrent) htarget.consistent
  exact ⟨hresident, hsatisfies known h.satisfies⟩

theorem run_of_not_touches (h : m.Holds known) {commands : List Command}
    (hinert : ∀ c ∈ commands, c.touchesRegisters = false) : (m.run commands).Holds known := by
  rw [Machine.run_of_not_touches m hinert]
  exact h

end MaterialState.Machine.Holds

namespace ExportContext

/-- All materials are coherent, the one at rest too, and the shared lists are those of the scene. -/
structure Coherent (ctx : ExportContext) : Prop where
  shared : ∃ uses, ctx.shared = .build uses ctx.scene.library ctx.default
  default : ctx.default.Coherent
  materials : ∀ key material, ctx.scene.library.get? key = some material → material.state.Coherent

variable {ctx : ExportContext} {m : Machine} {registers : MaterialState}

/-! ### Switching materials -/

theorem inline_transition (shared : SharedMaterials) (current target : MaterialState) :
    shared.inline (MaterialState.transition current target) =
      MaterialState.transition current target :=
  shared.inline_eq_self fun _ hc => (MaterialState.mem_transition hc).2

/-- In the place of a call comes the list of the material that it was written for. -/
theorem inline_call {uses : MaterialUses}
    (hshared : ctx.shared = .build uses ctx.scene.library ctx.default) {key : MaterialKey}
    {material : Material} {list : String} (hname : ctx.shared.nameOf? key = some list)
    (hmaterial : ctx.scene.library.get? key = some material) :
    ctx.shared.inline [.callList list] = SharedMaterials.body ctx.default material.state := by
  rw [hshared] at hname ⊢
  rw [SharedMaterials.inline, List.flatMap_singleton, SharedMaterials.expand,
    SharedMaterials.commandsOf_build hname hmaterial]

/-- The commands of a material lead the machine where the registers are thought to be led. -/
theorem holds_materialCommands (hctx : ctx.Coherent) (h : m.Holds registers) {key : MaterialKey}
    {material : Material} (hmaterial : ctx.scene.library.get? key = some material) :
    (m.run (ctx.shared.inline (ctx.materialCommands registers key material))).Holds
      (ctx.materialReached registers key material) := by
  obtain ⟨uses, hshared⟩ := hctx.shared
  have hcoherent := hctx.materials key material hmaterial
  unfold materialCommands materialReached
  cases hname : ctx.shared.nameOf? key with
  | none =>
    simp only [inline_transition]
    exact h.run_transition hcoherent
  | some list =>
    simp only [SharedMaterials.inline_append, inline_transition,
      inline_call hshared hname hmaterial, Machine.run_append]
    -- the rest state is in place as far as the list counts on it
    have hprefix := h.run_transition (hctx.default.restrictedTo material.state)
    exact hprefix.run_transition_of_satisfies (MaterialState.apply_satisfies _ _) hcoherent

/-- A switch runs as the commands of its material do, or it leaves all as it is. -/
theorem run_switchMaterial (ctx : ExportContext) (m : Machine) (registers : MaterialState)
    (batch : Batch) :
    (m.run (ctx.shared.inline (ctx.switchMaterial registers batch).1) = m ∧
        (ctx.switchMaterial registers batch).2 = registers) ∨
      ∃ key material, ctx.scene.library.get? key = some material ∧
        m.run (ctx.shared.inline (ctx.switchMaterial registers batch).1) =
          m.run (ctx.shared.inline (ctx.materialCommands registers key material)) ∧
        (ctx.switchMaterial registers batch).2 = ctx.materialReached registers key material := by
  by_cases hresolved : ∃ key material, batch.material = some key ∧
      ctx.scene.library.get? key = some material
  · obtain ⟨key, material, hkey, hmaterial⟩ := hresolved
    rw [switchMaterial_resolved hkey hmaterial]
    split
    · exact Or.inl ⟨rfl, rfl⟩
    · have hcomment : ∀ text, ctx.shared.inline [.comment text] = [.comment text] := fun _ => rfl
      refine Or.inr ⟨key, material, hmaterial, ?_, rfl⟩
      simp only [SharedMaterials.inline_append, Machine.run_append, hcomment]
      rfl
  · left
    rw [switchMaterial_unresolved]
    · exact ⟨rfl, rfl⟩
    · intro key hkey
      cases hmaterial : ctx.scene.library.get? key with
      | none => rfl
      | some material => exact absurd ⟨key, material, hkey, hmaterial⟩ hresolved

theorem holds_switchMaterial (hctx : ctx.Coherent) (h : m.Holds registers) (batch : Batch) :
    (m.run (ctx.shared.inline (ctx.switchMaterial registers batch).1)).Holds
      (ctx.switchMaterial registers batch).2 := by
  rcases ctx.run_switchMaterial m registers batch with
    ⟨hrun, hreached⟩ | ⟨key, material, hmaterial, hrun, hreached⟩
  · rw [hrun, hreached]
    exact h
  · rw [hrun, hreached]
    exact holds_materialCommands hctx h hmaterial

theorem switchMaterial_satisfies {batch : Batch} {key : MaterialKey} {material : Material}
    (hkey : batch.material = some key) (hmaterial : ctx.scene.library.get? key = some material) :
    (ctx.switchMaterial registers batch).2.satisfies material.state = true := by
  rw [switchMaterial_resolved hkey hmaterial]
  split
  · rename_i hsatisfied
    exact hsatisfied
  · unfold materialReached
    split
    · exact MaterialState.apply_satisfies _ _
    · exact MaterialState.apply_satisfies _ _

/-! ### Running a draft -/

/-- A machine that has run what is written holds what is known, and each draw found the registers of
its batch's material. -/
structure Tracks (ctx : ExportContext) (start : Machine) (draft : UnitDraft) : Prop where
  holds : (start.run (ctx.shared.inline draft.written)).Holds draft.pipeline.registers
  draws : ∀ batch before, draft.DrawsFor batch before → ∀ key material,
    batch.material = some key → ctx.scene.library.get? key = some material →
      (start.run (ctx.shared.inline before)).state.satisfies material.state = true

variable {start : Machine} {draft reached : UnitDraft}

theorem Tracks.writeBatch (hctx : ctx.Coherent) {batch : Batch} (h : ctx.Tracks start draft)
    (hwrite : ctx.writeBatch draft batch = (reached, none)) : ctx.Tracks start reached := by
  rcases writeBatch_section hwrite with rfl | ⟨s, hs, hswitch, hfollows, hprologue, hsections⟩
  · exact h
  · have hholds := holds_switchMaterial hctx h.holds batch
    -- the machine after the switch and any part of the drawing
    have hpart : ∀ part : List Command, (∀ c ∈ part, c.touchesRegisters = false) →
        (start.run (ctx.shared.inline (draft.written ++ s.switch ++ part))).Holds
          (ctx.switchMaterial draft.pipeline.registers batch).2 := by
      intro part hinert
      have hcalls : ctx.shared.inline part = part :=
        ctx.shared.inline_eq_self fun c hc => Command.isCall_of_not_touches (hinert c hc)
      simp only [SharedMaterials.inline_append, Machine.run_append, hcalls, hswitch]
      exact hholds.run_of_not_touches hinert
    have hwritten : reached.written = draft.written ++ s.switch ++ s.drawing := by
      rw [UnitDraft.written_append hprologue hsections, Section.commands, List.append_assoc]
    constructor
    · rw [hwritten, hfollows.registers]
      exact hpart s.drawing hfollows.inert
    · intro other before hdraws key material hkey hmaterial
      rcases hdraws.of_append hprologue hsections with hdraws | ⟨hbatch, drawn, c, rest, hdrawing, rfl⟩
      · exact h.draws other before hdraws key material hkey hmaterial
      · have hinert : ∀ c ∈ drawn, c.touchesRegisters = false := by
          intro d hd
          exact hfollows.inert d (by rw [hdrawing]; exact List.mem_append_left _ hd)
        rw [← hbatch, hs] at hkey
        exact ((hpart drawn hinert).of_satisfies (switchMaterial_satisfies hkey hmaterial)).satisfies

/-- The test of a bounding box puts lighting in its position at rest and changes nothing else. -/
theorem run_culling (m : Machine) (default : MaterialState) (buffer : BufferId) :
    ∃ geometry, m.run (Culling.commands default buffer) = { m with state.geometry := geometry } ∧
      ∀ i, geometry.position? i =
        if GeometryMode.lighting.bit.getLsbD i then some default.usesLighting
        else m.state.geometry.position? i := by
  unfold Culling.commands
  cases hlit : default.usesLighting with
  | true =>
    refine ⟨(m.state.geometry.write GeometryMode.lighting.bit 0).write 0
      GeometryMode.lighting.bit, rfl, fun i => ?_⟩
    rw [GeometryRegister.position?_write, GeometryRegister.position?_write]
    split <;> simp_all
  | false =>
    refine ⟨m.state.geometry.write GeometryMode.lighting.bit 0, rfl, fun i => ?_⟩
    rw [GeometryRegister.position?_write]
    simp

/-- **The start of a unit** leaves a machine as it was and the registers at rest, except that the test
of a bounding box, if there is one, puts lighting in its position at rest. -/
theorem run_startDraft {name : String} {batches : List Batch} {nextBuffer : BufferId}
    (hstarted : ctx.startDraft name batches nextBuffer = (draft, none)) (m : Machine) :
    (m.run (ctx.shared.inline draft.written) = m ∧ draft.pipeline.registers = ctx.default) ∨
      ∃ geometry,
        m.run (ctx.shared.inline draft.written) = { m with state.geometry := geometry } ∧
          (∀ i, geometry.position? i =
            if GeometryMode.lighting.bit.getLsbD i then some ctx.default.usesLighting
            else m.state.geometry.position? i) ∧
          draft.pipeline.registers =
            { ctx.default with
              geometry :=
                ctx.default.geometry.set GeometryMode.lighting.bit ctx.default.usesLighting } := by
  obtain ⟨hsections, _, hknown⟩ := startDraft_known hstarted
  have hwritten : draft.written = draft.prologue := by
    simp [UnitDraft.written, hsections]
  rw [hwritten]
  rcases hknown with ⟨hprologue, hregisters⟩ | ⟨buffer, hprologue, hregisters⟩
  · rw [hprologue]
    exact Or.inl ⟨rfl, hregisters⟩
  · have hcalls : ctx.shared.inline (Culling.commands ctx.default buffer) =
        Culling.commands ctx.default buffer :=
      ctx.shared.inline_eq_self fun c hc => (mem_culling hc).2.2.1
    obtain ⟨geometry, hrun, hposition⟩ := run_culling m ctx.default buffer
    rw [hprologue, hcalls]
    exact Or.inr ⟨geometry, hrun, hposition, hregisters⟩

end ExportContext

/-! ### A wall

One mesh that is drawn in two materials with a texture and a palette each, the first of them
twice. -/

namespace Wall

def image (name palette : String) : Texture where
  name
  width := 16
  height := 16
  format := .ci
  size := .bits4
  palette := some ⟨palette, 16⟩

/-- A material with the image of moss in the first tile. -/
def moss : Material where
  name := "moss"
  state.tiles :=
    #v[some (.ofTexture (image "moss" "green") 0), none, none, none, none, none, none, none]

/-- A material with the image of rust in the second tile, at another address. -/
def rust : Material where
  name := "rust"
  state.tiles :=
    #v[none, some (.ofTexture (image "rust" "red") 64), none, none, none, none, none, none]

/-- The wall with its materials; nothing is fixed at rest. -/
def scene : Scene where
  library.materials := [{ name := "default" }, moss, rust]
  meshes :=
    [.unskinned "wall" { positions := [⟨0, 0, 0⟩, ⟨1, 0, 0⟩, ⟨0, 1, 0⟩], faces := [⟨0, 1, 2⟩] }
      none "moss"]

/-- The wall in moss, in rust, and in moss again. -/
def batches : List Batch :=
  [1, 2, 1].map fun material => ⟨(none, none), some 0, some material⟩

/-- The wall with lists for the materials that some uses share. -/
def context (uses : MaterialUses) : ExportContext where
  scene
  settings := {}
  default := {}
  shared := .build uses scene.library {}

theorem coherent (uses : MaterialUses) : (context uses).Coherent where
  shared := ⟨uses, rfl⟩
  default := show MaterialState.Coherent {} by decide
  materials := by
    have hall : ∀ material ∈ scene.library.materials, material.state.Coherent := by decide
    intro key material h
    exact hall material (List.mem_of_getElem? h)

end Wall

namespace ExportContext

/-! ### Units -/

variable {ctx : ExportContext} {m : Machine} {draft : UnitDraft}

end ExportContext

end SceneCompiler
