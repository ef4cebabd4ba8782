import SceneCompiler.Batch.Order
import SceneCompiler.Proofs.Material.Estimates
import SceneCompiler.Proofs.Unit.Registers

/-!
# Estimates and what is written

The order of batches is chosen by estimates: the cost of going from one material to the next, as if
nothing were known but the first one. What is written is less. When a batch has been drawn, the
registers satisfy its material and may hold more besides, so the switch to the next material, unless
it calls a shared list, costs no more than estimated (`ExportContext.switch_le_materialCost`).
-/

namespace SceneCompiler

/-- Remarks around commands cost nothing. -/
theorem Timing.total_between_comments (timing : Timing ℚ) (before after : String)
    (commands : List Command) :
    timing.total ([.comment before] ++ commands ++ [.comment after]) = timing.total commands := by
  have hfree : ∀ text, timing.cost (.comment text) = 0 := fun _ => rfl
  simp [total_exact, hfree]

namespace ExportContext

variable {ctx : ExportContext} {timing : Timing ℚ}

/-- The registers satisfy the material of a batch, if it has one. -/
def InPlace (ctx : ExportContext) (registers : MaterialState) (batch : Batch) : Prop :=
  ∀ key material, batch.material = some key → ctx.scene.library.get? key = some material →
    registers.satisfies material.state = true

/-- A switch that calls no shared list costs no more than the transition to its material. -/
theorem total_switch_le (h : ∀ entry ∈ timing.entries, 0 ≤ entry) {registers : MaterialState}
    {batch : Batch} {key : MaterialKey} {material : Material} (hkey : batch.material = some key)
    (hmaterial : ctx.scene.library.get? key = some material)
    (hinline : ctx.shared.nameOf? key = none) :
    timing.total (ctx.switchMaterial registers batch).1 ≤
      timing.transitionCost registers material.state := by
  rw [switchMaterial_resolved hkey hmaterial, Timing.transitionCost_eq_total]
  split
  · exact Timing.total_nonneg h _
  · rw [Timing.total_between_comments, materialCommands, hinline]

/-- With a batch's material in place, the switch to the next batch costs no more than estimated. -/
theorem total_switch_le_materialCost (h : ∀ entry ∈ timing.entries, 0 ≤ entry)
    {registers : MaterialState} {batch next : Batch}
    (hresolved : (batch.material.bind ctx.scene.library.get?).isSome)
    (hplace : ctx.InPlace registers batch)
    (hinline : ∀ key, next.material = some key → ctx.shared.nameOf? key = none) :
    timing.total (ctx.switchMaterial registers next).1 ≤
      ctx.scene.materialCost timing batch.material next.material := by
  obtain ⟨source, hsource⟩ := Option.isSome_iff_exists.mp hresolved
  obtain ⟨key, hkey, hfound⟩ := Option.bind_eq_some_iff.mp hsource
  unfold Scene.materialCost
  rw [hsource]
  cases htarget : next.material.bind ctx.scene.library.get? with
  | none =>
    have hunresolved : ∀ key, next.material = some key → ctx.scene.library.get? key = none := by
      intro key hnext
      rw [hnext] at htarget
      exact htarget
    rw [switchMaterial_unresolved hunresolved]
    rfl
  | some target =>
    obtain ⟨other, hnext, hother⟩ := Option.bind_eq_some_iff.mp htarget
    exact (total_switch_le h hnext hother (hinline other hnext)).trans
      (Timing.transitionCost_le_of_satisfies h (hplace key source hkey hfound) target.state)

/-! ### Drafts -/

/-- The last section's material is in place, and the switches between sections cost no more than
estimated. -/
structure Estimated (ctx : ExportContext) (timing : Timing ℚ) (draft : UnitDraft) : Prop where
  last : ∀ s, [s] <:+ draft.sections → ctx.InPlace draft.pipeline.registers s.batch
  switches : ∀ s t, [s, t] <:+: draft.sections →
    (s.batch.material.bind ctx.scene.library.get?).isSome →
    (∀ key, t.batch.material = some key → ctx.shared.nameOf? key = none) →
      timing.total t.switch ≤ ctx.scene.materialCost timing s.batch.material t.batch.material

theorem Estimated.writeBatch (h : ∀ entry ∈ timing.entries, 0 ≤ entry) {draft reached : UnitDraft}
    {batch : Batch} (hdraft : ctx.Estimated timing draft)
    (hwrite : ctx.writeBatch draft batch = (reached, none)) : ctx.Estimated timing reached := by
  rcases writeBatch_section hwrite with rfl | ⟨new, hbatch, hswitch, hfollows, _, hsections⟩
  · exact hdraft
  · constructor
    · intro s hs
      rw [hsections, List.suffix_concat_iff] at hs
      rcases hs with hnil | ⟨start, heq, _⟩
      · simp at hnil
      · have hsplit : [] ++ [s] = start ++ [new] := heq
        obtain rfl := List.singleton_inj.mp (List.append_inj' hsplit rfl).2
        rw [hfollows.registers, hbatch]
        exact fun key material => switchMaterial_satisfies
    · intro s t hst hresolved hinline
      rw [hsections, List.infix_concat_iff, List.suffix_concat_iff] at hst
      rcases hst with (hnil | ⟨start, heq, hstart⟩) | hst
      · simp at hnil
      · -- the new section comes right after the last one
        have hsplit : [s] ++ [t] = start ++ [new] := heq
        obtain ⟨rfl, hnew⟩ := List.append_inj' hsplit rfl
        obtain rfl := List.singleton_inj.mp hnew
        subst hbatch
        rw [hswitch]
        exact total_switch_le_materialCost h hresolved (hdraft.last s hstart) hinline
      · exact hdraft.switches s t hst hresolved hinline

end ExportContext

end SceneCompiler
