import SceneCompiler.Proofs.Tour.Visits

/-!
# The order of batches

Batches are ordered by a search for a cheap tour, and where the tour starts is not left to the
search: if some batch is drawn with the pipeline at rest, the first such batch is the start, and it
is drawn first (`Scene.head?_orderBatches`). The others follow in some order, whatever the costs are
and whenever the search is cut off, and the batch that stands in for the pipeline at rest is not
among them unless it was asked for (`Scene.orderBatches_anchored`).
-/

namespace SceneCompiler

theorem head?_swapWithFirst {α : Type} {xs : List α} {place : Nat} {x : α}
    (h : xs[place]? = some x) : (swapWithFirst place xs).head? = some x := by
  cases xs with
  | nil => simp at h
  | cons first rest =>
    have hswapped : swapWithFirst place (first :: rest) = (x :: rest).set place first := by
      simp [swapWithFirst, h]
    rw [hswapped]
    cases place with
    | zero => exact h
    | succ place => rfl

/-- The first batch at rest is the start of the tour. -/
theorem tourNodes_of_find? {default : Option MaterialKey} {batches : List Batch} {first : Batch}
    (h : batches.find? (·.isRest default) = some first) :
    ∃ nodes, tourNodes default batches = (nodes, true) ∧ nodes.head? = some first := by
  obtain ⟨hrest, place, hlt, hfirst, hbefore⟩ := List.find?_eq_some_iff_getElem.mp h
  have hplace : batches.findIdx? (·.isRest default) = some place := by
    refine List.findIdx?_eq_some_iff_getElem.mpr ⟨hlt, by rw [hfirst]; exact hrest, ?_⟩
    intro j hj
    simpa using hbefore j hj
  refine ⟨swapWithFirst place batches, ?_, head?_swapWithFirst ?_⟩
  · rw [tourNodes, hplace]
  · rw [List.getElem?_eq_getElem hlt, hfirst]

namespace Scene

variable {C : Type} [CostScale C] (scene : Scene) (timing : Timing C) (budget : Nat)

/-- **A batch at rest comes first.** -/
theorem head?_orderBatches {default : Option MaterialKey} {batches : List Batch} {first : Batch}
    (h : batches.find? (·.isRest default) = some first) :
    (scene.orderBatches default timing budget batches).head? = some first := by
  unfold orderBatches
  split
  · -- a single batch, which is the one that was found
    rename_i hlength
    match batches, hlength with
    | [], _ => simp at h
    | [only], _ =>
      obtain rfl := List.mem_singleton.mp (List.mem_of_find?_eq_some h)
      rfl
  · obtain ⟨nodes, hnodes, hhead⟩ := tourNodes_of_find? h
    obtain ⟨rest, rfl⟩ := List.head?_eq_some_iff.mp hhead
    rw [hnodes]
    rfl

/-- **Ordering loses and duplicates nothing.**  Whatever costs the timing gives and wherever the
budget ends the search, the batches in their order are those that were given, each as often. So the
batch that stands in for the pipeline at rest is among them only if it was given; and if some batch
is drawn with the pipeline at rest, the first one that was given comes first. -/
theorem orderBatches_anchored (default : Option MaterialKey) (batches : List Batch) :
    (scene.orderBatches default timing budget batches).Perm batches ∧
      (Batch.rest default ∈ scene.orderBatches default timing budget batches →
        Batch.rest default ∈ batches) ∧
      ∀ first, batches.find? (·.isRest default) = some first →
        (scene.orderBatches default timing budget batches).head? = some first := by
  have hperm := scene.orderBatches_perm default timing budget batches
  exact ⟨hperm, hperm.mem_iff.mp, fun first h => scene.head?_orderBatches timing budget h⟩

end Scene

/-! ### Costs that are no numbers -/

/-- Times of which one is no number, one infinite and one negative. -/
def Timing.crooked : Timing Cost :=
  { Timing.standard with
    matrixPush := .ofFloat (0 / 0)
    matrixPop := .ofFloat (-1 / 0)
    geometryMode := .ofFloat (-8) }

/-- Two batches at rest behind others, one of which comes twice. -/
def Batch.repeated : List Batch :=
  [⟨(some 0, some 1), some 0, some 1⟩, ⟨(none, none), some 1, some 0⟩,
    ⟨(some 0, some 1), some 0, some 1⟩, ⟨(none, none), some 2, some 0⟩,
    ⟨(some 0, some 0), none, none⟩]

theorem Scene.orderBatches_anchored_of_crooked :
    (Scene.orderBatches {} (some 0) Timing.crooked 3 Batch.repeated).Perm Batch.repeated ∧
      Batch.rest (some 0) ∉ Scene.orderBatches {} (some 0) Timing.crooked 3 Batch.repeated ∧
      Batch.repeated.find? (·.isRest (some 0)) = some ⟨(none, none), some 1, some 0⟩ ∧
      (Scene.orderBatches {} (some 0) Timing.crooked 3 Batch.repeated).head? =
        some ⟨(none, none), some 1, some 0⟩ := by
  obtain ⟨hperm, hrest, hfirst⟩ :=
    Scene.orderBatches_anchored {} Timing.crooked 3 (some 0) Batch.repeated
  exact ⟨hperm, fun h => absurd (hrest h) (by decide), by decide, hfirst _ (by decide)⟩

end SceneCompiler
