import SceneCompiler.Proofs.Skeleton.Discovery

/-!
# Walks that end

A walk ends when there is nothing left on its worklist. Every step takes a place off the worklist
and puts the children of the place there instead, so a walk that ends has been all the way down from
every place that was ever on it: these places are grounded (`Skeleton.Grounded`), and no way down
from a grounded place comes to a cycle.

So the walk ends exactly from the roots below which there is no cycle (`Skeleton.walk_ends_iff`).
Nothing marks a node as visited, and a node that is its own child is visited again and again
(`Skeleton.walk_never_ends_of_ring`).
-/

namespace SceneCompiler.Skeleton

variable {nodes : List SceneNode} {isBone : String → Bool} {place steps more : Nat}
  {walk : Walk} {s grown : Skeleton}

/-! ### Grounded places -/

/-- Every way down from a place comes to an end. -/
def Grounded (nodes : List SceneNode) (place : Nat) : Prop :=
  Acc (fun child parent => HasChild nodes parent child) place

theorem grounded_of_missing (h : nodes[place]? = none) : Grounded nodes place := by
  refine Acc.intro place ?_
  rintro child ⟨node, hnode, _⟩
  simp [h] at hnode

theorem grounded_of_children {node : SceneNode} (h : nodes[place]? = some node)
    (hchildren : ∀ child ∈ node.children, Grounded nodes child) : Grounded nodes place := by
  refine Acc.intro place ?_
  rintro child ⟨other, hother, hchild⟩
  obtain rfl := Option.some.inj (h.symm.trans hother)
  exact hchildren child hchild

theorem Grounded.acyclicFrom (h : Grounded nodes place) : AcyclicFrom nodes place := by
  induction h with
  | intro place _ ih =>
    intro lower hlower hcycle
    rcases hlower.cases_head with rfl | ⟨child, hchild, hlower⟩
    · -- the first step of the cycle leads to a child, and from there the cycle is closed
      obtain ⟨child, hchild, hback⟩ := Relation.TransGen.head'_iff.mp hcycle
      exact ih child hchild place hback hcycle
    · exact ih child hchild lower hlower hcycle

/-- **What is on the worklist of a walk that ends is grounded.**  By induction on the number of
steps: the children of the place that is visited are on the worklist after the step. -/
theorem grounded_of_ends (h : ((Walk.step nodes isBone)^[steps] walk).worklist = []) :
    ∀ entry ∈ walk.worklist, Grounded nodes entry.1 := by
  induction steps generalizing walk with
  | zero =>
    intro entry hentry
    have hempty : walk.worklist = [] := h
    simp [hempty] at hentry
  | succ steps ih =>
    obtain ⟨found, worklist⟩ := walk
    rw [Function.iterate_succ_apply] at h
    rcases worklist.eq_nil_or_concat with rfl | ⟨rest, ⟨place, above⟩, rfl⟩
    · simp
    · rw [List.concat_eq_append] at h ⊢
      intro entry hentry
      cases hnode : nodes[place]? with
      | none =>
        rw [step_missing hnode] at h
        rcases List.mem_append.mp hentry with hrest | hlast
        · exact ih h entry hrest
        · obtain rfl := List.mem_singleton.mp hlast
          exact grounded_of_missing hnode
      | some node =>
        rw [step_node hnode] at h
        rcases List.mem_append.mp hentry with hrest | hlast
        · exact ih h entry (List.mem_append_left _ hrest)
        · obtain rfl := List.mem_singleton.mp hlast
          refine grounded_of_children hnode fun child hchild => ?_
          refine ih h (child, (visit isBone found node above).2) (List.mem_append_right _ ?_)
          exact List.mem_map.mpr ⟨child, List.mem_reverse.mpr hchild, rfl⟩

/-! ### The end of a walk -/

theorem step_ended (s : Skeleton) : Walk.step nodes isBone ⟨s, []⟩ = ⟨s, []⟩ := rfl

theorem end_unique (h : (Walk.step nodes isBone)^[steps] walk = ⟨s, []⟩)
    (hmore : (Walk.step nodes isBone)^[more] walk = ⟨grown, []⟩) : s = grown := by
  -- whichever run is the shorter one, the steps that the other one goes on for change nothing
  have hlonger : ∀ {m n : Nat} {s t : Skeleton}, (Walk.step nodes isBone)^[m] walk = ⟨s, []⟩ →
      (Walk.step nodes isBone)^[m + n] walk = ⟨t, []⟩ → s = t := by
    intro m n s t hm hn
    rw [Nat.add_comm, Function.iterate_add_apply, hm, Function.iterate_fixed (step_ended s)] at hn
    exact congrArg Walk.found hn
  rcases Nat.le_total steps more with hle | hle
  · obtain ⟨n, rfl⟩ := Nat.exists_eq_add_of_le hle
    exact hlonger h hmore
  · obtain ⟨n, rfl⟩ := Nat.exists_eq_add_of_le hle
    exact (hlonger hmore h).symm

theorem Walk.iterate_of_finish? (h : walk.finish? nodes isBone steps = some s) :
    ∃ made, (Walk.step nodes isBone)^[made] walk = ⟨s, []⟩ := by
  have hended : ∀ {walk : Walk}, walk.worklist.isEmpty = true → walk = ⟨walk.found, []⟩ := by
    rintro ⟨found, worklist⟩ hempty
    obtain rfl : worklist = [] := List.isEmpty_iff.mp hempty
    rfl
  induction steps generalizing walk with
  | zero =>
    rw [Walk.finish?, Option.ite_none_right_eq_some] at h
    obtain ⟨hempty, hfound⟩ := h
    obtain rfl := Option.some.inj hfound
    exact ⟨0, hended hempty⟩
  | succ steps ih =>
    rw [Walk.finish?] at h
    split at h
    · rename_i hempty
      obtain rfl := Option.some.inj h
      exact ⟨0, hended hempty⟩
    · obtain ⟨made, hmade⟩ := ih h
      exact ⟨made + 1, hmade⟩

/-- **The walk ends exactly where no cycle is below its root.**  What it has found then is the
skeleton that `discover?` gives, and where the walk has no end `discover?` gives none. -/
theorem walk_ends_iff (nodes : List SceneNode) (root : Nat) (isBone : String → Bool) :
    ((∃ steps, ((Walk.step nodes isBone)^[steps] ⟨empty, [(root, none)]⟩).worklist = []) ↔
        AcyclicFrom nodes root) ∧
      ∀ s, discover? nodes root isBone = some s ↔
        ∃ steps, (Walk.step nodes isBone)^[steps] ⟨empty, [(root, none)]⟩ = ⟨s, []⟩ := by
  have hends : AcyclicFrom nodes root → ∃ grown, (Walk.step nodes isBone)^[visits nodes
      (nodes.length + 1) root] ⟨empty, [(root, none)]⟩ = ⟨grown, []⟩ := by
    intro hacyclic
    have hclears : Clears nodes isBone [root] (visits nodes (nodes.length + 1) root) :=
      clears_of_acyclicFrom hacyclic (Finset.empty_subset _) (by simp) (by simp)
    obtain ⟨grown, _, _, _, hrun⟩ := hclears empty none (fun _ h => by simp at h)
    exact ⟨grown, hrun []⟩
  have hacyclic : ∀ {steps}, ((Walk.step nodes isBone)^[steps] ⟨empty, [(root, none)]⟩).worklist =
      [] → AcyclicFrom nodes root := by
    intro steps hend
    exact (grounded_of_ends hend (root, none) List.mem_cons_self).acyclicFrom
  refine ⟨⟨fun ⟨_, hend⟩ => hacyclic hend, fun h => ?_⟩, fun s => ⟨Walk.iterate_of_finish?, ?_⟩⟩
  · obtain ⟨grown, hrun⟩ := hends h
    exact ⟨_, by rw [hrun]⟩
  · rintro ⟨steps, hrun⟩
    obtain ⟨grown, hgrown⟩ := hends (hacyclic (by rw [hrun]))
    obtain rfl := end_unique hrun hgrown
    exact Walk.finish?_of_iterate hgrown

/-! ### A ring

One node, which is its own child. -/

def ring : List SceneNode := [⟨"ring", Matrix.identity, [0]⟩]

/-- The walk through the ring is never over, although there is no bone to be found. -/
theorem walk_never_ends_of_ring :
    ¬ ∃ steps, ((Walk.step ring ([] : List String).contains)^[steps]
      ⟨empty, [(0, none)]⟩).worklist = [] := by
  rintro ⟨steps, hend⟩
  have hstays : Walk.step ring ([] : List String).contains ⟨empty, [(0, none)]⟩ =
      ⟨empty, [(0, none)]⟩ := rfl
  rw [Function.iterate_fixed hstays] at hend
  simp at hend

end SceneCompiler.Skeleton
