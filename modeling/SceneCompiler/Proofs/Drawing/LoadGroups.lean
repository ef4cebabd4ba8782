import Mathlib.Data.List.SplitBy
import SceneCompiler.Drawing

/-!
# Loads in groups

The loads that are pending are looked at once, place by place, and a group is completed where the
next load does not follow. What comes out is the one way to cut the loads there and nowhere else
(`contiguousLoads_eq_splitBy`). So nothing is lost, each group can be done by one command, and no
other way to do the loads in their order takes fewer commands (`contiguousLoads_fewest`).
-/

namespace SceneCompiler

/-! ### Cutting a list -/

section Cutting

variable {α : Type} {r : α → α → Bool}

/-- Elements that lead into the first group become part of it. -/
theorem splitBy_append_of_leads {piece rest group : List α} {groups : List (List α)} {x y : α}
    (hpiece : piece.IsChain fun x y => r x y = true) (hx : x ∈ piece.getLast?)
    (hy : y ∈ rest.head?) (hleads : r x y = true) (hrest : rest.splitBy r = group :: groups) :
    (piece ++ rest).splitBy r = (piece ++ group) :: groups := by
  obtain ⟨rfl, hnonempty, hchains, hcuts⟩ := List.splitBy_eq_iff.mp hrest
  obtain ⟨hgroup, hgroups⟩ := List.forall_mem_cons.mp hchains
  have hne : group ≠ [] := fun heq => hnonempty (heq ▸ List.mem_cons_self)
  have hjoined : piece ++ group ≠ [] := List.append_ne_nil_of_right_ne_nil piece hne
  rw [List.flatten_cons, List.head?_append_of_ne_nil _ hne] at hy
  refine List.splitBy_eq_iff.mpr ⟨by simp, ?_, ?_, ?_⟩
  · rw [List.mem_cons, not_or]
    exact ⟨hjoined.symm, fun hmem => hnonempty (List.mem_cons_of_mem group hmem)⟩
  · refine List.forall_mem_cons.mpr ⟨List.isChain_append.mpr ⟨hpiece, hgroup, ?_⟩, hgroups⟩
    intro x' hx' y' hy'
    obtain rfl := Option.mem_unique hx hx'
    obtain rfl := Option.mem_unique hy hy'
    exact hleads
  · -- the first group still ends as it did
    obtain ⟨hfirst, htail⟩ := List.isChain_cons.mp hcuts
    refine List.isChain_cons.mpr ⟨fun next hnext => ?_, htail⟩
    obtain ⟨_, hhead, hbreak⟩ := hfirst next hnext
    refine ⟨hjoined, hhead, ?_⟩
    rwa [List.getLast_append_of_ne_nil _ hne]

theorem length_splitBy_append_le {piece : List α} (hpiece : piece.IsChain fun x y => r x y = true)
    (rest : List α) :
    ((piece ++ rest).splitBy r).length ≤ (rest.splitBy r).length + 1 := by
  by_cases hempty : piece = []
  · subst hempty
    exact Nat.le_succ _
  by_cases hcut : ∀ x ∈ piece.getLast?, ∀ y ∈ rest.head?, r x y = false
  · rw [List.splitBy_append hcut, List.splitBy_of_isChain hempty hpiece, List.length_append]
    exact (Nat.add_comm _ _).le
  · push Not at hcut
    obtain ⟨x, hx, y, hy, hleads⟩ := hcut
    cases hrest : rest.splitBy r with
    | nil => simp [List.splitBy_eq_nil.mp hrest] at hy
    | cons group groups =>
      rw [splitBy_append_of_leads hpiece hx hy (Bool.not_eq_false _ ▸ hleads) hrest]
      exact Nat.le_succ _

/-- **No list can be cut into fewer chains** than by cutting it only where it has to be cut. -/
theorem length_splitBy_flatten_le {pieces : List (List α)}
    (h : ∀ piece ∈ pieces, piece.IsChain fun x y => r x y = true) :
    (pieces.flatten.splitBy r).length ≤ pieces.length := by
  induction pieces with
  | nil => exact Nat.le_refl 0
  | cons piece rest ih =>
    obtain ⟨hpiece, hrest⟩ := List.forall_mem_cons.mp h
    have hshorter := ih hrest
    have hlonger := length_splitBy_append_le hpiece rest.flatten
    rw [List.flatten_cons, List.length_cons]
    omega

end Cutting

/-! ### Cutting place by place -/

namespace LoadGroups

variable {pending : List (VertexKey × Nat)} {groups : LoadGroups} {place : Nat}

/-- What is known before a place is looked at: the group under way is a chain with a load in it, and
the loads from its start on are split as if there were no others. -/
structure UpTo (pending : List (VertexKey × Nat)) (place : Nat) (groups : LoadGroups) : Prop where
  start_lt : groups.start < place
  chain : (groups.current pending place).IsChain fun x y => followsInLoad x y = true
  split : pending.splitBy followsInLoad =
    groups.complete ++ (pending.drop groups.start).splitBy followsInLoad

theorem upTo_start (pending : List (VertexKey × Nat)) : UpTo pending 1 {} where
  start_lt := Nat.zero_lt_one
  chain := by
    cases pending with
    | nil => exact List.isChain_nil
    | cons load rest => exact List.isChain_singleton load
  split := rfl

theorem groupEnds_iff : groupEnds pending place = true ↔
    ∀ x ∈ pending[place - 1]?, ∀ y ∈ pending[place]?, followsInLoad x y = false := by
  unfold groupEnds
  cases pending[place - 1]? <;> cases pending[place]? <;> simp

theorem current_ne_nil (hstart : groups.start < place) (hplace : place ≤ pending.length) :
    groups.current pending place ≠ [] := by
  intro hnil
  have hlength := congrArg List.length hnil
  rw [current, List.length_drop, List.length_take, List.length_nil] at hlength
  omega

theorem getLast?_current (hstart : groups.start < place) (hplace : place ≤ pending.length) :
    (groups.current pending place).getLast? = pending[place - 1]? := by
  have hmore : ¬ (pending.take place).length ≤ groups.start := by
    rw [List.length_take]
    omega
  rw [current, List.getLast?_drop, if_neg hmore, List.getLast?_take, if_neg (by omega)]
  simp [List.getElem?_eq_getElem (show place - 1 < pending.length by omega)]

theorem current_succ (hstart : groups.start < place) (hplace : place < pending.length) :
    groups.current pending (place + 1) = groups.current pending place ++ [pending[place]] := by
  rw [current, current, List.take_succ_eq_append_getElem hplace, List.drop_append_of_le_length]
  rw [List.length_take]
  omega

/-- A group that starts at a place has one load at most before the next place. -/
theorem isChain_opening (place : Nat) :
    ((pending.take (place + 1)).drop place).IsChain fun x y => followsInLoad x y = true := by
  by_cases hplace : place < pending.length
  · rw [List.drop_take_succ_eq_cons_getElem _ _ hplace]
    exact List.isChain_singleton _
  · rw [List.drop_eq_nil_of_le (by rw [List.length_take]; omega)]
    exact List.isChain_nil

/-- A group that ends is cut off from the loads after it. -/
theorem UpTo.splitBy_of_ends (h : UpTo pending place groups) (hplace : place ≤ pending.length)
    (hends : groupEnds pending place = true) :
    pending.splitBy followsInLoad =
      groups.complete ++ [groups.current pending place] ++
        (pending.drop place).splitBy followsInLoad := by
  have hparts : pending.drop groups.start =
      groups.current pending place ++ pending.drop place := by
    rw [current, ← List.drop_append_of_le_length, List.take_append_drop]
    have hstart := h.start_lt
    rw [List.length_take]
    omega
  have hcut : ∀ x ∈ (groups.current pending place).getLast?,
      ∀ y ∈ (pending.drop place).head?, followsInLoad x y = false := by
    rw [getLast?_current h.start_lt hplace, List.head?_drop]
    exact groupEnds_iff.mp hends
  rw [h.split, hparts, List.splitBy_append hcut,
    List.splitBy_of_isChain (current_ne_nil h.start_lt hplace) h.chain, List.append_assoc]

/-- **A place keeps the groups right**, whether a group ends there or goes on. -/
theorem UpTo.step (h : UpTo pending place groups) (hplace : place ≤ pending.length) :
    UpTo pending (place + 1) (groups.step pending place) := by
  by_cases hends : groupEnds pending place = true
  · have hstep : groups.step pending place =
        { complete := groups.complete ++ [groups.current pending place], start := place } := by
      simp [LoadGroups.step, hends, h.start_lt]
    rw [hstep]
    exact ⟨Nat.lt_succ_self place, isChain_opening place, h.splitBy_of_ends hplace hends⟩
  · have hstep : groups.step pending place = groups := by
      simp [LoadGroups.step, hends]
    rw [hstep]
    refine ⟨Nat.lt_succ_of_lt h.start_lt, ?_, h.split⟩
    rw [groupEnds_iff] at hends
    push Not at hends
    obtain ⟨x, hx, y, hy, hfollows⟩ := hends
    obtain ⟨hlt, rfl⟩ := List.getElem?_eq_some_iff.mp hy
    rw [current_succ h.start_lt hlt]
    refine List.isChain_append.mpr ⟨h.chain, List.isChain_singleton _, ?_⟩
    rw [getLast?_current h.start_lt hplace, List.head?_singleton]
    intro x' hx' y' hy'
    obtain rfl := Option.mem_unique hx hx'
    obtain rfl := Option.some.inj hy'
    exact Bool.not_eq_false _ ▸ hfollows

/-- The groups after some places have been looked at. -/
theorem upTo_foldl {count : Nat} (hcount : count ≤ pending.length) :
    UpTo pending (count + 1) ((List.range' 1 count).foldl (LoadGroups.step pending) {}) := by
  induction count with
  | zero => exact upTo_start pending
  | succ count ih =>
    rw [List.range'_1_concat, List.foldl_append, List.foldl_cons, List.foldl_nil, Nat.add_comm 1]
    exact (ih (by omega)).step hcount

end LoadGroups

/-- **The loads are cut where one does not follow, and nowhere else.** -/
theorem contiguousLoads_eq_splitBy (pending : List (VertexKey × Nat)) :
    contiguousLoads pending = pending.splitBy followsInLoad := by
  cases hlength : pending.length with
  | zero =>
    rw [List.length_eq_zero_iff] at hlength
    subst hlength
    rfl
  | succ count =>
    have hbefore : LoadGroups.UpTo pending (count + 1)
        ((List.range' 1 count).foldl (LoadGroups.step pending) {}) :=
      LoadGroups.upTo_foldl (by omega)
    have hends : groupEnds pending (count + 1) = true := by
      have hnone : pending[count + 1]? = none := List.getElem?_eq_none (by omega)
      simp [LoadGroups.groupEnds_iff, hnone]
    have hsplit := hbefore.splitBy_of_ends (by omega) hends
    rw [List.drop_eq_nil_of_le (by omega), List.splitBy_nil, List.append_nil] at hsplit
    rw [contiguousLoads, hlength, List.range'_1_concat, List.foldl_append, List.foldl_cons,
      List.foldl_nil, Nat.add_comm 1, hsplit]
    simp [LoadGroups.step, hends, hbefore.start_lt]

theorem flatten_contiguousLoads (pending : List (VertexKey × Nat)) :
    (contiguousLoads pending).flatten = pending := by
  rw [contiguousLoads_eq_splitBy]
  exact List.flatten_splitBy _ _

theorem chain_contiguousLoads {pending group : List (VertexKey × Nat)}
    (h : group ∈ contiguousLoads pending) :
    group.IsChain fun x y => followsInLoad x y = true := by
  rw [contiguousLoads_eq_splitBy] at h
  exact List.isChain_of_mem_splitBy h

/-! ### As few groups as possible -/

/-- A load of the next vertex into the next slot, under the same bone. -/
def IsNextLoad (x y : VertexKey × Nat) : Prop :=
  y.1.index = x.1.index + 1 ∧ y.2 = x.2 + 1 ∧ y.1.bone = x.1.bone

theorem followsInLoad_iff {x y : VertexKey × Nat} :
    followsInLoad x y = true ↔ IsNextLoad x y := by
  simp [followsInLoad, IsNextLoad, and_assoc]

/-- **Pending loads are split exactly, and no more than they have to be.**  The groups are not empty
and hold the loads in their order. In a group each load is followed by the next one: the next vertex,
into the next slot, under the same bone. Between two groups this fails in some way. So however the
loads are done in their order by commands that load one vertex after the other, there are no fewer
commands than groups. -/
theorem contiguousLoads_fewest (pending : List (VertexKey × Nat)) :
    [] ∉ contiguousLoads pending ∧
      (contiguousLoads pending).flatten = pending ∧
      (∀ group ∈ contiguousLoads pending, group.IsChain IsNextLoad) ∧
      ((contiguousLoads pending).IsChain fun group further =>
        ∃ x ∈ group.getLast?, ∃ y ∈ further.head?, y.1.index ≠ x.1.index + 1 ∨ y.2 ≠ x.2 + 1 ∨
          y.1.bone ≠ x.1.bone) ∧
      ∀ loads : List (List (VertexKey × Nat)), loads.flatten = pending →
        (∀ group ∈ loads, group.IsChain IsNextLoad) →
        (contiguousLoads pending).length ≤ loads.length := by
  refine ⟨?_, flatten_contiguousLoads pending, fun group hgroup => ?_, ?_, fun loads hloads hnext => ?_⟩
  · rw [contiguousLoads_eq_splitBy]
    exact List.nil_notMem_splitBy _ _
  · exact (chain_contiguousLoads hgroup).imp fun _ _ => followsInLoad_iff.mp
  · rw [contiguousLoads_eq_splitBy]
    refine (List.isChain_getLast_head_splitBy followsInLoad pending).imp fun group further hcut => ?_
    obtain ⟨hgroup, hfurther, hcut⟩ := hcut
    refine ⟨_, List.getLast_mem_getLast? hgroup, _, List.head_mem_head? hfurther, ?_⟩
    have hbreak : ¬ IsNextLoad (group.getLast hgroup) (further.head hfurther) := by
      rw [← followsInLoad_iff, hcut]
      exact Bool.false_ne_true
    simpa only [IsNextLoad, not_and_or] using hbreak
  · subst hloads
    rw [contiguousLoads_eq_splitBy]
    refine length_splitBy_flatten_le fun group hgroup => ?_
    exact (hnext group hgroup).imp fun _ _ => followsInLoad_iff.mpr

/-- A vertex that is left out ends a group, and so does another bone. -/
example : (contiguousLoads [(⟨0, 0, none⟩, 0), (⟨0, 1, none⟩, 1), (⟨0, 3, none⟩, 2),
    (⟨0, 4, some 0⟩, 3)]).map List.length = [2, 1, 1] := by decide

end SceneCompiler
