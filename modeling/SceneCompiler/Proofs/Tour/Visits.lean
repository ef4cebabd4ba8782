import Mathlib.Data.List.Nodup
import Mathlib.Data.List.Perm.Subperm
import SceneCompiler.Batch.Order
import SceneCompiler.Proofs.Tour.Heap

/-!
# Tours visit every node

Whatever the costs are, and however a frontier breaks ties, the tour that a search finds visits
every node other than zero exactly once (`CostMatrix.solveWith_order_perm`). A partial tour goes on to
nodes that it has not marked, and the marks are those of its path (`PartialTour.Simple`). What is
needed of the frontier is only that it gives back what was put into it, which the heap does.

An order of batches is such a tour, mapped back to batches, so it is a permutation of the batches
(`Scene.orderBatches_perm`).
-/

namespace SceneCompiler

/-! ### The search -/

variable {C : Type} [CostScale C]

/-- A partial tour through nodes other than zero that does not come to any of them twice, with exactly
node zero and these nodes marked. -/
structure PartialTour.Simple (m : CostMatrix C) (t : PartialTour C) : Prop where
  nodup : t.path.Nodup
  mem_others : ∀ node ∈ t.path, node ∈ m.others
  visited : ∀ node, t.visited[node]? =
    if node < m.size then some (decide (node = 0 ∨ node ∈ t.path)) else none

namespace CostMatrix

variable {m : CostMatrix C}

omit [CostScale C] in
theorem length_others (m : CostMatrix C) : m.others.length = m.size - 1 := by
  simp [others]

omit [CostScale C] in
theorem perm_others {path : List Nat} (hnodup : path.Nodup) (hmem : ∀ node ∈ path, node ∈ m.others)
    (hlength : path.length + 1 = m.size) : path.Perm m.others := by
  have hsub : List.Subperm path m.others := hnodup.subperm hmem
  refine hsub.perm_of_length_le ?_
  rw [length_others]
  omega

omit [CostScale C] in
theorem mem_others {node : Nat} : node ∈ m.others ↔ 0 < node ∧ node < m.size := by
  rw [others, List.mem_range'_1]
  omega

omit [CostScale C] in
theorem mem_unvisited {t : PartialTour C} (h : t.Simple m) {node : Nat} :
    node ∈ t.unvisited m ↔ node ∈ m.others ∧ node ∉ t.path := by
  rw [PartialTour.unvisited, List.mem_filter]
  refine and_congr_right fun hnode => ?_
  obtain ⟨hpos, hlt⟩ := mem_others.mp hnode
  simp [h.visited node, hlt, hpos.ne']

theorem getElem?_visited_extend (bounds : Array (C × C)) (t : PartialTour C) (next node : Nat) :
    (t.extend m bounds next).visited[node]? =
      if next = node then if next < t.visited.size then some true else none
      else t.visited[node]? :=
  Array.getElem?_setIfInBounds

theorem simple_extend (bounds : Array (C × C)) {t : PartialTour C} (h : t.Simple m) {next : Nat}
    (hnext : next ∈ t.unvisited m) : (t.extend m bounds next).Simple m := by
  obtain ⟨hnode, hfresh⟩ := (mem_unvisited h).mp hnext
  have hpath : (t.extend m bounds next).path = t.path.concat next := by
    simp [PartialTour.extend]
  constructor
  · rw [hpath]
    exact h.nodup.concat hfresh
  · rw [hpath]
    intro node hmem
    rw [List.concat_eq_append, List.mem_append, List.mem_singleton] at hmem
    rcases hmem with hmem | rfl
    · exact h.mem_others node hmem
    · exact hnode
  · intro node
    have hplace : next < t.visited.size := by
      have hvisited := h.visited next
      rw [if_pos (mem_others.mp hnode).2] at hvisited
      exact (Array.getElem?_eq_some_iff.mp hvisited).1
    rw [getElem?_visited_extend, hpath]
    by_cases heq : next = node
    · subst heq
      simp [hplace, (mem_others.mp hnode).2]
    · simp [heq, h.visited node, Ne.symm heq]

theorem extends_simple (m : CostMatrix C) :
    Extends m m.incomingBounds (PartialTour.Simple m) (·.order.Perm m.others) where
  extend _ ht _ hnext := simple_extend m.incomingBounds ht hnext
  beat _ ht _ hnext _ _ child hchild hfull _ := by
    have hsimple : child.Simple m := hchild ▸ simple_extend m.incomingBounds ht hnext
    exact perm_others hsimple.nodup hsimple.mem_others hfull

/-! ### The greedy tour -/

theorem cheapest_mem {α : Type} {cost : α → C} {list : List α} {a : α}
    (h : CostScale.cheapest cost list = some a) : a ∈ list := by
  cases list with
  | nil => simp [CostScale.cheapest] at h
  | cons first rest =>
    have hfold : ∀ (rest : List α) (best : α), rest.foldl (fun best next =>
        if CostScale.compare (cost next) (cost best) = .lt then next else best) best ∈
          best :: rest := by
      intro rest
      induction rest with
      | nil => exact fun best => List.mem_singleton_self best
      | cons next rest ih =>
        intro best
        rw [List.foldl_cons]
        split
        · exact List.mem_cons_of_mem best (ih next)
        · rcases List.mem_cons.mp (ih best) with heq | hmem
          · rw [heq]
            exact List.mem_cons_self
          · exact List.mem_cons_of_mem _ (List.mem_cons_of_mem _ hmem)
    obtain rfl := Option.some.inj h
    exact hfold rest first

theorem greedyWalk_perm (m : CostMatrix C) (count current : Nat) (left : List Nat)
    (hcount : left.length = count) : (m.greedyWalk count current left).Perm left := by
  induction count generalizing current left with
  | zero =>
    obtain rfl := List.length_eq_zero_iff.mp hcount
    rfl
  | succ count ih =>
    unfold greedyWalk
    cases hnext : CostScale.cheapest (m.get current) left with
    | none =>
      cases left with
      | nil => simp at hcount
      | cons first rest => simp [CostScale.cheapest] at hnext
    | some next =>
      have hmem := cheapest_mem hnext
      have hlength : (left.erase next).length = count := by
        rw [List.length_erase_of_mem hmem]
        omega
      exact ((ih next _ hlength).cons next).trans (List.perm_cons_erase hmem).symm

theorem greedyTour_perm (m : CostMatrix C) : m.greedyTour.Perm m.others :=
  greedyWalk_perm m _ 0 m.others m.length_others

theorem simple_start (m : CostMatrix C) : (PartialTour.start m).Simple m where
  nodup := List.nodup_nil
  mem_others := by simp [PartialTour.start]
  visited node := by
    simp only [PartialTour.start, Array.getElem?_setIfInBounds, Array.size_replicate,
      Array.getElem?_replicate, List.not_mem_nil, or_false]
    by_cases hzero : 0 = node
    · simp [← hzero]
    · simp [hzero, Ne.symm hzero]

/-- **Searched tours visit every node once**, whatever the frontier. -/
theorem solveWith_order_perm {frontier : Frontier (PartialTour C)}
    (hkeeps : frontier.Keeps (PartialTour.Simple m)) (budget : Nat) :
    (m.solveWith frontier budget).order.Perm m.others :=
  solveWith_induction hkeeps (extends_simple m) (simple_start m) (greedyTour_perm m) budget

theorem solve_order_perm (m : CostMatrix C) (budget : Nat) :
    (m.solve budget).order.Perm m.others :=
  solveWith_order_perm (Heap.keeps _ _) budget

end CostMatrix

/-! ### Batches -/

theorem swapWithFirst_perm {α : Type} (place : Nat) (xs : List α) :
    (swapWithFirst place xs).Perm xs := by
  unfold swapWithFirst
  split
  · rename_i first other hfirst hother
    obtain ⟨hlt, rfl⟩ := List.getElem?_eq_some_iff.mp hfirst
    obtain ⟨hplace, rfl⟩ := List.getElem?_eq_some_iff.mp hother
    exact List.set_set_perm hlt hplace
  · rfl

theorem filterMap_getElem?_range {α : Type} (xs : List α) :
    (List.range xs.length).filterMap (fun i => xs[i]?) = xs := by
  induction xs with
  | nil => rfl
  | cons x rest ih =>
    rw [List.length_cons, List.range_succ_eq_map, List.filterMap_cons, List.filterMap_map]
    exact congrArg (x :: ·) ih

/-- A tour that visits every node once, mapped back to what its nodes stand for. -/
theorem filterMap_order_perm {α : Type} {order : List Nat} {x : α} {xs : List α}
    (h : order.Perm (List.range' 1 xs.length)) :
    (order.filterMap fun node => (x :: xs)[node]?).Perm xs := by
  have hplaces : (List.range' 1 xs.length).filterMap (fun node => (x :: xs)[node]?) = xs := by
    rw [List.range'_eq_map_range, List.filterMap_map]
    calc (List.range xs.length).filterMap ((fun node => (x :: xs)[node]?) ∘ (1 + ·))
        = (List.range xs.length).filterMap fun i => xs[i]? := by
          refine List.filterMap_congr fun i _ => ?_
          rw [Function.comp_apply, Nat.add_comm]
          rfl
      _ = xs := filterMap_getElem?_range xs
  calc (order.filterMap fun node => (x :: xs)[node]?).Perm
        ((List.range' 1 xs.length).filterMap fun node => (x :: xs)[node]?) := h.filterMap _
    _ = xs := hplaces

/-- **An order of batches is a permutation of the batches.** -/
theorem Scene.orderBatches_perm (scene : Scene) (default : Option MaterialKey) (timing : Timing C)
    (budget : Nat) (batches : List Batch) :
    (scene.orderBatches default timing budget batches).Perm batches := by
  have hsolution : ∀ x xs, (((scene.costMatrix timing (x :: xs)).solve budget).order.filterMap
      fun node => (x :: xs)[node]?).Perm xs := by
    intro x xs
    have horder := CostMatrix.solve_order_perm (scene.costMatrix timing (x :: xs)) budget
    have hothers : (scene.costMatrix timing (x :: xs)).others = List.range' 1 xs.length := by
      simp [CostMatrix.others, costMatrix, CostMatrix.ofFn]
    rw [hothers] at horder
    exact filterMap_order_perm horder
  unfold orderBatches
  split
  · rfl
  · unfold tourNodes
    dsimp only
    cases batches.findIdx? (·.isRest default) with
    | none => exact hsolution (Batch.rest default) batches
    | some place =>
      dsimp only
      have hnodes := swapWithFirst_perm place batches
      cases hswapped : swapWithFirst place batches with
      | nil =>
        rw [hswapped] at hnodes
        obtain rfl := hnodes.nil_eq
        simp_all
      | cons x xs =>
        rw [hswapped] at hnodes
        exact ((hsolution x xs).cons x).trans hnodes

end SceneCompiler
