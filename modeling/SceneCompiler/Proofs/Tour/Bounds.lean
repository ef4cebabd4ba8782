import Mathlib.Algebra.Order.Ring.Rat
import Mathlib.Data.List.Nodup
import Mathlib.Order.Bounds.Basic
import Mathlib.Tactic.Linarith
import Mathlib.Tactic.Ring
import SceneCompiler.Proofs.Tour.Prices

/-!
# Bounds of partial tours

Over exact costs every edge costs at least as much as the cheapest edge into its target, and at most
as much as the dearest one (`CostMatrix.get_between`). The bounds of a partial tour add these up over
the nodes that it has not entered, node zero included (`PartialTour.Bracketed`), and stay so when the
tour is extended. So each way to complete the tour costs something between the two
(`CostMatrix.tourCost_between`).

All this holds of every partial tour that a search can come to
(`PartialTour.Reached.brackets_completions`).
-/

namespace SceneCompiler

namespace CostMatrix

variable (m : CostMatrix ℚ)

def cheapestInto (node : Nat) : ℚ := (m.incomingBounds.getD node (0, 0)).1

def dearestInto (node : Nat) : ℚ := (m.incomingBounds.getD node (0, 0)).2

variable {m}

/-! ### Edges -/

/-- The costs of the edges into a node. -/
def edgesInto (m : CostMatrix ℚ) (node : Nat) : Set ℚ :=
  {cost | ∃ source < m.size, source ≠ node ∧ m.get source node = cost}

theorem edgesInto_eq (node : Nat) : m.edgesInto node = {cost | cost ∈ m.incoming node} := by
  ext cost
  simp [edgesInto, incoming, and_assoc]

theorem incoming_ne_nil (hsize : 2 ≤ m.size) (node : Nat) : m.incoming node ≠ [] := by
  obtain ⟨source, hsource, hne⟩ : ∃ source < m.size, source ≠ node := by
    by_cases hzero : node = 0
    · exact ⟨1, by omega, by omega⟩
    · exact ⟨0, by omega, by omega⟩
  refine List.ne_nil_of_mem (List.mem_map.mpr ⟨source, ?_, rfl⟩)
  exact List.mem_filter.mpr ⟨List.mem_range.mpr hsource, decide_eq_true hne⟩

theorem isLeast_spread {costs : List ℚ} (h : costs ≠ []) :
    IsLeast {cost | cost ∈ costs} (spread costs).1 := by
  cases costs with
  | nil => contradiction
  | cons first rest => exact List.min?_eq_some_iff.mp List.min?_cons'

theorem isGreatest_spread {costs : List ℚ} (h : costs ≠ []) :
    IsGreatest {cost | cost ∈ costs} (spread costs).2 := by
  cases costs with
  | nil => contradiction
  | cons first rest => exact List.max?_eq_some_iff.mp List.max?_cons'

theorem getD_incomingBounds {node : Nat} (h : node < m.size) :
    m.incomingBounds.getD node (0, 0) = spread (m.incoming node) := by
  rw [Array.getD_eq_getD_getElem?, incomingBounds, Array.getElem?_ofFn, dif_pos h]
  rfl

theorem isLeast_cheapestInto (hsize : 2 ≤ m.size) {node : Nat} (hnode : node < m.size) :
    IsLeast (m.edgesInto node) (m.cheapestInto node) := by
  rw [edgesInto_eq, cheapestInto, getD_incomingBounds hnode]
  exact isLeast_spread (incoming_ne_nil hsize node)

theorem isGreatest_dearestInto (hsize : 2 ≤ m.size) {node : Nat} (hnode : node < m.size) :
    IsGreatest (m.edgesInto node) (m.dearestInto node) := by
  rw [edgesInto_eq, dearestInto, getD_incomingBounds hnode]
  exact isGreatest_spread (incoming_ne_nil hsize node)

/-- **Every edge costs something between the cheapest and the dearest edge into its target.** -/
theorem get_between {source target : Nat} (hsource : source < m.size) (htarget : target < m.size)
    (hne : source ≠ target) :
    m.cheapestInto target ≤ m.get source target ∧ m.get source target ≤ m.dearestInto target := by
  have hsize : 2 ≤ m.size := by omega
  have hedge : m.get source target ∈ m.edgesInto target := ⟨source, hsource, hne, rfl⟩
  exact ⟨(isLeast_cheapestInto hsize htarget).2 hedge, (isGreatest_dearestInto hsize htarget).2 hedge⟩

/-- A way through some nodes and back costs something between the cheapest and the dearest edges into
them. -/
theorem returnCost_between {current : Nat} {rest : List Nat} (hnodup : (current :: rest).Nodup)
    (hsize : ∀ node ∈ current :: rest, node < m.size) (hzero : 0 ∉ rest)
    (hcurrent : rest = [] → current ≠ 0) (soFar : ℚ) :
    soFar + ((0 :: rest).map m.cheapestInto).sum ≤ m.returnCost soFar current rest ∧
      m.returnCost soFar current rest ≤ soFar + ((0 :: rest).map m.dearestInto).sum := by
  induction rest generalizing current soFar with
  | nil =>
    have hlt := hsize current List.mem_cons_self
    have hedge := get_between hlt (Nat.zero_lt_of_lt hlt) (hcurrent rfl)
    simpa [returnCost] using hedge
  | cons next rest ih =>
    obtain ⟨hnew, hnodup⟩ := List.nodup_cons.mp hnodup
    have hedge := get_between (hsize current List.mem_cons_self) (hsize next (by simp))
      (fun heq => hnew (heq ▸ List.mem_cons_self))
    have hgo := ih hnodup (fun node hnode => hsize node (List.mem_cons_of_mem _ hnode))
      (fun hmem => hzero (List.mem_cons_of_mem _ hmem)) (fun _ heq => hzero (heq ▸ List.mem_cons_self))
      (soFar + m.get current next)
    simp only [List.map_cons, List.sum_cons, returnCost] at hgo ⊢
    constructor
    · linarith [hgo.1, hedge.1]
    · linarith [hgo.2, hedge.2]

end CostMatrix

/-! ### Partial tours -/

/-- A partial tour whose bounds are its length and, for every node that it has not entered, the
cheapest and the dearest edge into it. -/
structure PartialTour.Bracketed (m : CostMatrix ℚ) (t : PartialTour ℚ) : Prop where
  bestCase : t.bestCase = t.length + ((0 :: t.unvisited m).map m.cheapestInto).sum
  worstCase : t.worstCase = t.length + ((0 :: t.unvisited m).map m.dearestInto).sum

namespace CostMatrix

variable {m : CostMatrix ℚ} {t : PartialTour ℚ}

theorem nodup_others (m : CostMatrix ℚ) : m.others.Nodup := List.nodup_range'

theorem nodup_unvisited (m : CostMatrix ℚ) (t : PartialTour ℚ) : (t.unvisited m).Nodup :=
  (nodup_others m).filter _

theorem unvisited_extend (bounds : Array (ℚ × ℚ)) (next : Nat) :
    (t.extend m bounds next).unvisited m = (t.unvisited m).erase next := by
  rw [(nodup_unvisited m t).erase_eq_filter, PartialTour.unvisited, PartialTour.unvisited,
    List.filter_filter]
  refine List.filter_congr fun node _ => ?_
  rw [getElem?_visited_extend]
  by_cases heq : next = node
  · by_cases hplace : node < t.visited.size <;> simp [heq, hplace]
  · simp [heq, Ne.symm heq]

theorem unvisited_start (m : CostMatrix ℚ) : (PartialTour.start m).unvisited m = m.others := by
  refine List.filter_eq_self.mpr fun node hnode => ?_
  obtain ⟨hpos, hlt⟩ := mem_others.mp hnode
  rw [(simple_start m).visited node, if_pos hlt]
  simp [hpos.ne', PartialTour.start]

theorem cons_others (hsize : 0 < m.size) : 0 :: m.others = List.range m.size := by
  obtain ⟨count, hcount⟩ := Nat.exists_eq_add_one.mpr hsize
  simp [others, hcount, List.range_eq_range', List.range'_succ]

theorem toList_incomingBounds (m : CostMatrix ℚ) :
    m.incomingBounds.toList =
      (List.range m.size).map fun node => (m.cheapestInto node, m.dearestInto node) := by
  refine List.ext_getElem (by simp [incomingBounds]) fun node _ hnode => ?_
  rw [List.length_map, List.length_range] at hnode
  rw [List.getElem_map, List.getElem_range, cheapestInto, dearestInto, getD_incomingBounds hnode]
  simp [incomingBounds]

/-- The bounds of the start are for all nodes. -/
theorem sum_incomingBounds (hsize : 0 < m.size) (side : ℚ × ℚ → ℚ) :
    CostScale.sum (m.incomingBounds.toList.map side) =
      ((0 :: (PartialTour.start m).unvisited m).map fun node =>
        side (m.cheapestInto node, m.dearestInto node)).sum := by
  rw [CostScale.sum_exact, toList_incomingBounds, List.map_map, unvisited_start, cons_others hsize]
  rfl

theorem bracketed_start (hsize : 0 < m.size) : (PartialTour.start m).Bracketed m where
  bestCase := (sum_incomingBounds hsize Prod.fst).trans (zero_add _).symm
  worstCase := (sum_incomingBounds hsize Prod.snd).trans (zero_add _).symm

/-- In a bound an edge takes the place of what stood for the node that it leads to. -/
theorem bound_extend {bound : ℚ} {into : Nat → ℚ}
    (h : bound = t.length + ((0 :: t.unvisited m).map into).sum) {next : Nat}
    (hnext : next ∈ t.unvisited m) (bounds : Array (ℚ × ℚ)) (edge : ℚ) :
    bound - into next + edge =
      t.length + edge + ((0 :: (t.extend m bounds next).unvisited m).map into).sum := by
  calc bound - into next + edge
      = t.length + edge + (into 0 + (((t.unvisited m).erase next).map into).sum) := by
        rw [h, List.map_cons, List.sum_cons, ← List.sum_map_erase into hnext]
        ring
    _ = t.length + edge + ((0 :: (t.extend m bounds next).unvisited m).map into).sum := by
        rw [unvisited_extend, List.map_cons, List.sum_cons]

theorem bracketed_extend (h : t.Bracketed m) {next : Nat} (hnext : next ∈ t.unvisited m) :
    (t.extend m m.incomingBounds next).Bracketed m where
  bestCase := bound_extend h.bestCase hnext m.incomingBounds (m.get t.current next)
  worstCase := bound_extend h.worstCase hnext m.incomingBounds (m.get t.current next)

theorem path_append_unvisited_perm (h : t.Simple m) : (t.path ++ t.unvisited m).Perm m.others := by
  refine (List.perm_ext_iff_of_nodup ?_ (nodup_others m)).mpr fun node => ?_
  · refine List.nodup_append.mpr ⟨h.nodup, nodup_unvisited m t, fun a ha b hb heq => ?_⟩
    subst heq
    exact ((mem_unvisited h).mp hb).2 ha
  · rw [List.mem_append, mem_unvisited h]
    have := h.mem_others node
    by_cases hmem : node ∈ t.path <;> simp_all

theorem perm_unvisited (h : t.Simple m) {rest : List Nat}
    (hrest : (t.path ++ rest).Perm m.others) : rest.Perm (t.unvisited m) :=
  (List.perm_append_left_iff t.path).mp (hrest.trans (path_append_unvisited_perm h).symm)

/-- A partial tour is at node zero or at a node of its path. -/
theorem current_cases (t : PartialTour ℚ) :
    t.path = [] ∧ t.current = 0 ∨ t.current ∈ t.path := by
  rcases List.eq_nil_or_concat t.path with hpath | ⟨front, last, hpath⟩
  · exact Or.inl ⟨hpath, by simp [PartialTour.current, hpath]⟩
  · exact Or.inr (by simp [PartialTour.current, hpath])

/-- What is left to do for a partial tour: from where it is, through every node that it has not come
to, and back to another node. -/
theorem walk_of_perm_unvisited (hsimple : t.Simple m) (hsize : 2 ≤ m.size) {rest : List Nat}
    (hrest : rest.Perm (t.unvisited m)) :
    (t.current :: rest).Nodup ∧ (∀ node ∈ t.current :: rest, node < m.size) ∧ 0 ∉ rest ∧
      (rest = [] → t.current ≠ 0) := by
  have hothers : ∀ node ∈ rest, node ∈ m.others ∧ node ∉ t.path := by
    intro node hnode
    exact (mem_unvisited hsimple).mp (hrest.subset hnode)
  have hnodup : rest.Nodup := hrest.nodup_iff.mpr (nodup_unvisited m t)
  have hzero : 0 ∉ rest := fun hmem => absurd (mem_others.mp (hothers 0 hmem).1).1 (lt_irrefl 0)
  rcases current_cases t with ⟨hpath, hcurrent⟩ | hmem
  · refine ⟨?_, ?_, hzero, ?_⟩
    · rw [hcurrent]
      exact List.nodup_cons.mpr ⟨hzero, hnodup⟩
    · rw [hcurrent]
      intro node hnode
      rcases List.mem_cons.mp hnode with rfl | hnode
      · omega
      · exact (mem_others.mp (hothers node hnode).1).2
    · rintro rfl
      have hone : 1 ∈ t.unvisited m :=
        (mem_unvisited hsimple).mpr ⟨mem_others.mpr ⟨by omega, by omega⟩, by simp [hpath]⟩
      simp [hrest.nil_eq.symm] at hone
  · obtain ⟨hpos, hlt⟩ := mem_others.mp (hsimple.mem_others _ hmem)
    refine ⟨List.nodup_cons.mpr ⟨fun hcurrent => (hothers _ hcurrent).2 hmem, hnodup⟩, ?_, hzero,
      fun _ => hpos.ne'⟩
    intro node hnode
    rcases List.mem_cons.mp hnode with rfl | hnode
    · exact hlt
    · exact (mem_others.mp (hothers node hnode).1).2

/-- **Every way to complete a tour costs something between its bounds.** -/
theorem tourCost_between (hsimple : t.Simple m) (hpriced : t.Priced m) (hbracketed : t.Bracketed m)
    (hsize : 2 ≤ m.size) {rest : List Nat} (hrest : rest.Perm (t.unvisited m)) :
    t.bestCase ≤ m.tourCost (t.path ++ rest) ∧ m.tourCost (t.path ++ rest) ≤ t.worstCase := by
  obtain ⟨hnodup, hlt, hzero, hcurrent⟩ := walk_of_perm_unvisited hsimple hsize hrest
  have hwalk := returnCost_between hnodup hlt hzero hcurrent t.length
  rw [hpriced rest, hbracketed.bestCase, hbracketed.worstCase]
  simp only [List.map_cons, List.sum_cons] at hwalk ⊢
  rw [← (hrest.map m.cheapestInto).sum_eq, ← (hrest.map m.dearestInto).sum_eq]
  exact hwalk

end CostMatrix

/-! ### Partial tours that a search comes to -/

namespace PartialTour

/-- Partial tours that come from the start by going on to unvisited nodes. -/
inductive Reached (m : CostMatrix ℚ) : PartialTour ℚ → Prop
  | start : Reached m (start m)
  | extend {t : PartialTour ℚ} {next : Nat} (before : Reached m t) (hnext : next ∈ t.unvisited m) :
      Reached m (t.extend m m.incomingBounds next)

/-- The nodes that a partial tour has not entered. Node zero is where it ends, so it is one. -/
def notEntered (m : CostMatrix ℚ) (t : PartialTour ℚ) : List Nat :=
  (List.range m.size).filter (· ∉ t.path)

variable {m : CostMatrix ℚ} {t : PartialTour ℚ}

theorem notEntered_eq (h : t.Simple m) (hsize : 0 < m.size) :
    t.notEntered m = 0 :: t.unvisited m := by
  have hzero : 0 ∉ t.path := fun hmem => (CostMatrix.mem_others.mp (h.mem_others 0 hmem)).1.ne rfl
  rw [notEntered, ← CostMatrix.cons_others hsize, List.filter_cons_of_pos (by simpa using hzero)]
  refine congrArg (0 :: ·) (List.filter_congr fun node hnode => ?_)
  obtain ⟨hpos, hlt⟩ := CostMatrix.mem_others.mp hnode
  simp [h.visited node, hlt, hpos.ne']

/-- What holds at the start and is kept by each extension. -/
theorem Reached.invariants (hsize : 0 < m.size) (h : t.Reached m) :
    t.Simple m ∧ t.Priced m ∧ t.Bracketed m := by
  induction h with
  | start =>
    exact ⟨CostMatrix.simple_start m, CostMatrix.priced_start m, CostMatrix.bracketed_start hsize⟩
  | extend _ hnext ih =>
    obtain ⟨hsimple, hpriced, hbracketed⟩ := ih
    exact ⟨CostMatrix.simple_extend _ hsimple hnext, CostMatrix.priced_extend _ hpriced _,
      CostMatrix.bracketed_extend hbracketed hnext⟩

/-- **The bounds of a partial tour bracket every completion.**  However a search has come to a partial
tour, its length is that of its path, and its bounds are what a fresh sum gives: the length and the
cheapest or the dearest edge into each node that it has not entered. Exactly node zero and the path
are marked as visited. Whatever the order in which the tour goes on through all other nodes and back,
it costs something between the bounds. -/
theorem Reached.brackets_completions (hsize : 3 ≤ m.size) (h : t.Reached m) :
    (∀ node < m.size, IsLeast (m.edgesInto node) (m.cheapestInto node) ∧
        IsGreatest (m.edgesInto node) (m.dearestInto node)) ∧
      m.tourCost t.path = t.length + m.get t.current 0 ∧
      t.bestCase = t.length + ((t.notEntered m).map m.cheapestInto).sum ∧
      t.worstCase = t.length + ((t.notEntered m).map m.dearestInto).sum ∧
      (∀ node < m.size, t.visited[node]? = some (decide (node = 0 ∨ node ∈ t.path))) ∧
      ∀ rest, (t.path ++ rest).Perm (List.range' 1 (m.size - 1)) →
        t.bestCase ≤ m.tourCost (t.path ++ rest) ∧ m.tourCost (t.path ++ rest) ≤ t.worstCase := by
  obtain ⟨hsimple, hpriced, hbracketed⟩ := h.invariants (by omega)
  have hopen : t.notEntered m = 0 :: t.unvisited m := notEntered_eq hsimple (by omega)
  refine ⟨fun node hnode => ?_, CostMatrix.tourCost_of_priced hpriced, ?_, ?_,
    fun node hnode => ?_, fun rest hrest => ?_⟩
  · exact ⟨CostMatrix.isLeast_cheapestInto (by omega) hnode,
      CostMatrix.isGreatest_dearestInto (by omega) hnode⟩
  · rw [hopen]
    exact hbracketed.bestCase
  · rw [hopen]
    exact hbracketed.worstCase
  · rw [hsimple.visited node, if_pos hnode]
  · exact CostMatrix.tourCost_between hsimple hpriced hbracketed (by omega)
      (CostMatrix.perm_unvisited hsimple hrest)

end PartialTour

namespace CostMatrix.Detour

/-- From node two the detour can be finished for 4, or for as much as the upper bound tells. -/
theorem brackets_completions_of_detour :
    ∃ t : PartialTour ℚ, 3 ≤ (costs ℚ).size ∧ t.Reached (costs ℚ) ∧ t.path = [2] ∧
      t.bestCase = 3 ∧ t.worstCase = 31 ∧ t.notEntered (costs ℚ) = [0, 1, 3] ∧
      t.bestCase ≤ (costs ℚ).tourCost [2, 3, 1] ∧ (costs ℚ).tourCost [2, 1, 3] ≤ t.worstCase := by
  have hreached : ((PartialTour.start (costs ℚ)).extend (costs ℚ) (costs ℚ).incomingBounds 2).Reached
      (costs ℚ) := .extend .start (by decide +kernel)
  obtain ⟨_, _, _, _, _, hcompletions⟩ := hreached.brackets_completions (by decide)
  exact ⟨_, by decide, hreached, rfl, by decide +kernel, by decide +kernel, by decide +kernel,
    (hcompletions [3, 1] (by decide)).1, (hcompletions [1, 3] (by decide)).2⟩

end CostMatrix.Detour

end SceneCompiler
