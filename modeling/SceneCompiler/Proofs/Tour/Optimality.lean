import Mathlib.Algebra.BigOperators.Group.Multiset.Basic
import SceneCompiler.Proofs.Tour.Bounds

/-!
# The search is optimal

Over exact costs, from a frontier that gives out a greatest element, the search comes out with a
cheapest tour unless its budget ends it (`CostMatrix.solveWith_optimal`). Every tour is either no
cheaper than the best one known, or some partial tour that waits in the frontier is its start
(`CostMatrix.Covering`). Nothing is lost when an extension is dropped, since a tour costs no less
than the lower bound of its start. So when the partial tour that comes out next cannot beat the best
tour, no other one can either.

There are finitely many partial tours: an extension of one has a node less to go to, so a search
runs out of them before the budget if the budget is large enough.
-/

namespace SceneCompiler

namespace PartialTour

instance transCmp_priority : Std.TransCmp (priority : PartialTour ℚ → PartialTour ℚ → Ordering) :=
  haveI : Std.TransCmp fun s t : PartialTour ℚ => CostScale.compare t.bestCase s.bestCase :=
    @Std.TransCmp.opposite _ (compareOn PartialTour.bestCase) _
  haveI : Std.TransCmp fun s t : PartialTour ℚ => CostScale.compare t.worstCase s.worstCase :=
    @Std.TransCmp.opposite _ (compareOn PartialTour.worstCase) _
  inferInstanceAs (Std.TransCmp (compareLex _ _))

theorem bestCase_le_of_priority {s t : PartialTour ℚ} (h : (priority s t).isLE = true) :
    t.bestCase ≤ s.bestCase := by
  rw [← CostScale.isLE_compare_exact]
  unfold priority at h
  cases hcompare : CostScale.compare t.bestCase s.bestCase with
  | lt => rfl
  | eq => rfl
  | gt => simp [hcompare] at h

/-- A partial tour as the search keeps it in the frontier. -/
structure Pending (m : CostMatrix ℚ) (t : PartialTour ℚ) : Prop where
  simple : t.Simple m
  priced : t.Priced m
  bracketed : t.Bracketed m
  short : t.path.length + 1 < m.size

end PartialTour

namespace CostMatrix

variable {m : CostMatrix ℚ} {t : PartialTour ℚ}

theorem pending_start (hsize : 2 < m.size) : (PartialTour.start m).Pending m where
  simple := simple_start m
  priced := priced_start m
  bracketed := bracketed_start (by omega)
  short := by simp [PartialTour.start]; omega

/-- **A tour costs no less than the lower bound of its start.** -/
theorem bestCase_le_tourCost (hsimple : t.Simple m) (hpriced : t.Priced m)
    (hbracketed : t.Bracketed m) (hsize : 2 ≤ m.size) {order : List Nat}
    (horder : order.Perm m.others) (hstart : t.path <+: order) : t.bestCase ≤ m.tourCost order := by
  obtain ⟨rest, rfl⟩ := hstart
  exact (tourCost_between hsimple hpriced hbracketed hsize (perm_unvisited hsimple horder)).1

/-- A tour that starts like a full path is that path. -/
theorem tourCost_of_full (hpriced : t.Priced m) (hfull : t.path.length + 1 = m.size)
    {order : List Nat} (horder : order.Perm m.others) (hstart : t.path <+: order) :
    m.tourCost order = t.length + m.get t.current 0 := by
  have hlength : t.path.length = order.length := by
    rw [horder.length_eq, length_others]
    omega
  rw [← hstart.eq_of_length hlength, tourCost_of_priced hpriced]

/-- A tour that starts like a pending one goes on to a node that the pending one can go to. -/
theorem exists_next (h : t.Pending m) {order : List Nat} (horder : order.Perm m.others)
    (hstart : t.path <+: order) : ∃ next ∈ t.unvisited m, t.path ++ [next] <+: order := by
  obtain ⟨rest, rfl⟩ := hstart
  have hrest := perm_unvisited h.simple horder
  cases rest with
  | nil =>
    have hlength := horder.length_eq
    rw [List.append_nil, length_others] at hlength
    have hshort := h.short
    omega
  | cons next rest => exact ⟨next, hrest.subset List.mem_cons_self, rest, by simp⟩

/-! ### What the frontier still has to offer -/

variable {frontier : Frontier (PartialTour ℚ)} {Valid : frontier.Queue → Prop}
  {contents : frontier.Queue → Multiset (PartialTour ℚ)}

/-- Every tour that beats the best one starts like a partial tour in the frontier, or with a path
that is still to be considered. -/
structure Covering (Valid : frontier.Queue → Prop)
    (contents : frontier.Queue → Multiset (PartialTour ℚ)) (m : CostMatrix ℚ)
    (waiting : List (List Nat)) (queue : frontier.Queue) (best : Incumbent ℚ) : Prop where
  valid : Valid queue
  pending : ∀ t ∈ contents queue, t.Pending m
  covers : ∀ order, order.Perm m.others → m.tourCost order < best.cost →
    (∃ t ∈ contents queue, t.path <+: order) ∨ ∃ path ∈ waiting, path <+: order

theorem covering_start (hstores : frontier.Stores Valid contents) (hsize : 2 < m.size) :
    Covering Valid contents m [] (frontier.push frontier.empty (PartialTour.start m)) m.greedy := by
  obtain ⟨hvalid, hempty⟩ := hstores.empty
  obtain ⟨hvalid, hpush⟩ := hstores.push _ (PartialTour.start m) hvalid
  rw [hempty] at hpush
  refine ⟨hvalid, ?_, fun order _ _ => Or.inl ⟨PartialTour.start m, ?_, List.nil_prefix⟩⟩
  · rw [hpush]
    simpa using pending_start hsize
  · simp [hpush]

/-- In place of the partial tour that is taken up, its extensions are to be considered. -/
theorem Covering.pop (hstores : frontier.Stores Valid contents) {queue rest : frontier.Queue}
    {best : Incumbent ℚ} (h : Covering Valid contents m [] queue best)
    (hpop : frontier.pop? queue = some (t, rest)) :
    t.Pending m ∧
      Covering Valid contents m ((t.unvisited m).map fun next => t.path ++ [next]) rest best := by
  obtain ⟨hvalid, hcontents⟩ := hstores.pop queue t rest h.valid hpop
  have hpending := h.pending
  rw [hcontents] at hpending
  obtain ⟨ht, hrest⟩ := Multiset.forall_mem_cons.mp hpending
  refine ⟨ht, hvalid, hrest, fun order horder hless => ?_⟩
  rcases h.covers order horder hless with ⟨s, hs, hstart⟩ | ⟨path, hpath, _⟩
  · rw [hcontents] at hs
    rcases Multiset.mem_cons.mp hs with rfl | hs
    · obtain ⟨next, hnext, hlonger⟩ := exists_next ht horder hstart
      exact Or.inr ⟨s.path ++ [next], List.mem_map_of_mem hnext, hlonger⟩
    · exact Or.inl ⟨s, hs, hstart⟩
  · simp at hpath

/-- A path is dropped with all tours that start like it, when none of them beats the best one. -/
theorem Covering.drop {path : List Nat} {waiting : List (List Nat)} {queue : frontier.Queue}
    {best other : Incumbent ℚ} (h : Covering Valid contents m (path :: waiting) queue best)
    (hother : other.cost ≤ best.cost)
    (hlost : ∀ order, order.Perm m.others → path <+: order → other.cost ≤ m.tourCost order) :
    Covering Valid contents m waiting queue other := by
  refine ⟨h.valid, h.pending, fun order horder hless => ?_⟩
  rcases h.covers order horder (hless.trans_le hother) with hqueued | ⟨candidate, hmem, hstart⟩
  · exact Or.inl hqueued
  · rcases List.mem_cons.mp hmem with rfl | hmem
    · exact absurd hless (not_lt_of_ge (hlost order horder hstart))
    · exact Or.inr ⟨candidate, hmem, hstart⟩

theorem Covering.push (hstores : frontier.Stores Valid contents) (ht : t.Pending m)
    {waiting : List (List Nat)} {queue : frontier.Queue} {best : Incumbent ℚ}
    (h : Covering Valid contents m (t.path :: waiting) queue best) :
    Covering Valid contents m waiting (frontier.push queue t) best := by
  obtain ⟨hvalid, hpush⟩ := hstores.push queue t h.valid
  refine ⟨hvalid, ?_, fun order horder hless => ?_⟩
  · rw [hpush]
    exact Multiset.forall_mem_cons.mpr ⟨ht, h.pending⟩
  · rw [hpush]
    rcases h.covers order horder hless with ⟨s, hs, hstart⟩ | ⟨path, hmem, hstart⟩
    · exact Or.inl ⟨s, Multiset.mem_cons_of_mem hs, hstart⟩
    · rcases List.mem_cons.mp hmem with rfl | hmem
      · exact Or.inl ⟨t, Multiset.mem_cons_self t _, hstart⟩
      · exact Or.inr ⟨path, hmem, hstart⟩

/-- **Considering an extension loses no tour that beats the best one.** -/
theorem Covering.consider (hstores : frontier.Stores Valid contents) (ht : t.Pending m)
    {next : Nat} (hnext : next ∈ t.unvisited m) {waiting : List (List Nat)}
    {queue further : frontier.Queue} {best better : Incumbent ℚ}
    (h : Covering Valid contents m ((t.path ++ [next]) :: waiting) queue best)
    (hstep : consider frontier m m.incomingBounds t (queue, best) next = (further, better)) :
    Covering Valid contents m waiting further better := by
  obtain ⟨child, hchild⟩ : ∃ child, child = t.extend m m.incomingBounds next := ⟨_, rfl⟩
  have hpath : child.path = t.path ++ [next] := hchild ▸ rfl
  have hcurrent : child.current = next := hchild ▸ current_extend next
  have hsimple : child.Simple m := hchild ▸ simple_extend _ ht.simple hnext
  have hpriced : child.Priced m := hchild ▸ priced_extend _ ht.priced next
  have hbracketed : child.Bracketed m := hchild ▸ bracketed_extend ht.bracketed hnext
  have hshort := ht.short
  have hlength : child.path.length = t.path.length + 1 := by simp [hpath]
  rw [← hpath] at h
  rcases consider_cases hchild queue best with
    ⟨hfull, ⟨hless, heq⟩ | ⟨hless, heq⟩⟩ | ⟨hpart, ⟨hless, heq⟩ | ⟨hless, heq⟩⟩
  · obtain ⟨rfl, rfl⟩ := Prod.mk.inj (heq.symm.trans hstep)
    apply h.drop (CostScale.less_exact.mp hless).le
    intro order horder hstart
    rw [tourCost_of_full hpriced hfull horder hstart, hcurrent]
  · obtain ⟨rfl, rfl⟩ := Prod.mk.inj (heq.symm.trans hstep)
    apply h.drop le_rfl
    intro order horder hstart
    rw [tourCost_of_full hpriced hfull horder hstart, hcurrent]
    exact CostScale.less_exact_eq_false.mp hless
  · obtain ⟨rfl, rfl⟩ := Prod.mk.inj (heq.symm.trans hstep)
    exact h.push hstores ⟨hsimple, hpriced, hbracketed, by omega⟩
  · obtain ⟨rfl, rfl⟩ := Prod.mk.inj (heq.symm.trans hstep)
    apply h.drop le_rfl
    intro order horder hstart
    exact (CostScale.less_exact_eq_false.mp hless).trans
      (bestCase_le_tourCost hsimple hpriced hbracketed (by omega) horder hstart)

theorem Covering.foldl (hstores : frontier.Stores Valid contents) (ht : t.Pending m)
    {nodes : List Nat} (hnodes : ∀ node ∈ nodes, node ∈ t.unvisited m)
    {queue further : frontier.Queue} {best better : Incumbent ℚ}
    (h : Covering Valid contents m (nodes.map fun next => t.path ++ [next]) queue best)
    (hfold : nodes.foldl (CostMatrix.consider frontier m m.incomingBounds t) (queue, best) =
      (further, better)) :
    Covering Valid contents m [] further better := by
  induction nodes generalizing queue best with
  | nil =>
    obtain ⟨rfl, rfl⟩ := Prod.mk.inj hfold
    exact h
  | cons node rest ih =>
    obtain ⟨hnode, hrest⟩ := List.forall_mem_cons.mp hnodes
    exact ih hrest (h.consider hstores ht hnode rfl) hfold

theorem carries_covering (hstores : frontier.Stores Valid contents) (m : CostMatrix ℚ) :
    Carries frontier m m.incomingBounds (Covering Valid contents m []) := by
  intro queue best t rest h hpop _ further better hfold
  obtain ⟨ht, hwaiting⟩ := h.pop hstores hpop
  exact hwaiting.foldl hstores ht (fun _ hnode => hnode) hfold

/-- If what comes out of the frontier cannot beat the best tour, no tour can. -/
theorem Covering.cost_le {queue : frontier.Queue} {best : Incumbent ℚ}
    (h : Covering Valid contents m [] queue best) (hstores : frontier.Stores Valid contents)
    (hgreatest : ∀ queue t rest, Valid queue → frontier.pop? queue = some (t, rest) →
      ∀ s ∈ contents rest, (PartialTour.priority s t).isLE = true)
    (hends : ∀ t rest, frontier.pop? queue = some (t, rest) →
      CostScale.atMost best.cost t.bestCase = true)
    {order : List Nat} (horder : order.Perm m.others) : best.cost ≤ m.tourCost order := by
  by_contra hless
  rw [not_le] at hless
  rcases h.covers order horder hless with ⟨s, hs, hstart⟩ | ⟨path, hpath, _⟩
  · have hpending := h.pending s hs
    have hshort := hpending.short
    have hbound := bestCase_le_tourCost hpending.simple hpending.priced hpending.bracketed
      (by omega) horder hstart
    cases hpop : frontier.pop? queue with
    | none =>
      rw [hstores.drained queue h.valid hpop] at hs
      simp at hs
    | some popped =>
      obtain ⟨t, rest⟩ := popped
      have hbest : best.cost ≤ t.bestCase := CostScale.atMost_exact.mp (hends t rest hpop)
      have hfirst : t.bestCase ≤ s.bestCase := by
        rw [(hstores.pop queue t rest h.valid hpop).2] at hs
        rcases Multiset.mem_cons.mp hs with rfl | hs
        · exact le_rfl
        · exact PartialTour.bestCase_le_of_priority (hgreatest queue t rest h.valid hpop s hs)
      exact absurd (hbest.trans (hfirst.trans hbound)) (not_le_of_gt hless)
  · simp at hpath

/-! ### How long the search can go on -/

/-- At most how many partial tours are taken up from one that still has some nodes to go to, itself
included. -/
def extensionsFrom : Nat → Nat
  | 0 => 0
  | left + 1 => 1 + (left + 1) * extensionsFrom left

/-- At most how many partial tours are taken up from those in a frontier. -/
def workLeft (m : CostMatrix ℚ) (queued : Multiset (PartialTour ℚ)) : Nat :=
  (queued.map fun t => extensionsFrom (m.size - 1 - t.path.length)).sum

theorem workLeft_foldl_le (hstores : frontier.Stores Valid contents) (nodes : List Nat)
    {queue further : frontier.Queue} (hvalid : Valid queue) (best : Incumbent ℚ)
    {better : Incumbent ℚ}
    (hfold : nodes.foldl (CostMatrix.consider frontier m m.incomingBounds t) (queue, best) =
      (further, better)) :
    m.workLeft (contents further) ≤ m.workLeft (contents queue) +
      nodes.length * extensionsFrom (m.size - 1 - t.path.length - 1) := by
  induction nodes generalizing queue best with
  | nil =>
    obtain ⟨rfl, _⟩ := Prod.mk.inj hfold
    exact Nat.le_add_right _ _
  | cons node rest ih =>
    rw [List.foldl_cons] at hfold
    rw [List.length_cons, Nat.add_one_mul]
    rcases consider_cases rfl queue best with
      ⟨_, ⟨_, heq⟩ | ⟨_, heq⟩⟩ | ⟨_, ⟨_, heq⟩ | ⟨_, heq⟩⟩
    · have hrest := ih hvalid _ (heq ▸ hfold)
      omega
    · have hrest := ih hvalid _ (heq ▸ hfold)
      omega
    · obtain ⟨hpushed, hpush⟩ := hstores.push queue (t.extend m m.incomingBounds node) hvalid
      have hrest := ih hpushed best (heq ▸ hfold)
      have hleft : m.size - 1 - (t.path.length + 1) = m.size - 1 - t.path.length - 1 := by omega
      rw [hpush] at hrest
      simp only [workLeft, Multiset.map_cons, Multiset.sum_cons, PartialTour.extend,
        List.length_append, List.length_singleton, hleft] at hrest
      unfold workLeft
      omega
    · have hrest := ih hvalid _ (heq ▸ hfold)
      omega

/-- Taking up a partial tour leaves less to do. -/
theorem workLeft_lt (hstores : frontier.Stores Valid contents) {queue rest further : frontier.Queue}
    {best better : Incumbent ℚ} (h : Covering Valid contents m [] queue best)
    (hpop : frontier.pop? queue = some (t, rest))
    (hfold : (t.unvisited m).foldl (CostMatrix.consider frontier m m.incomingBounds t)
      (rest, best) = (further, better)) :
    m.workLeft (contents further) < m.workLeft (contents queue) := by
  obtain ⟨ht, hwaiting⟩ := h.pop hstores hpop
  have hextensions := workLeft_foldl_le hstores (t.unvisited m) hwaiting.valid best hfold
  have hlength := (path_append_unvisited_perm ht.simple).length_eq
  rw [List.length_append, length_others] at hlength
  have hshort := ht.short
  obtain ⟨left, hleft⟩ : ∃ left, m.size - 1 - t.path.length = left + 1 :=
    Nat.exists_eq_add_one.mpr (by omega)
  have hnodes : (t.unvisited m).length = left + 1 := by omega
  rw [(hstores.pop queue t rest h.valid hpop).2]
  rw [hleft, hnodes, Nat.add_sub_cancel] at hextensions
  simp only [workLeft, Multiset.map_cons, Multiset.sum_cons, hleft, extensionsFrom] at hextensions ⊢
  omega

/-! ### The search as a whole -/

/-- Where there is at most one node to visit, there is only one tour. -/
theorem order_unique (hsize : m.size ≤ 2) {order other : List Nat} (horder : order.Perm m.others)
    (hother : other.Perm m.others) : order = other := by
  have hlength : other.length ≤ 1 := by
    rw [hother.length_eq, length_others]
    omega
  have hperm := horder.trans hother.symm
  cases other with
  | nil => exact hperm.eq_nil
  | cons node rest =>
    obtain rfl : rest = [] := List.eq_nil_of_length_eq_zero (by simpa using hlength)
    exact List.perm_singleton.mp hperm

/-- What a search that was not ended by its budget found costs no more than any tour. -/
theorem cost_solveWith_le_tourCost (hgreatest : frontier.PopsGreatest PartialTour.priority)
    {budget : Nat} (hfinished : (m.solveWith frontier budget).budgetExhausted = false)
    {order : List Nat} (horder : order.Perm m.others) :
    (m.solveWith frontier budget).cost ≤ m.tourCost order := by
  obtain ⟨Valid, contents, hstores, hgreatest⟩ := hgreatest
  rcases Nat.lt_or_ge 2 m.size with hsize | hsize
  · obtain ⟨_, reached, hcovering, hends⟩ :=
      solveWith_run (carries_covering hstores m) (covering_start hstores hsize) hsize budget
    exact hcovering.cost_le hstores hgreatest (hends hfinished) horder
  · rw [solveWith_of_le hsize, order_unique hsize horder (greedyTour_perm m)]

theorem exists_budget_of_stores (hstores : frontier.Stores Valid contents) (m : CostMatrix ℚ) :
    ∃ enough, ∀ budget, enough ≤ budget →
      (m.solveWith frontier budget).budgetExhausted = false := by
  rcases Nat.lt_or_ge 2 m.size with hsize | hsize
  · refine ⟨m.workLeft (contents (frontier.push frontier.empty (PartialTour.start m))),
      fun budget henough => ?_⟩
    have hnot : ¬ m.size ≤ 2 := by omega
    simp only [solveWith, hnot, if_false]
    refine improve_finishes (fun queue => m.workLeft (contents queue)) (carries_covering hstores m)
      ?_ (covering_start hstores hsize) henough
    intro queue best t rest h hpop further better hfold
    exact workLeft_lt hstores h hpop hfold
  · exact ⟨0, fun budget _ => by rw [solveWith_of_le hsize]⟩

/-- The search with a heap is optimal unless it says that the budget ran out. -/
theorem cost_solve_le_tourCost {budget : Nat}
    (hfinished : (m.solve budget).budgetExhausted = false) {order : List Nat}
    (horder : order.Perm m.others) : (m.solve budget).cost ≤ m.tourCost order :=
  cost_solveWith_le_tourCost (Heap.popsGreatest _) hfinished horder

/-- **The search is optimal unless its budget ends it, and large budgets do not.**  From any frontier
that gives out a greatest element, over exact costs of any sign, a search that does not report that
the budget ran out found a tour that costs no more than any other one; and for every matrix there is
a budget from which on it never runs out. -/
theorem solveWith_optimal {frontier : Frontier (PartialTour ℚ)}
    (hgreatest : frontier.PopsGreatest PartialTour.priority) (m : CostMatrix ℚ) :
    (∀ budget, (m.solveWith frontier budget).budgetExhausted = false →
      ∀ order, order.Perm (List.range' 1 (m.size - 1)) →
        (m.solveWith frontier budget).cost ≤ m.tourCost order) ∧
      ∃ enough, ∀ budget, enough ≤ budget →
        (m.solveWith frontier budget).budgetExhausted = false := by
  constructor
  · intro budget hfinished order horder
    exact cost_solveWith_le_tourCost hgreatest hfinished horder
  · obtain ⟨Valid, contents, hstores, _⟩ := hgreatest
    exact exists_budget_of_stores hstores m

namespace Detour

/-- The greedy tour costs 21, but a search that finishes finds the detour, which costs 4. -/
theorem solveWith_optimal_of_detour :
    (Heap.frontier (PartialTour.priority (C := ℚ))).PopsGreatest PartialTour.priority ∧
      ∃ enough, ∀ budget, enough ≤ budget → ((costs ℚ).solve budget).cost ≤ 4 := by
  have hheap := Heap.popsGreatest (PartialTour.priority (C := ℚ))
  obtain ⟨hoptimal, enough, hfinishes⟩ := solveWith_optimal hheap (costs ℚ)
  have hprice : (costs ℚ).tourCost [2, 3, 1] = 4 := by decide +kernel
  refine ⟨hheap, enough, fun budget henough => ?_⟩
  rw [← hprice]
  exact hoptimal budget (hfinishes budget henough) [2, 3, 1] (by decide)

end Detour

end CostMatrix

end SceneCompiler
