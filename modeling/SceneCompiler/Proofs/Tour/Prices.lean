import SceneCompiler.Proofs.Number.Exact
import SceneCompiler.Proofs.Tour.Visits

/-!
# What tours cost

The search adds up the length of a tour edge by edge while it extends partial tours. These are the
additions, in the same order, that the cost of the whole tour is made of, whatever kind of number
costs are (`PartialTour.Priced`). So the cost that a search reports is the cost of the tour that it
reports, to the last bit; and since a tour is only exchanged for a cheaper one, over exact numbers
it costs no more than the greedy tour (`CostMatrix.solve?_anytime`).
-/

namespace SceneCompiler

namespace CostMatrix

variable {C : Type} [CostScale C] {m : CostMatrix C} {bounds : Array (C × C)} {t : PartialTour C}

@[simp] theorem current_extend (next : Nat) : (t.extend m bounds next).current = next := by
  simp [PartialTour.current, PartialTour.extend]

end CostMatrix

/-- A partial tour whose length stands for the way so far, however the tour goes on. -/
def PartialTour.Priced {C : Type} [CostScale C] (m : CostMatrix C) (t : PartialTour C) : Prop :=
  ∀ rest, m.tourCost (t.path ++ rest) = m.returnCost t.length t.current rest

namespace CostMatrix

variable {C : Type} [CostScale C] {m : CostMatrix C} {bounds : Array (C × C)} {t : PartialTour C}

theorem priced_start (m : CostMatrix C) : (PartialTour.start m).Priced m := fun _ => rfl

theorem priced_extend (bounds : Array (C × C)) (h : t.Priced m) (next : Nat) :
    (t.extend m bounds next).Priced m := by
  intro rest
  calc m.tourCost ((t.extend m bounds next).path ++ rest)
      = m.tourCost (t.path ++ next :: rest) := by simp [PartialTour.extend]
    _ = m.returnCost t.length t.current (next :: rest) := h (next :: rest)
    _ = m.returnCost (t.extend m bounds next).length (t.extend m bounds next).current rest := by
      rw [current_extend]
      rfl

/-- A priced tour costs its length and the way back. -/
theorem tourCost_of_priced (h : t.Priced m) :
    m.tourCost t.path = t.length + m.get t.current 0 := by
  have hwhole := h []
  rw [List.append_nil] at hwhole
  exact hwhole

theorem extends_priced (m : CostMatrix C) :
    Extends m m.incomingBounds (PartialTour.Priced m) fun best =>
      best.cost = m.tourCost best.order where
  extend _ ht next _ := priced_extend m.incomingBounds ht next
  beat t ht next _ _ _ child hchild _ _ := by
    have hpriced : child.Priced m := hchild ▸ priced_extend m.incomingBounds ht next
    have hcurrent : child.current = next := hchild ▸ current_extend next
    rw [tourCost_of_priced hpriced, hcurrent]

/-- **The reported cost is the cost of the tour**, formed by the same additions. -/
theorem cost_solveWith {frontier : Frontier (PartialTour C)}
    (hkeeps : frontier.Keeps (PartialTour.Priced m)) (budget : Nat) :
    (m.solveWith frontier budget).cost = m.tourCost (m.solveWith frontier budget).order :=
  solveWith_induction hkeeps (extends_priced m) (priced_start m) rfl budget

/-- A tour is exchanged for a cheaper one only. -/
theorem extends_atMost (m : CostMatrix ℚ) (most : ℚ) :
    Extends m m.incomingBounds (fun _ => True) (·.cost ≤ most) where
  extend _ _ _ _ := trivial
  beat _ _ _ _ _ hbest _ _ _ hless := (CostScale.less_exact.mp hless).le.trans hbest

theorem cost_solveWith_le_greedyCost {frontier : Frontier (PartialTour ℚ)}
    (hkeeps : frontier.Keeps fun _ => True) (m : CostMatrix ℚ) (budget : Nat) :
    (m.solveWith frontier budget).cost ≤ (m.solveWith frontier budget).greedyCost := by
  rw [greedyCost_solveWith]
  exact solveWith_induction hkeeps (extends_atMost m (m.tourCost m.greedyTour)) trivial le_rfl budget

theorem solve?_eq_some {m : CostMatrix C} (hsize : 0 < m.size) (budget : Nat) :
    m.solve? budget = some (m.solve budget) := by
  rw [solve?, if_neg (Nat.ne_of_gt hsize)]

/-- **The order search is a sound anytime algorithm.**  Whatever the costs and wherever the budget
ends it, it finds an order that visits each node other than zero exactly once, with no more steps
than the budget allows, and reports what this order costs, in whatever way costs are added. Over
exact numbers the order costs no more than the greedy one. -/
theorem solve?_anytime :
    (∀ {C : Type} [CostScale C] (m : CostMatrix C) (budget : Nat), 0 < m.size →
      ∃ solution, m.solve? budget = some solution ∧
        solution.order.Perm (List.range' 1 (m.size - 1)) ∧
        solution.iterations ≤ budget ∧
        solution.cost = m.tourCost solution.order ∧
        solution.greedyCost = m.tourCost m.greedyTour) ∧
      ∀ (m : CostMatrix ℚ) (budget : Nat), 0 < m.size →
        ∃ solution, m.solve? budget = some solution ∧ solution.cost ≤ solution.greedyCost := by
  constructor
  · intro C _ m budget hsize
    exact ⟨m.solve budget, solve?_eq_some hsize budget, solve_order_perm m budget,
      iterations_solveWith_le _ m budget, cost_solveWith (Heap.keeps _ _) budget,
      greedyCost_solveWith _ m budget⟩
  · intro m budget hsize
    exact ⟨m.solve budget, solve?_eq_some hsize budget,
      cost_solveWith_le_greedyCost (Heap.keeps _ _) m budget⟩

/-! ### A detour

From node zero it is cheapest to go to node one, but all that is left then is dear. -/

namespace Detour

def edge : Nat → Nat → Nat
  | 0, 1 => 0
  | 0, 2 => 1
  | 2, 3 => 1
  | 3, 1 => 1
  | 1, 0 => 1
  | _, _ => 10

def costs (C : Type) [CostScale C] : CostMatrix C :=
  ofFn 4 fun source target => CostScale.ofNat (edge source target)

/-- In double precision as over exact numbers, after two steps. -/
theorem solve?_anytime_of_detour :
    (∃ solution, (costs Cost).solve? 2 = some solution ∧ solution.order.Perm [1, 2, 3] ∧
      solution.iterations ≤ 2 ∧ solution.cost = (costs Cost).tourCost solution.order) ∧
      ∃ solution, (costs ℚ).solve? 2 = some solution ∧ solution.cost ≤ 21 := by
  obtain ⟨found, hfound, horder, hsteps, hcost, _⟩ :=
    solve?_anytime.1 (costs Cost) 2 (by decide)
  obtain ⟨exact, hexact, _, _, _, hgreedy⟩ := solve?_anytime.1 (costs ℚ) 2 (by decide)
  obtain ⟨again, hagain, hle⟩ := solve?_anytime.2 (costs ℚ) 2 (by decide)
  obtain rfl := Option.some.inj (hexact.symm.trans hagain)
  have hgreedyTour : (costs ℚ).greedyTour = [1, 2, 3] := by decide +kernel
  have hprice : (costs ℚ).tourCost [1, 2, 3] = 21 := by decide +kernel
  refine ⟨⟨found, hfound, horder, hsteps, hcost⟩, exact, hexact, ?_⟩
  rw [hgreedy, hgreedyTour, hprice] at hle
  exact hle

end Detour

end CostMatrix

end SceneCompiler
