import SceneCompiler.Proofs.Tour.Prices

/-!
# Searching with more budget

The budget is looked at only when there is a partial tour that may still beat the best one. So a
search that ends for another reason ends in the same way with every larger budget
(`CostMatrix.improve_of_finished`), whatever the frontier does among equals. A search that ends for
its budget leaves a frontier and a best tour from which the search with a larger budget goes on
(`CostMatrix.improve_resumes`), and from there the best tour is only exchanged for cheaper ones. So a
larger budget never gives a worse tour (`CostMatrix.solve?_mono`).
-/

namespace SceneCompiler

namespace CostMatrix

variable {C : Type} [CostScale C] {frontier : Frontier (PartialTour C)} {m : CostMatrix C}
  {bounds : Array (C × C)}

/-! ### Two runs of one search -/

theorem improve_step {queue rest further : frontier.Queue} {best better : Incumbent C}
    {t : PartialTour C} (htop : frontier.pop? queue = some (t, rest))
    (hmay : ¬ CostScale.atMost best.cost t.bestCase = true)
    (hfold : (t.unvisited m).foldl (consider frontier m bounds t) (rest, best) = (further, better))
    (left made : Nat) :
    m.improve frontier bounds (left + 1) made queue best =
      m.improve frontier bounds left (made + 1) further better := by
  rw [improve, htop]
  simp only [hmay, Bool.false_eq_true, if_false, hfold]

/-- A search that does not end for its budget ends in the same way with any larger one. -/
theorem improve_of_finished {left made : Nat} {queue : frontier.Queue} {best ending : Incumbent C}
    {steps : Nat} (h : m.improve frontier bounds left made queue best = (ending, steps, false))
    (more : Nat) :
    m.improve frontier bounds (left + more) made queue best = (ending, steps, false) := by
  fun_induction improve frontier m bounds left made queue best with
  | case1 left made queue best hempty =>
    unfold improve
    rw [hempty]
    exact h
  | case2 left made queue best t rest htop hbound =>
    unfold improve
    rw [htop]
    simpa only [hbound, if_true] using h
  | case3 made queue best t rest htop hmay => simp at h
  | case4 made queue best t rest htop hmay left further better hfold ih =>
    rw [Nat.succ_add, improve_step htop hmay hfold]
    exact ih h

/-- **A search that ends for its budget has used it up**, and one with a larger budget goes on from
where it ended. -/
theorem improve_resumes {left made : Nat} {queue : frontier.Queue} {best ending : Incumbent C}
    {steps : Nat} (h : m.improve frontier bounds left made queue best = (ending, steps, true)) :
    steps = made + left ∧ ∃ reached, ∀ more,
      m.improve frontier bounds (left + more) made queue best =
        m.improve frontier bounds more steps reached ending := by
  fun_induction improve frontier m bounds left made queue best with
  | case1 | case2 => simp at h
  | case3 made queue best t rest htop hmay =>
    obtain ⟨rfl, rfl⟩ : best = ending ∧ made = steps := by simpa using h
    exact ⟨rfl, queue, fun more => by rw [Nat.zero_add]⟩
  | case4 made queue best t rest htop hmay left further better hfold ih =>
    obtain ⟨hsteps, reached, hresumes⟩ := ih h
    refine ⟨by omega, reached, fun more => ?_⟩
    rw [Nat.succ_add, improve_step htop hmay hfold, hresumes]

theorem made_le_improve (left made : Nat) (queue : frontier.Queue) (best : Incumbent C) :
    made ≤ (m.improve frontier bounds left made queue best).2.1 := by
  fun_induction improve frontier m bounds left made queue best with
  | case1 | case2 | case3 => exact Nat.le_refl _
  | case4 made queue best t rest htop hmay left further better hfold ih => omega

/-- The best tour is only exchanged for cheaper ones. -/
theorem cost_improve_le {frontier : Frontier (PartialTour ℚ)} (m : CostMatrix ℚ) (left made : Nat)
    (queue : frontier.Queue) (best : Incumbent ℚ) :
    (m.improve frontier m.incomingBounds left made queue best).1.cost ≤ best.cost := by
  have hcarries : Carries frontier m m.incomingBounds fun _ other => other.cost ≤ best.cost := by
    intro queue other t rest hother _ _ further better hfold
    exact (foldl_consider_keeps (R := fun _ => True) (extends_atMost m best.cost)
      (fun _ _ _ _ => trivial) trivial (fun _ hnode => hnode) trivial hother hfold).2
  generalize hrun : m.improve frontier m.incomingBounds left made queue best = outcome
  obtain ⟨ending, steps, exhausted⟩ := outcome
  obtain ⟨_, _, hcost, _⟩ := improve_run hcarries left made le_rfl hrun
  exact hcost

/-! ### Two budgets -/

/-- How the search goes on from the greedy tour: the best tour, the steps, and whether the budget
ended it. -/
def run (m : CostMatrix C) (frontier : Frontier (PartialTour C)) (budget : Nat) :
    Incumbent C × Nat × Bool :=
  m.improve frontier m.incomingBounds budget 0
    (frontier.push frontier.empty (PartialTour.start m)) m.greedy

theorem solveWith_of_lt (frontier : Frontier (PartialTour C)) (hsize : 2 < m.size) (budget : Nat) :
    m.solveWith frontier budget =
      { order := (m.run frontier budget).1.order, cost := (m.run frontier budget).1.cost
        greedyCost := m.tourCost m.greedyTour, iterations := (m.run frontier budget).2.1
        budgetExhausted := (m.run frontier budget).2.2 } := by
  simp only [solveWith, Nat.not_le.mpr hsize, if_false]
  rfl

variable {budget larger : Nat}

/-- A search that did not run out of its budget finds with a larger one what it found. -/
theorem solveWith_of_finished (hle : budget ≤ larger)
    (hfinished : (m.solveWith frontier budget).budgetExhausted = false) :
    m.solveWith frontier larger = m.solveWith frontier budget := by
  rcases Nat.lt_or_ge 2 m.size with hsize | hsize
  · obtain ⟨more, rfl⟩ := Nat.exists_eq_add_of_le hle
    rw [solveWith_of_lt _ hsize] at hfinished
    have hrun : m.run frontier budget =
        ((m.run frontier budget).1, (m.run frontier budget).2.1, false) := by
      rw [← hfinished]
    have hsame : m.run frontier (budget + more) = m.run frontier budget :=
      (improve_of_finished hrun more).trans hrun.symm
    rw [solveWith_of_lt _ hsize, solveWith_of_lt _ hsize, hsame]
  · rw [solveWith_of_le hsize, solveWith_of_le hsize]

/-- A search that ran out of its budget is gone on with from where it ended if the budget is
larger. -/
theorem solveWith_of_exhausted (hle : budget ≤ larger)
    (hexhausted : (m.solveWith frontier budget).budgetExhausted = true) :
    (m.solveWith frontier budget).iterations = budget ∧ ∃ reached more,
      ((m.solveWith frontier larger).best, (m.solveWith frontier larger).iterations,
          (m.solveWith frontier larger).budgetExhausted) =
        m.improve frontier m.incomingBounds more budget reached (m.solveWith frontier budget).best := by
  rcases Nat.lt_or_ge 2 m.size with hsize | hsize
  · obtain ⟨more, rfl⟩ := Nat.exists_eq_add_of_le hle
    rw [solveWith_of_lt _ hsize] at hexhausted
    have hrun : m.run frontier budget =
        ((m.run frontier budget).1, (m.run frontier budget).2.1, true) := by
      rw [← hexhausted]
    obtain ⟨hsteps, reached, hresumes⟩ := improve_resumes hrun
    rw [Nat.zero_add] at hsteps
    refine ⟨by rw [solveWith_of_lt _ hsize, hsteps], reached, more, ?_⟩
    rw [solveWith_of_lt _ hsize, solveWith_of_lt _ hsize]
    exact (hresumes more).trans (by rw [hsteps]; rfl)
  · rw [solveWith_of_le hsize] at hexhausted
    simp at hexhausted

theorem iterations_solveWith_mono (frontier : Frontier (PartialTour C)) (m : CostMatrix C)
    (hle : budget ≤ larger) :
    (m.solveWith frontier budget).iterations ≤ (m.solveWith frontier larger).iterations := by
  cases hending : (m.solveWith frontier budget).budgetExhausted with
  | false => rw [solveWith_of_finished hle hending]
  | true =>
    obtain ⟨hsteps, reached, more, hrun⟩ := solveWith_of_exhausted hle hending
    have hmade : budget ≤ (m.improve frontier m.incomingBounds more budget reached
        (m.solveWith frontier budget).best).2.1 := made_le_improve more budget reached _
    rw [← hrun] at hmade
    exact hsteps.le.trans hmade

theorem cost_solveWith_mono (frontier : Frontier (PartialTour ℚ)) (m : CostMatrix ℚ)
    (hle : budget ≤ larger) :
    (m.solveWith frontier larger).cost ≤ (m.solveWith frontier budget).cost := by
  cases hending : (m.solveWith frontier budget).budgetExhausted with
  | false => rw [solveWith_of_finished hle hending]
  | true =>
    obtain ⟨_, reached, more, hrun⟩ := solveWith_of_exhausted hle hending
    have hcost := cost_improve_le m more budget reached (m.solveWith frontier budget).best
    rw [← hrun] at hcost
    exact hcost

/-- **A larger budget never gives a worse tour.**  Over exact numbers the tour costs no more, and no
fewer steps are made. A search that ran out of its budget made as many steps as it may; one that did
not finds the very same with every larger budget, whatever kind of number costs are. -/
theorem solve?_mono :
    (∀ {C : Type} [CostScale C] (m : CostMatrix C) (budget larger : Nat), 0 < m.size →
      budget ≤ larger → ∃ solution, m.solve? budget = some solution ∧
        (solution.budgetExhausted = false → m.solve? larger = some solution) ∧
        (solution.budgetExhausted = true → solution.iterations = budget)) ∧
      ∀ (m : CostMatrix ℚ) (budget larger : Nat), 0 < m.size → budget ≤ larger →
        ∃ solution better, m.solve? budget = some solution ∧ m.solve? larger = some better ∧
          better.cost ≤ solution.cost ∧ solution.iterations ≤ better.iterations := by
  constructor
  · intro C _ m budget larger hsize hle
    refine ⟨m.solve budget, solve?_eq_some hsize budget, fun hfinished => ?_, fun hexhausted => ?_⟩
    · rw [solve?_eq_some hsize, solve, solveWith_of_finished hle hfinished]
      rfl
    · exact (solveWith_of_exhausted hle hexhausted).1
  · intro m budget larger hsize hle
    exact ⟨m.solve budget, m.solve larger, solve?_eq_some hsize budget, solve?_eq_some hsize larger,
      cost_solveWith_mono _ m hle, iterations_solveWith_mono _ m hle⟩

namespace Detour

/-- One step leaves the greedy tour, which costs 21. Ten steps are enough to find the detour, which
costs 4, and a hundred find the same. -/
theorem solve?_mono_of_detour :
    ∃ short long, (costs ℚ).solve? 1 = some short ∧ (costs ℚ).solve? 10 = some long ∧
      (costs ℚ).solve? 100 = some long ∧ short.iterations = 1 ∧ short.cost = 21 ∧ long.cost = 4 ∧
      long.cost ≤ short.cost ∧ short.iterations ≤ long.iterations := by
  have hsize : 0 < (costs ℚ).size := by decide
  obtain ⟨short, hshort, _, hsteps⟩ := solve?_mono.1 (costs ℚ) 1 10 hsize (by decide)
  obtain ⟨long, hlong, hstable, _⟩ := solve?_mono.1 (costs ℚ) 10 100 hsize (by decide)
  obtain ⟨other, better, hother, hbetter, hcost, hmade⟩ :=
    solve?_mono.2 (costs ℚ) 1 10 hsize (by decide)
  obtain rfl := Option.some.inj (hshort.symm.trans hother)
  obtain rfl := Option.some.inj (hlong.symm.trans hbetter)
  obtain rfl := Option.some.inj ((solve?_eq_some hsize 1).symm.trans hshort)
  obtain rfl := Option.some.inj ((solve?_eq_some hsize 10).symm.trans hlong)
  exact ⟨_, _, hshort, hlong, hstable (by decide +kernel), hsteps (by decide +kernel),
    by decide +kernel, by decide +kernel, hcost, hmade⟩

end Detour

end CostMatrix

end SceneCompiler
