import SceneCompiler.Tour.Search

/-!
# Runs of the search

The search takes up one partial tour after another, each with all its extensions. What is carried
over such a step holds of the frontier and the best tour where the search ends
(`CostMatrix.improve_run`), and if the search did not end for its budget, what comes out of this
frontier cannot beat the best tour. A search of which every step lowers some weight of the frontier
does not end for a budget of that weight (`CostMatrix.improve_finishes`).

Often it is enough to know what holds of each partial tour and of the best one
(`CostMatrix.solveWith_induction`). All that is asked of the frontier then is that it gives back what
was put into it.
-/

namespace SceneCompiler

/-- If everything that is put into the frontier has a property, then so has everything that comes
out of it. -/
def Frontier.Keeps {α : Type} (frontier : Frontier α) (P : α → Prop) : Prop :=
  ∃ All : frontier.Queue → Prop, All frontier.empty ∧
    (∀ queue a, All queue → P a → All (frontier.push queue a)) ∧
    ∀ queue a rest, All queue → frontier.pop? queue = some (a, rest) → P a ∧ All rest

variable {C : Type} [CostScale C]

/-- The tour that was found. -/
def TourSolution.best (solution : TourSolution C) : Incumbent C := ⟨solution.order, solution.cost⟩

namespace CostMatrix

variable (frontier : Frontier (PartialTour C)) (m : CostMatrix C) (bounds : Array (C × C))

/-- The tour from which the search starts. -/
def greedy : Incumbent C := ⟨m.greedyTour, m.tourCost m.greedyTour⟩

/-- What holds of the frontier and the best tour holds again after a partial tour that may beat the
best one is taken up. -/
def Carries (I : frontier.Queue → Incumbent C → Prop) : Prop :=
  ∀ queue best t rest, I queue best → frontier.pop? queue = some (t, rest) →
    ¬ CostScale.atMost best.cost t.bestCase = true →
    ∀ further better, (t.unvisited m).foldl (consider frontier m bounds t) (rest, best) =
      (further, better) → I further better

/-- A property of partial tours that their extensions have too, and one that every full tour has
that takes the place of the best one. -/
structure Extends (P : PartialTour C → Prop) (Q : Incumbent C → Prop) : Prop where
  extend : ∀ t, P t → ∀ next ∈ t.unvisited m, P (t.extend m bounds next)
  beat : ∀ t, P t → ∀ next ∈ t.unvisited m, ∀ best, Q best →
    ∀ child, child = t.extend m bounds next → child.path.length + 1 = m.size →
      CostScale.less (child.length + m.get next 0) best.cost = true →
      Q { order := child.path, cost := child.length + m.get next 0 }

variable {frontier m bounds} {I : frontier.Queue → Incumbent C → Prop}

/-- What becomes of one extension of a partial tour: a full tour takes the place of the best one if
it beats it, any other one comes into the frontier if it may, and else nothing changes. -/
theorem consider_cases {t child : PartialTour C} {next : Nat}
    (hchild : child = t.extend m bounds next) (queue : frontier.Queue) (best : Incumbent C) :
    (child.path.length + 1 = m.size ∧
      (CostScale.less (child.length + m.get next 0) best.cost = true ∧
          consider frontier m bounds t (queue, best) next =
            (queue, { order := child.path, cost := child.length + m.get next 0 }) ∨
        CostScale.less (child.length + m.get next 0) best.cost = false ∧
          consider frontier m bounds t (queue, best) next = (queue, best))) ∨
    (child.path.length + 1 ≠ m.size ∧
      (CostScale.less child.bestCase best.cost = true ∧
          consider frontier m bounds t (queue, best) next = (frontier.push queue child, best) ∨
        CostScale.less child.bestCase best.cost = false ∧
          consider frontier m bounds t (queue, best) next = (queue, best))) := by
  subst hchild
  unfold consider
  dsimp only
  by_cases hfull : (t.extend m bounds next).path.length + 1 = m.size
  · rw [if_pos hfull]
    cases CostScale.less ((t.extend m bounds next).length + m.get next 0) best.cost <;>
      simp [hfull]
  · rw [if_neg hfull]
    cases CostScale.less (t.extend m bounds next).bestCase best.cost <;> simp [hfull]

/-- **How the search ends.**  What every step carries over holds in the end; no more steps are made
than the budget allows; and if the budget did not end the search, nothing comes out of the frontier
that may beat the best tour. -/
theorem improve_run (hcarries : Carries frontier m bounds I) (left made : Nat)
    {queue : frontier.Queue} {best : Incumbent C} (h : I queue best) {ending : Incumbent C}
    {steps : Nat} {exhausted : Bool}
    (hrun : m.improve frontier bounds left made queue best = (ending, steps, exhausted)) :
    steps ≤ made + left ∧ ∃ reached, I reached ending ∧
      (exhausted = false → ∀ t rest, frontier.pop? reached = some (t, rest) →
        CostScale.atMost ending.cost t.bestCase = true) := by
  fun_induction improve frontier m bounds left made queue best with
  | case1 left made queue best hempty =>
    obtain ⟨rfl, rfl, rfl⟩ : best = ending ∧ made = steps ∧ false = exhausted := by
      simpa using hrun
    refine ⟨Nat.le_add_right made left, queue, h, fun _ t rest hpop => ?_⟩
    rw [hempty] at hpop
    contradiction
  | case2 left made queue best t rest htop hbound =>
    obtain ⟨rfl, rfl, rfl⟩ : best = ending ∧ made = steps ∧ false = exhausted := by
      simpa using hrun
    refine ⟨Nat.le_add_right made left, queue, h, fun _ other others hpop => ?_⟩
    obtain ⟨rfl, _⟩ := Prod.mk.inj (Option.some.inj (htop.symm.trans hpop))
    exact hbound
  | case3 made queue best t rest htop hmay =>
    obtain ⟨rfl, rfl, rfl⟩ : best = ending ∧ made = steps ∧ true = exhausted := by
      simpa using hrun
    exact ⟨Nat.le_refl made, queue, h, by simp⟩
  | case4 made queue best t rest htop hmay left further better hfold ih =>
    obtain ⟨hsteps, hending⟩ :=
      ih (hcarries queue best t rest h htop hmay further better hfold) hrun
    exact ⟨by omega, hending⟩

/-- A search of which every step lowers a weight of the frontier does not end for its budget, if the
budget is the weight at the start. -/
theorem improve_finishes (weight : frontier.Queue → Nat)
    (hcarries : Carries frontier m bounds I)
    (hlowers : ∀ queue best t rest, I queue best → frontier.pop? queue = some (t, rest) →
      ∀ further better, (t.unvisited m).foldl (consider frontier m bounds t) (rest, best) =
        (further, better) → weight further < weight queue)
    {left made : Nat} {queue : frontier.Queue} {best : Incumbent C} (h : I queue best)
    (hleft : weight queue ≤ left) :
    (m.improve frontier bounds left made queue best).2.2 = false := by
  fun_induction improve frontier m bounds left made queue best with
  | case1 | case2 => rfl
  | case3 made queue best t rest htop hmay =>
    have hlower := hlowers queue best t rest h htop _ _ rfl
    omega
  | case4 made queue best t rest htop hmay left further better hfold ih =>
    have hlower := hlowers queue best t rest h htop further better hfold
    exact ih (hcarries queue best t rest h htop hmay further better hfold) (by omega)

/-! ### The search as a whole -/

/-- Where there is at most one node to visit, nothing is searched. -/
theorem solveWith_of_le (h : m.size ≤ 2) (budget : Nat) :
    m.solveWith frontier budget =
      { order := m.greedyTour, cost := m.tourCost m.greedyTour,
        greedyCost := m.tourCost m.greedyTour, iterations := 0, budgetExhausted := false } := by
  simp [solveWith, h]

theorem greedyCost_solveWith (frontier : Frontier (PartialTour C)) (m : CostMatrix C)
    (budget : Nat) :
    (m.solveWith frontier budget).greedyCost = m.tourCost m.greedyTour := by
  unfold solveWith
  dsimp only
  split <;> rfl

/-- How the search ends, from the greedy tour and the empty start of a tour. -/
theorem solveWith_run (hcarries : Carries frontier m m.incomingBounds I)
    (hstart : I (frontier.push frontier.empty (PartialTour.start m)) m.greedy)
    (hsize : 2 < m.size) (budget : Nat) :
    (m.solveWith frontier budget).iterations ≤ budget ∧
      ∃ reached, I reached (m.solveWith frontier budget).best ∧
        ((m.solveWith frontier budget).budgetExhausted = false →
          ∀ t rest, frontier.pop? reached = some (t, rest) →
            CostScale.atMost (m.solveWith frontier budget).cost t.bestCase = true) := by
  have hnot : ¬ m.size ≤ 2 := by omega
  have hsearch := improve_run hcarries budget 0 hstart rfl
  rw [Nat.zero_add] at hsearch
  simp only [solveWith, hnot, if_false]
  exact hsearch

theorem iterations_solveWith_le (frontier : Frontier (PartialTour C)) (m : CostMatrix C)
    (budget : Nat) : (m.solveWith frontier budget).iterations ≤ budget := by
  rcases Nat.lt_or_ge 2 m.size with hsize | hsize
  · have hcarries : Carries frontier m m.incomingBounds fun _ _ => True := by
      intro _ _ _ _ _ _ _ _ _ _
      trivial
    exact (solveWith_run hcarries trivial hsize budget).1
  · rw [solveWith_of_le hsize]
    exact Nat.zero_le budget

theorem foldl_consider_keeps {P : PartialTour C → Prop} {Q : Incumbent C → Prop}
    (hextends : Extends m bounds P Q) {R : frontier.Queue → Prop}
    (hpush : ∀ queue a, R queue → P a → R (frontier.push queue a)) {t : PartialTour C}
    (ht : P t) {nodes : List Nat} (hnodes : ∀ node ∈ nodes, node ∈ t.unvisited m)
    {queue further : frontier.Queue} {best better : Incumbent C} (hqueue : R queue)
    (hbest : Q best)
    (hfold : nodes.foldl (consider frontier m bounds t) (queue, best) = (further, better)) :
    R further ∧ Q better := by
  induction nodes generalizing queue best with
  | nil =>
    obtain ⟨rfl, rfl⟩ := Prod.mk.inj hfold
    exact ⟨hqueue, hbest⟩
  | cons node rest ih =>
    obtain ⟨hnode, hrest⟩ := List.forall_mem_cons.mp hnodes
    rw [List.foldl_cons] at hfold
    rcases consider_cases rfl queue best with
      ⟨hfull, ⟨hless, heq⟩ | ⟨_, heq⟩⟩ | ⟨_, ⟨_, heq⟩ | ⟨_, heq⟩⟩
    · rw [heq] at hfold
      exact ih hrest hqueue (hextends.beat t ht node hnode best hbest _ rfl hfull hless) hfold
    · rw [heq] at hfold
      exact ih hrest hqueue hbest hfold
    · rw [heq] at hfold
      exact ih hrest (hpush queue _ hqueue (hextends.extend t ht node hnode)) hbest hfold
    · rw [heq] at hfold
      exact ih hrest hqueue hbest hfold

/-- **What holds of the tour that is found.**  What every extension of a partial tour has if the tour
has it, and what then every tour has that beats the best one, holds of the tour that is found if it
holds of the greedy one. -/
theorem solveWith_induction {P : PartialTour C → Prop} {Q : Incumbent C → Prop}
    (hkeeps : frontier.Keeps P) (hextends : Extends m m.incomingBounds P Q)
    (hstart : P (PartialTour.start m))
    (hgreedy : Q m.greedy) (budget : Nat) : Q (m.solveWith frontier budget).best := by
  obtain ⟨All, hempty, hpush, hpop⟩ := hkeeps
  rcases Nat.lt_or_ge 2 m.size with hsize | hsize
  · have hcarries : Carries frontier m m.incomingBounds fun queue best => All queue ∧ Q best := by
      rintro queue best t rest ⟨hqueue, hbest⟩ htop _ further better hfold
      obtain ⟨ht, hrest⟩ := hpop queue t rest hqueue htop
      exact foldl_consider_keeps hextends hpush ht (fun _ hn => hn) hrest hbest hfold
    obtain ⟨_, _, ⟨_, hfound⟩, _⟩ :=
      solveWith_run hcarries ⟨hpush _ _ hempty hstart, hgreedy⟩ hsize budget
    exact hfound
  · rw [solveWith_of_le hsize]
    exact hgreedy

end CostMatrix

end SceneCompiler
