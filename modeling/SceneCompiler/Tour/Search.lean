import SceneCompiler.Tour.Heap
import SceneCompiler.Tour.Matrix

/-!
# Searching for a cheap tour

Branch and bound from the greedy tour. A partial tour is bounded from below by its length and the
cheapest edge into every node it has not entered, the start included, and from above in the same way
with the dearest edges. The search always extends the partial tour with the lowest bound, keeps the
extensions that may still beat the best tour, and ends when none is left, or when it has extended as
many as it may.

The search is written over any frontier, so that what it finds can be told apart from how the
frontier breaks ties.
-/

namespace SceneCompiler

/-- The start of a tour with bounds on the tours that continue it. -/
structure PartialTour (C : Type) where
  path : List Nat
  /-- For each node, whether the tour has been there. Node zero is where it starts. -/
  visited : Array Bool
  length : C
  bestCase : C
  worstCase : C

/-- The best tour known. -/
structure Incumbent (C : Type) where
  order : List Nat
  cost : C

/-- What a search found. -/
structure TourSolution (C : Type) where
  /-- The nodes after node zero. -/
  order : List Nat
  cost : C
  /-- The cost of the tour that the search started from. -/
  greedyCost : C
  /-- The number of partial tours extended. -/
  iterations : Nat
  /-- Whether the search could have gone on. -/
  budgetExhausted : Bool

variable {C : Type} [CostScale C]

namespace PartialTour

/-- The order in which partial tours are taken up: the greater one is the one with the lower bound
from below, or else from above. -/
def priority (s t : PartialTour C) : Ordering :=
  (CostScale.compare t.bestCase s.bestCase).then (CostScale.compare t.worstCase s.worstCase)

def start (m : CostMatrix C) : PartialTour C where
  path := []
  visited := (Array.replicate m.size false).setIfInBounds 0 true
  length := 0
  bestCase := CostScale.sum (m.incomingBounds.toList.map (·.1))
  worstCase := CostScale.sum (m.incomingBounds.toList.map (·.2))

def current (t : PartialTour C) : Nat := t.path.getLast?.getD 0

/-- The nodes that the tour can go to next. -/
def unvisited (m : CostMatrix C) (t : PartialTour C) : List Nat :=
  m.others.filter fun node => t.visited[node]? = some false

/-- The tour one node further. In the bounds the edge takes the place of the cheapest or dearest one
into the node. -/
def extend (m : CostMatrix C) (bounds : Array (C × C)) (t : PartialTour C) (next : Nat) :
    PartialTour C :=
  let edge := m.get t.current next
  let (low, high) := bounds.getD next (0, 0)
  { path := t.path ++ [next]
    visited := t.visited.setIfInBounds next true
    length := t.length + edge
    bestCase := t.bestCase - low + edge
    worstCase := t.worstCase - high + edge }

end PartialTour

namespace CostMatrix

variable (frontier : Frontier (PartialTour C))

/-- Takes one extension of a partial tour into account: a full tour if it beats the best one, any
other if it may. -/
def consider (m : CostMatrix C) (bounds : Array (C × C)) (t : PartialTour C)
    (state : frontier.Queue × Incumbent C) (next : Nat) : frontier.Queue × Incumbent C :=
  let (queue, best) := state
  let child := t.extend m bounds next
  if child.path.length + 1 = m.size then
    let cost := child.length + m.get next 0
    if CostScale.less cost best.cost then (queue, { order := child.path, cost }) else state
  else if CostScale.less child.bestCase best.cost then (frontier.push queue child, best)
  else state

/-- Runs the search with the number of extensions left and the number made. It tells the best tour,
the number of extensions, and whether the budget ended it. -/
def improve (m : CostMatrix C) (bounds : Array (C × C)) :
    Nat → Nat → frontier.Queue → Incumbent C → Incumbent C × Nat × Bool
  | left, made, queue, best =>
    match frontier.pop? queue with
    | none => (best, made, false)
    | some (t, queue) =>
      if CostScale.atMost best.cost t.bestCase then (best, made, false)
      else
        match left with
        | 0 => (best, made, true)
        | left + 1 =>
          let (queue, best) :=
            (t.unvisited m).foldl (consider frontier m bounds t) (queue, best)
          improve m bounds left (made + 1) queue best
termination_by structural left => left

/-- The search over a frontier with a budget of extensions. -/
def solveWith (m : CostMatrix C) (budget : Nat) : TourSolution C :=
  let order := m.greedyTour
  let greedyCost := m.tourCost order
  if m.size ≤ 2 then
    { order, cost := greedyCost, greedyCost, iterations := 0, budgetExhausted := false }
  else
    let (best, iterations, budgetExhausted) :=
      m.improve frontier m.incomingBounds budget 0
        (frontier.push frontier.empty (PartialTour.start m)) { order, cost := greedyCost }
    { order := best.order, cost := best.cost, greedyCost, iterations, budgetExhausted }

/-- A cheap tour, found with a budget of extensions. -/
def solve (m : CostMatrix C) (budget : Nat) : TourSolution C :=
  m.solveWith (Heap.frontier PartialTour.priority) budget

/-- A cheap tour, unless there is not even a node to start from. -/
def solve? (m : CostMatrix C) (budget : Nat) : Option (TourSolution C) :=
  if m.size = 0 then none else some (m.solve budget)

end CostMatrix

end SceneCompiler
