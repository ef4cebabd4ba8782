import SceneCompiler.Number.Cost

/-!
# Cost matrices and tours

The cost of going from each of some nodes to each other one. A tour starts at node zero, visits the
other nodes in some order and comes back. Costs are added up along the way, starting from zero.
-/

namespace SceneCompiler

/-- Costs between the nodes below `size`, row by row. -/
structure CostMatrix (C : Type) where
  size : Nat
  entries : Array C

namespace CostMatrix

variable {C : Type} [CostScale C]

/-- The cost of going from one node to another. -/
def get (m : CostMatrix C) (source target : Nat) : C := m.entries.getD (source * m.size + target) 0

/-- Whether the entries have a place for the cost of an edge. A target beyond the size has its place
in a later row. -/
def hasPlace (m : CostMatrix C) (source target : Nat) : Bool :=
  source * m.size + target < m.entries.size

/-- The matrix with one cost changed, if there is a place for it. -/
def set? (m : CostMatrix C) (source target : Nat) (cost : C) : Option (CostMatrix C) :=
  if m.hasPlace source target then
    some { m with entries := m.entries.setIfInBounds (source * m.size + target) cost }
  else none

/-- The matrix of given costs, with zeros from each node to itself. -/
def ofFn (size : Nat) (cost : Nat → Nat → C) : CostMatrix C where
  size
  entries := Array.ofFn fun place : Fin (size * size) =>
    let source := place.val / size
    let target := place.val % size
    if source = target then 0 else cost source target

def others (m : CostMatrix C) : List Nat := List.range' 1 (m.size - 1)

/-- The cost of a walk through some nodes and back to node zero, added to what it took to get to the
current node. -/
def returnCost (m : CostMatrix C) (soFar : C) (current : Nat) : List Nat → C
  | [] => soFar + m.get current 0
  | next :: rest => m.returnCost (soFar + m.get current next) next rest

def tourCost (m : CostMatrix C) (order : List Nat) : C := m.returnCost 0 0 order

/-- The cost of a tour, if all its edges have places. -/
def tourCost? (m : CostMatrix C) (order : List Nat) : Option C :=
  if ((0 :: order).zip (order ++ [0])).all fun edge => m.hasPlace edge.1 edge.2 then
    some (m.tourCost order)
  else none

/-- At most `count` steps of a walk that always goes to the cheapest node left. -/
def greedyWalk (m : CostMatrix C) : Nat → Nat → List Nat → List Nat
  | 0, _, _ => []
  | count + 1, current, left =>
    match CostScale.cheapest (m.get current) left with
    | none => []
    | some next => next :: m.greedyWalk count next (left.erase next)

/-- The tour that always goes to the cheapest node left, the smallest of several. -/
def greedyTour (m : CostMatrix C) : List Nat := m.greedyWalk (m.size - 1) 0 m.others

def incoming (m : CostMatrix C) (node : Nat) : List C :=
  ((List.range m.size).filter (· ≠ node)).map fun source => m.get source node

/-- The least and the largest of some costs, or zeros if there is no finite least one. -/
def spread : List C → C × C
  | [] => (0, 0)
  | first :: rest =>
    let low := rest.foldl CostScale.least first
    if CostScale.isFinite low then (low, rest.foldl CostScale.greatest first) else (0, 0)

/-- The cheapest and the dearest edge into each node. -/
def incomingBounds (m : CostMatrix C) : Array (C × C) :=
  Array.ofFn fun node : Fin m.size => spread (m.incoming node)

end CostMatrix

end SceneCompiler
