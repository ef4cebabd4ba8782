import SceneCompiler.Batch.Basic
import SceneCompiler.Material.Transition
import SceneCompiler.Tour.Search

/-!
# The order of batches

Drawing a batch after another one costs the change of registers and the moves of the matrix stack
between them. The batches of a unit are ordered by a search for a cheap tour that starts and ends
with the pipeline at rest. If a batch is drawn with the pipeline at rest it is the start of the
tour; otherwise a batch that draws nothing stands in for it and is left out in the end.
-/

namespace SceneCompiler

variable {C : Type} [CostScale C]

namespace Scene

/-- The cost of going from one material to another, if both exist. -/
def materialCost (scene : Scene) (timing : Timing C) (source target : Option MaterialKey) : C :=
  match source.bind scene.library.get?, target.bind scene.library.get? with
  | some source, some target => timing.transitionCost source.state target.state
  | _, _ => 0

/-- The cost of drawing one batch after another. -/
def batchCost (scene : Scene) (timing : Timing C) (source target : Batch) : C :=
  let (pops, pushes) := scene.skeleton.traversalCounts source.bones.2 target.bones.1
  scene.materialCost timing source.material target.material + timing.matrixCost pops pushes

def costMatrix (scene : Scene) (timing : Timing C) (nodes : List Batch) : CostMatrix C :=
  let nodes := nodes.toArray
  CostMatrix.ofFn nodes.size fun source target =>
    match nodes[source]?, nodes[target]? with
    | some source, some target => scene.batchCost timing source target
    | _, _ => 0

end Scene

/-- The list with its first element and the one at a place exchanged. -/
def swapWithFirst {α : Type} (place : Nat) (xs : List α) : List α :=
  match xs[0]?, xs[place]? with
  | some first, some other => (xs.set 0 other).set place first
  | _, _ => xs

/-- The nodes of the tour, the start first, and whether the start is one of the batches. -/
def tourNodes (default : Option MaterialKey) (batches : List Batch) : List Batch × Bool :=
  match batches.findIdx? (·.isRest default) with
  | some place => (swapWithFirst place batches, true)
  | none => (Batch.rest default :: batches, false)

/-- The batches in an order that is cheap to draw. -/
def Scene.orderBatches (scene : Scene) (default : Option MaterialKey) (timing : Timing C)
    (budget : Nat) (batches : List Batch) : List Batch :=
  if batches.length ≤ 1 then batches
  else
    let (nodes, anchored) := tourNodes default batches
    let solution := (scene.costMatrix timing nodes).solve budget
    (if anchored then nodes.take 1 else []) ++ solution.order.filterMap fun node => nodes[node]?

end SceneCompiler
