/-!
# Heaps

A binary heap in an array: the children of place `i` are at `2 i + 1` and `2 i + 2`, and no element
exceeds its parent. Among equally great elements the shape of the heap decides which one comes out
first, so the moves are fixed: a new element climbs while it exceeds its parent; to take out the
root, the hole sinks to the bottom along the greater children, the right one of two equal ones, and
the last element climbs from there.

`Frontier` is what a search needs of a queue; the heap is one.
-/

namespace SceneCompiler

/-- A queue from which one of the greatest elements is taken. -/
structure Frontier (α : Type) where
  Queue : Type
  empty : Queue
  push : Queue → α → Queue
  pop? : Queue → Option (α × Queue)

namespace Heap

variable {α : Type}

/-- Puts an element into a hole or, while it exceeds the parent, moves the hole up. -/
def climb (order : α → α → Ordering) (heap : Array α) (element : α) (hole : Nat) : Array α :=
  if _h : hole = 0 then heap.setIfInBounds hole element
  else
    let parent := (hole - 1) / 2
    match heap[parent]? with
    | some above =>
      if order element above = .gt then climb order (heap.setIfInBounds hole above) element parent
      else heap.setIfInBounds hole element
    | none => heap
termination_by hole
decreasing_by omega

/-- Moves a hole to the bottom, always to the greater child. -/
def sink (order : α → α → Ordering) (heap : Array α) (hole : Nat) : Array α × Nat :=
  if hright : 2 * hole + 2 < heap.size then
    let left := heap[2 * hole + 1]
    let right := heap[2 * hole + 2]
    if order left right = .gt then sink order (heap.setIfInBounds hole left) (2 * hole + 1)
    else sink order (heap.setIfInBounds hole right) (2 * hole + 2)
  else if hleft : 2 * hole + 1 < heap.size then
    (heap.setIfInBounds hole heap[2 * hole + 1], 2 * hole + 1)
  else (heap, hole)
termination_by heap.size - hole
decreasing_by all_goals simp only [Array.size_setIfInBounds]; omega

def push (order : α → α → Ordering) (heap : Array α) (element : α) : Array α :=
  climb order (heap.push element) element heap.size

/-- The root of a heap and the heap without it. -/
def pop? (order : α → α → Ordering) (heap : Array α) : Option (α × Array α) :=
  match heap.back? with
  | none => none
  | some last =>
    match heap.pop[0]? with
    | none => some (last, heap.pop)
    | some root =>
      let (sunk, hole) := sink order heap.pop 0
      some (root, climb order sunk last hole)

def frontier (order : α → α → Ordering) : Frontier α where
  Queue := Array α
  empty := #[]
  push := push order
  pop? := pop? order

end Heap

end SceneCompiler
