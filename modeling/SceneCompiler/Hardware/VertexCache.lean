import SceneCompiler.Report

/-!
# The vertex cache

The hardware transforms vertices when it loads them into the slots of its cache, and it draws from
the slots. One vertex loaded under two matrices is two entries. Slots are chosen for all vertices of
a run at once: a vertex that some slot holds stays in the lowest such slot, and the others take the
slots that are left, in ascending order.
-/

namespace SceneCompiler

/-- A vertex in the cache: where it was loaded from, and the bone whose matrix moved it. -/
structure VertexKey where
  buffer : BufferId
  index : Nat
  bone : Option BoneId
  deriving DecidableEq, Repr

/-- What is known of each slot. -/
structure VertexCache where
  slots : List (Option VertexKey)

namespace VertexCache

def empty (capacity : Nat) : VertexCache := ⟨List.replicate capacity none⟩

/-- A cache of which nothing is known, if its slots can be numbered in 32 bits. -/
def empty? (capacity : Nat) : Option VertexCache :=
  if capacity ≤ Nat.pow 2 32 then some (empty capacity) else none

def capacity (c : VertexCache) : Nat := c.slots.length

def get? (c : VertexCache) (slot : Nat) : Option VertexKey := (c.slots[slot]?).getD none

def isResident (c : VertexCache) (slot : Nat) (key : VertexKey) : Bool := c.get? slot = some key

def slotOf? (c : VertexCache) (key : VertexKey) : Option Nat := c.slots.findIdx? (· = some key)

/-- The slots that keep none of the given vertices, in ascending order. -/
def free (c : VertexCache) (keys : List VertexKey) : List Nat :=
  let kept := keys.filterMap c.slotOf?
  (List.range c.capacity).filter fun slot => !kept.contains slot

/-- Each kept slot in its place, and the free slots in order where none is kept. -/
def fill : List (Option Nat) → List Nat → List Nat
  | [], _ => []
  | some kept :: rest, free => kept :: fill rest free
  | none :: rest, slot :: free => slot :: fill rest free
  | none :: _, [] => []

/-- A slot for each of some different vertices, unless there are more of them than slots. -/
def assign (c : VertexCache) (keys : List VertexKey) : Except CompileError (List Nat) :=
  if c.capacity < keys.length then .error (.cacheOverflow keys.length c.capacity)
  else .ok (fill (keys.map c.slotOf?) (c.free keys))

/-- A slot for each of some vertices, which must be different ones unless they are too many. -/
def assign? (c : VertexCache) (keys : List VertexKey) : Option (Except CompileError (List Nat)) :=
  if c.capacity < keys.length || keys.Nodup then some (c.assign keys) else none

def store (c : VertexCache) (slot : Nat) (key : VertexKey) : VertexCache :=
  ⟨c.slots.set slot (some key)⟩

def storeAll (c : VertexCache) (loads : List (VertexKey × Nat)) : VertexCache :=
  loads.foldl (fun cache load => cache.store load.2 load.1) c

/-- The cache after the slots from `start` up to `stop` are lost. -/
def invalidate (c : VertexCache) (start stop : Nat) : VertexCache :=
  ⟨c.slots.mapIdx fun slot content => if start ≤ slot && slot < stop then none else content⟩

/-- The occupied slots with what they hold. -/
def occupied (c : VertexCache) : List (Nat × VertexKey) :=
  c.slots.zipIdx.filterMap fun entry => entry.1.map (entry.2, ·)

end VertexCache

end SceneCompiler
