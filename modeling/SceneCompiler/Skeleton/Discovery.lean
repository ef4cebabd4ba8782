import SceneCompiler.Skeleton.Basic

/-!
# Finding the bones of a node graph

An imported model is a list of named nodes that refer to each other as children. Some of the nodes
are bones. They are found by walking the graph from a root in pre-order; a bone hangs from the
nearest bone above it on the walk, and all other nodes are transparent.

The walk keeps a worklist of nodes to visit, each with the bone above it. One step takes the last
entry and puts the children of its node in its place, so that the first child is visited next.
Nothing marks a node as visited: a node with two parents is visited twice, and from a node on a
cycle the walk never comes to its end. `discover?` gives no skeleton then.
-/

namespace SceneCompiler

/-- A node of an imported graph: its name, its transform relative to its parent, and the places of
its children in the list of nodes. -/
structure SceneNode where
  name : String
  transform : Matrix
  children : List Nat

namespace Skeleton

/-- The bones found so far and the nodes still to visit, the next one last. -/
structure Walk where
  found : Skeleton
  worklist : List (Nat × Option BoneId)

def boneOfNode (node : SceneNode) (above : Option BoneId) : Bone where
  name := node.name
  parent := above
  rest := Pose.ofMatrix node.transform

/-- What visiting a node adds to the skeleton, and the bone above the node's children. -/
def visit (isBone : String → Bool) (found : Skeleton) (node : SceneNode) (above : Option BoneId) :
    Skeleton × Option BoneId :=
  if isBone node.name then
    match found.add? (boneOfNode node above) with
    | some grown => (grown, some found.size)
    | none => (found, above)
  else (found, above)

/-- One step of the walk: the last entry of the worklist is visited and replaced by the node's
children. An entry for a node that does not exist is dropped. -/
def Walk.step (nodes : List SceneNode) (isBone : String → Bool) (walk : Walk) : Walk :=
  match walk.worklist.getLast? with
  | none => walk
  | some (place, above) =>
    let rest := walk.worklist.dropLast
    match nodes[place]? with
    | none => { walk with worklist := rest }
    | some node =>
      let (found, below) := visit isBone walk.found node above
      { found, worklist := rest ++ node.children.reverse.map fun child => (child, below) }

/-- The walk after at most `fuel` steps, if its worklist is then empty. -/
def Walk.finish? (nodes : List SceneNode) (isBone : String → Bool) (walk : Walk) :
    Nat → Option Skeleton
  | 0 => if walk.worklist.isEmpty then some walk.found else none
  | fuel + 1 =>
    if walk.worklist.isEmpty then some walk.found
    else (walk.step nodes isBone).finish? nodes isBone fuel

/-- The number of visits that a walk from a node makes if no way down is longer than `length`
nodes. -/
def visits (nodes : List SceneNode) : Nat → Nat → Nat
  | 0, _ => 1
  | length + 1, place =>
    match nodes[place]? with
    | none => 1
    | some node =>
      1 + node.children.foldr (fun child later => visits nodes length child + later) 0

/-- The bones of a node graph below a root, in the order of the walk. A way down that visits no
node twice is at most as long as the list of nodes, and one step further it can meet a node that
does not exist; so a walk that ends at all ends within the given number of steps. -/
def discover? (nodes : List SceneNode) (root : Nat) (isBone : String → Bool) : Option Skeleton :=
  Walk.finish? nodes isBone { found := empty, worklist := [(root, none)] }
    (visits nodes (nodes.length + 1) root)

end Skeleton

end SceneCompiler
