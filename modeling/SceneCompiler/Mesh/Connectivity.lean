import SceneCompiler.Mesh.Surface

/-!
# Connected faces

Two faces are connected when a chain of faces leads from one to the other in which neighbours share
a vertex. The components are kept as a forest over the vertices: at first every vertex is a root of
its own, and each face then joins the trees of its corners.

A vertex never refers to a larger one. The type keeps this as an invariant, and it is what makes
walks to a root end: of two roots the larger one gives way, and a shortcut leads further down. Every
walk halves the way that it takes, so that later walks are shorter.
-/

namespace SceneCompiler

/-- Vertices that refer to each other, and roots that refer to themselves. -/
structure VertexForest where
  parents : List Nat
  parent_le : ∀ vertex parent : Nat, parents[vertex]? = some parent → parent ≤ vertex

namespace VertexForest

/-- The forest in which each of so many vertices is a root. -/
def ofCount (count : Nat) : VertexForest where
  parents := List.range count
  parent_le := by
    intro vertex parent h
    obtain ⟨hlt, rfl⟩ := List.getElem?_eq_some_iff.mp h
    simp

def size (f : VertexForest) : Nat := f.parents.length

/-- What a vertex refers to. A vertex that the forest does not have counts as a root. -/
def parentOf (f : VertexForest) (vertex : Nat) : Nat := f.parents[vertex]?.getD vertex

theorem parentOf_le (f : VertexForest) (vertex : Nat) : f.parentOf vertex ≤ vertex := by
  unfold parentOf
  cases h : f.parents[vertex]? with
  | none => exact Nat.le_refl vertex
  | some parent => exact f.parent_le vertex parent h

/-- The forest in which a vertex refers to a smaller one, or to itself. -/
def redirect (f : VertexForest) (vertex target : Nat) (h : target ≤ vertex) : VertexForest where
  parents := f.parents.set vertex target
  parent_le := by
    intro other parent hparent
    rw [List.getElem?_set] at hparent
    split at hparent
    · rename_i heq
      subst heq
      split at hparent
      · rw [← Option.some.inj hparent]
        exact h
      · simp at hparent
    · exact f.parent_le other parent hparent

theorem parentOf_parentOf_le (f : VertexForest) (vertex : Nat) :
    f.parentOf (f.parentOf vertex) ≤ vertex :=
  Nat.le_trans (f.parentOf_le _) (f.parentOf_le vertex)

theorem parentOf_parentOf_lt (f : VertexForest) {vertex : Nat} (h : f.parentOf vertex ≠ vertex) :
    f.parentOf (f.parentOf vertex) < vertex :=
  Nat.lt_of_le_of_lt (f.parentOf_le _) (Nat.lt_of_le_of_ne (f.parentOf_le vertex) h)

/-- The root above a vertex. The walk takes two steps at a time, and the vertex that it comes from is
made to refer to the one that it goes to. -/
def find (f : VertexForest) (vertex : Nat) : VertexForest × Nat :=
  if _h : f.parentOf vertex = vertex then (f, vertex)
  else
    (f.redirect vertex (f.parentOf (f.parentOf vertex)) (f.parentOf_parentOf_le vertex)).find
      (f.parentOf (f.parentOf vertex))
termination_by vertex
decreasing_by exact f.parentOf_parentOf_lt _h

/-- The forest after the trees of two vertices are joined: the larger root gives way. -/
def join (f : VertexForest) (a b : Nat) : VertexForest :=
  let (f, a) := f.find a
  let (f, b) := f.find b
  if a = b then f else f.redirect (max a b) (min a b) (by omega)

/-- The forest after the trees of a face's corners are joined. -/
def joinFace (f : VertexForest) (face : Face) : VertexForest :=
  (f.join face.a face.b).join face.a face.c

/-- The forest after the trees of every face's corners are joined. -/
def ofFaces (vertexCount : Nat) (faces : List Face) : VertexForest :=
  faces.foldl joinFace (ofCount vertexCount)

/-- The roots above the first corners of some faces. -/
def rootsOf (f : VertexForest) : List Face → List Nat
  | [] => []
  | face :: rest =>
    let (f, root) := f.find face.a
    root :: f.rootsOf rest

end VertexForest

namespace Surface

variable {α : Type}

/-- The faces in groups of connected ones, the groups in the order of their first faces. -/
def connectedFaceGroups (s : Surface α) : List (List Nat) :=
  let roots := (VertexForest.ofFaces s.vertexCount s.faces).rootsOf s.faces
  (groupsBy (fun i => roots[i]?) s.faces.length).map (·.2)

end Surface

end SceneCompiler
