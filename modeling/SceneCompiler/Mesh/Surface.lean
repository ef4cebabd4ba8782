import SceneCompiler.Space.Vector

/-!
# Surfaces

A surface is a list of vertices and a list of triangles between them. Vertices have positions, and
they may all have normals or texture coordinates.
-/

namespace SceneCompiler

/-- A triangle by the numbers of its vertices. -/
structure Face where
  a : Nat
  b : Nat
  c : Nat
  deriving DecidableEq, Repr

def Face.corners (face : Face) : List Nat := [face.a, face.b, face.c]

/-- Vertices with their attributes, and the faces between them. -/
structure Surface (α : Type) where
  positions : List (Vec3 α)
  normals : Option (List (Vec3 α)) := none
  uvs : Option (List (Vec2 α)) := none
  faces : List Face := []

/-- Whether an attribute that vertices may have is there for the first `count` of them, or for
none. -/
def coversVertices {β : Type} (values? : Option (List β)) (count : Nat) : Bool :=
  values?.all fun values => count ≤ values.length

theorem coversVertices_of_length {β : Type} {values? : Option (List β)} {count covered : Nat}
    (h : ∀ values ∈ values?, values.length = count) (hle : covered ≤ count) :
    coversVertices values? covered = true := by
  cases values? with
  | none => rfl
  | some values => exact decide_eq_true (h values rfl ▸ hle)

/-- The numbers below `count` in groups of one key, the groups in the order of their first members.
Numbers without a key are left out. -/
def groupsBy {K : Type} [DecidableEq K] (keyOf : Nat → Option K) (count : Nat) :
    List (K × List Nat) :=
  ((List.range count).filterMap keyOf).eraseDups.map fun key =>
    (key, (List.range count).filter fun i => keyOf i = some key)

namespace Surface

variable {α : Type}

def vertexCount (s : Surface α) : Nat := s.positions.length

variable [Scalar α]

def position (s : Surface α) (vertex : Nat) : Vec3 α := s.positions[vertex]?.getD .zero

theorem getElem?_positions {s : Surface α} {vertex : Nat} (h : vertex < s.vertexCount) :
    s.positions[vertex]? = some (s.position vertex) := by
  rw [position, List.getElem?_eq_getElem h, Option.getD_some]

/-- The smallest box with sides along the axes that holds all vertices. -/
def bounds? (s : Surface α) : Option (Vec3 α × Vec3 α) :=
  match s.positions with
  | [] => none
  | first :: rest => some (rest.foldl Vec3.least first, rest.foldl Vec3.greatest first)

end Surface

end SceneCompiler
