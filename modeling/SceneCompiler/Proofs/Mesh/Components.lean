import SceneCompiler.Proofs.Mesh.Forest
import SceneCompiler.Proofs.Mesh.Groups

/-!
# Components of a surface

Faces that share a vertex are neighbours, and faces are connected when a chain of neighbours leads
from one to the other. The vertices of connected faces are in one tree of the forest that the faces
make, so to group the faces by the roots of their first corners is to group them by components
(`Surface.connectedFaceGroups_components`).
-/

namespace SceneCompiler.Surface

open VertexForest (InOneFace)

variable {α : Type} {s : Surface α} {i j : Nat} {a b : Face}

/-- Two faces of a surface share a vertex. -/
def Neighbours (s : Surface α) (i j : Nat) : Prop :=
  ∃ a b vertex, s.faces[i]? = some a ∧ s.faces[j]? = some b ∧ vertex ∈ a.corners ∧ vertex ∈ b.corners

/-- A chain of neighbours leads from one face to another. -/
def Connected (s : Surface α) : Nat → Nat → Prop := Relation.ReflTransGen s.Neighbours

theorem first_mem_corners (face : Face) : face.a ∈ face.corners := by simp [Face.corners]

/-- From a chain of vertices to one of faces: each step of the chain stays within a face, and the
next step leaves from a vertex of it. -/
theorem Connected.of_vertices (hi : s.faces[i]? = some a) {u v : Nat} (hu : u ∈ a.corners)
    (h : Relation.ReflTransGen (InOneFace s.faces) u v) (hj : s.faces[j]? = some b)
    (hv : v ∈ b.corners) : s.Connected i j := by
  induction h generalizing j b with
  | refl => exact .single ⟨a, b, u, hi, hj, hu, hv⟩
  | @tail w v _ hstep ih =>
    obtain ⟨face, hface, hw, hv'⟩ := hstep
    obtain ⟨k, hk⟩ := List.getElem?_of_mem hface
    exact (ih hk hw).tail ⟨face, b, v, hk, hj, hv', hv⟩

/-- From a chain of faces to one of vertices: neighbours are left and entered at a vertex that they
share. -/
theorem Connected.vertices (h : s.Connected i j) (hi : s.faces[i]? = some a)
    (hj : s.faces[j]? = some b) : Relation.ReflTransGen (InOneFace s.faces) a.a b.a := by
  induction h generalizing b with
  | refl =>
    obtain rfl := Option.some.inj (hi.symm.trans hj)
    exact .refl
  | tail _ hstep ih =>
    obtain ⟨c, d, vertex, hc, hd, hvc, hvd⟩ := hstep
    obtain rfl := Option.some.inj (hd.symm.trans hj)
    have hleft : InOneFace s.faces c.a vertex :=
      ⟨c, List.mem_of_getElem? hc, first_mem_corners c, hvc⟩
    have hentered : InOneFace s.faces vertex d.a :=
      ⟨d, List.mem_of_getElem? hd, hvd, first_mem_corners d⟩
    exact ((ih hc).tail hleft).tail hentered

theorem connected_iff (hi : s.faces[i]? = some a) (hj : s.faces[j]? = some b) :
    s.Connected i j ↔ Relation.ReflTransGen (InOneFace s.faces) a.a b.a :=
  ⟨fun h => h.vertices hi hj,
    fun h => .of_vertices hi (first_mem_corners a) h hj (first_mem_corners b)⟩

/-- The root that a face is grouped by. -/
def rootOf? (s : Surface α) (i : Nat) : Option Nat :=
  s.faces[i]?.map fun face => (VertexForest.ofFaces s.vertexCount s.faces).root face.a

theorem connectedFaceGroups_eq (s : Surface α) :
    s.connectedFaceGroups = (groupsBy s.rootOf? s.faces.length).map Prod.snd := by
  unfold connectedFaceGroups
  simp only [VertexForest.rootsOf_eq, List.getElem?_map]
  rfl

theorem rootOf?_isSome (h : i < s.faces.length) : (s.rootOf? i).isSome = true := by
  simp [rootOf?, h]

theorem rootOf?_eq_iff (hfaces : ∀ face ∈ s.faces, ∀ vertex ∈ face.corners, vertex < s.vertexCount)
    (hi : s.faces[i]? = some a) (hj : s.faces[j]? = some b) :
    s.rootOf? i = s.rootOf? j ↔ s.Connected i j := by
  rw [connected_iff hi hj, ← VertexForest.joins_ofFaces hfaces, rootOf?, rootOf?, hi, hj,
    Option.map_some, Option.map_some, Option.some_inj]

/-- **The groups of connected faces are the components of the surface.**  Every face is in one
group, and in no group twice. Two faces are in one group exactly if a chain of faces leads from one
to the other in which neighbours share a vertex. Each group is ascending, and the groups come in the
order of their first faces. -/
theorem connectedFaceGroups_components
    (hfaces : ∀ face ∈ s.faces, ∀ vertex ∈ face.corners, vertex < s.vertexCount) :
    s.connectedFaceGroups.flatten.Perm (List.range s.faces.length) ∧
      (∀ i < s.faces.length, ∀ j < s.faces.length,
        (∃ group ∈ s.connectedFaceGroups, i ∈ group ∧ j ∈ group) ↔ s.Connected i j) ∧
      (∀ group ∈ s.connectedFaceGroups, group ≠ [] ∧ group.Pairwise (· < ·)) ∧
      s.connectedFaceGroups.Pairwise fun group later =>
        ∀ i ∈ group.head?, ∀ j ∈ later.head?, i < j := by
  rw [connectedFaceGroups_eq, ← List.flatMap_def, List.pairwise_map]
  refine ⟨?_, fun i hi j hj => ?_, ?_, pairwise_groupsBy _ _⟩
  · have hall : (List.range s.faces.length).filter (fun i => (s.rootOf? i).isSome) =
        List.range s.faces.length :=
      List.filter_eq_self.mpr fun i hi => rootOf?_isSome (List.mem_range.mp hi)
    have hperm := flatMap_groupsBy_perm s.rootOf? s.faces.length
    rwa [hall] at hperm
  · rw [← rootOf?_eq_iff hfaces (List.getElem?_eq_getElem hi) (List.getElem?_eq_getElem hj),
      ← exists_group_iff _ _ hi hj (rootOf?_isSome hi)]
    simp only [List.mem_map, exists_exists_and_eq_and]
  · intro group hgroup
    obtain ⟨keyed, hkeyed, rfl⟩ := List.mem_map.mp hgroup
    exact ascending_groupsBy _ _ hkeyed

/-! ### A fan

Two strips that a last face brings together, beside a face on its own. -/

def fan : Surface Nat where
  positions := List.replicate 9 ⟨0, 0, 0⟩
  faces := [⟨4, 5, 3⟩, ⟨6, 7, 8⟩, ⟨0, 1, 2⟩, ⟨2, 5, 2⟩]

/-- The first and the third face share no vertex, but the last one has a vertex of each. -/
theorem connectedFaceGroups_components_of_fan :
    (∀ face ∈ fan.faces, ∀ vertex ∈ face.corners, vertex < fan.vertexCount) ∧
      fan.connectedFaceGroups = [[0, 2, 3], [1]] ∧ fan.Connected 0 2 ∧ ¬ fan.Connected 0 1 := by
  have hfaces : ∀ face ∈ fan.faces, ∀ vertex ∈ face.corners, vertex < fan.vertexCount := by decide
  have hroots : groupsBy fan.rootOf? fan.faces.length = [(0, [0, 2, 3]), (6, [1])] := by cbv
  have hgroups : fan.connectedFaceGroups = [[0, 2, 3], [1]] := by
    rw [connectedFaceGroups_eq, hroots]
    rfl
  obtain ⟨_, hcomponents, _, _⟩ := connectedFaceGroups_components hfaces
  rw [hgroups] at hcomponents
  exact ⟨hfaces, hgroups, (hcomponents 0 (by decide) 2 (by decide)).mp (by decide),
    fun h => absurd ((hcomponents 0 (by decide) 1 (by decide)).mpr h) (by decide)⟩

end SceneCompiler.Surface
