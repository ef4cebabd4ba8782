import Mathlib.Logic.Relation
import Mathlib.Order.MinMax
import SceneCompiler.Mesh.Connectivity

/-!
# Joined trees

Walks in a forest change it, so what a forest stands for is told by a walk that changes nothing
(`VertexForest.root`). Shortcuts keep all roots (`VertexForest.root_find`), and a join gives the
larger of two roots over to the smaller one (`VertexForest.root_join`). So after the corners of some
faces are joined, two vertices have one root exactly if a chain of these faces leads from one to the
other (`VertexForest.Joins.foldl`).
-/

namespace SceneCompiler

namespace VertexForest

variable {f : VertexForest} {a b u v vertex target : Nat}

/-! ### Roots -/

theorem parentOf_redirect (f : VertexForest) (h : target ≤ vertex) (u : Nat) :
    (f.redirect vertex target h).parentOf u =
      if u = vertex ∧ vertex < f.size then target else f.parentOf u := by
  simp only [parentOf, redirect, List.getElem?_set, size]
  by_cases hu : vertex = u
  · subst hu
    by_cases hlt : vertex < f.parents.length
    · simp [hlt]
    · simp [hlt]
  · simp [hu, Ne.symm hu]

@[simp] theorem size_redirect (f : VertexForest) (h : target ≤ vertex) :
    (f.redirect vertex target h).size = f.size := by
  simp [size, redirect]

theorem parentOf_lt (h : f.parentOf vertex ≠ vertex) : f.parentOf vertex < vertex :=
  Nat.lt_of_le_of_ne (f.parentOf_le vertex) h

/-- The end of the way that starts at a vertex, as the forest is. -/
def root (f : VertexForest) (vertex : Nat) : Nat :=
  if _h : f.parentOf vertex = vertex then vertex else f.root (f.parentOf vertex)
termination_by vertex
decreasing_by exact parentOf_lt _h

theorem root_of_parentOf (h : f.parentOf vertex = vertex) : f.root vertex = vertex := by
  rw [root, dif_pos h]

@[simp] theorem root_parentOf (f : VertexForest) (vertex : Nat) :
    f.root (f.parentOf vertex) = f.root vertex := by
  by_cases h : f.parentOf vertex = vertex
  · rw [h]
  · rw [root.eq_def f vertex, dif_neg h]

theorem parentOf_root (f : VertexForest) (vertex : Nat) :
    f.parentOf (f.root vertex) = f.root vertex := by
  induction vertex using Nat.strongRecOn with
  | _ vertex ih =>
    by_cases h : f.parentOf vertex = vertex
    · rw [root_of_parentOf h, h]
    · rw [← root_parentOf]
      exact ih _ (parentOf_lt h)

theorem root_le (f : VertexForest) (vertex : Nat) : f.root vertex ≤ vertex := by
  induction vertex using Nat.strongRecOn with
  | _ vertex ih =>
    by_cases h : f.parentOf vertex = vertex
    · exact Nat.le_of_eq (root_of_parentOf h)
    · rw [← root_parentOf]
      exact Nat.le_trans (ih _ (parentOf_lt h)) (f.parentOf_le vertex)

/-! ### Walks that change the forest -/

/-- A shortcut within one tree keeps all roots. -/
theorem root_shortcut (hlt : target < vertex) (hroot : f.root target = f.root vertex) (u : Nat) :
    (f.redirect vertex target (Nat.le_of_lt hlt)).root u = f.root u := by
  have hparent := f.parentOf_redirect (Nat.le_of_lt hlt)
  induction u using Nat.strongRecOn with
  | _ u ih =>
    rw [← root_parentOf, hparent]
    split
    · rename_i hu
      rw [ih target (hu.1 ▸ hlt), hroot, hu.1]
    · rename_i hu
      by_cases hself : f.parentOf u = u
      · rw [hself, root_of_parentOf hself, root_of_parentOf]
        rw [hparent, if_neg hu, hself]
      · rw [ih _ (parentOf_lt hself), root_parentOf]

/-- **Walks keep all roots**, and they find the root. -/
theorem root_find (f : VertexForest) (vertex : Nat) :
    (f.find vertex).2 = f.root vertex ∧ (∀ u, (f.find vertex).1.root u = f.root u) ∧
      (f.find vertex).1.size = f.size := by
  induction vertex using Nat.strongRecOn generalizing f with
  | _ vertex ih =>
    rw [find]
    split
    · rename_i h
      exact ⟨(root_of_parentOf h).symm, fun _ => rfl, rfl⟩
    · rename_i h
      have hlt := f.parentOf_parentOf_lt h
      have hroots := root_shortcut hlt (by rw [root_parentOf, root_parentOf])
      obtain ⟨hfound, hkept, hsize⟩ := ih _ hlt (f.redirect vertex _ (Nat.le_of_lt hlt))
      refine ⟨?_, fun u => (hkept u).trans (hroots u), by rw [hsize, size_redirect]⟩
      rw [hfound, hroots, root_parentOf, root_parentOf]

/-- To redirect a root is to give all its tree to another one. -/
theorem root_redirect_root (hlt : target < vertex) (hvertex : vertex < f.size)
    (hroot : f.parentOf vertex = vertex) (htarget : f.parentOf target = target) (u : Nat) :
    (f.redirect vertex target (Nat.le_of_lt hlt)).root u = if f.root u = vertex then target else f.root u := by
  have hparent := f.parentOf_redirect (Nat.le_of_lt hlt)
  have hkept : (f.redirect vertex target (Nat.le_of_lt hlt)).root target = target := by
    apply root_of_parentOf
    rw [hparent, if_neg fun h => hlt.ne h.1, htarget]
  induction u using Nat.strongRecOn with
  | _ u ih =>
    rw [← root_parentOf, hparent]
    by_cases hu : u = vertex
    · rw [if_pos ⟨hu, hvertex⟩, hkept, hu, root_of_parentOf hroot, if_pos rfl]
    · rw [if_neg fun h => hu h.1]
      by_cases hself : f.parentOf u = u
      · rw [hself, root_of_parentOf hself, if_neg hu, root_of_parentOf]
        rw [hparent, if_neg fun h => hu h.1, hself]
      · rw [ih _ (parentOf_lt hself), root_parentOf]

/-! ### Joins -/

/-- **A join gives one tree to the other one's root**, the smaller of the two. -/
theorem root_join (ha : a < f.size) (hb : b < f.size) (u : Nat) :
    (f.join a b).root u =
      if f.root u = max (f.root a) (f.root b) then min (f.root a) (f.root b) else f.root u := by
  obtain ⟨hrootA, hkeptA, hsizeA⟩ := f.root_find a
  obtain ⟨hrootB, hkeptB, hsizeB⟩ := (f.find a).1.root_find b
  have hkept : ∀ u, ((f.find a).1.find b).1.root u = f.root u := fun u =>
    (hkeptB u).trans (hkeptA u)
  have hparent : ∀ u, ((f.find a).1.find b).1.parentOf (f.root u) = f.root u := by
    intro u
    rw [← hkept u]
    exact parentOf_root _ u
  unfold join
  dsimp only
  simp only [hrootA, hrootB, hkeptA]
  split
  · rename_i heq
    rw [hkept, heq, max_self, min_self]
    split
    · assumption
    · rfl
  · rename_i hne
    have hlt : min (f.root a) (f.root b) < max (f.root a) (f.root b) := by omega
    have hmax : max (f.root a) (f.root b) < ((f.find a).1.find b).1.size := by
      rw [hsizeB, hsizeA]
      exact max_lt (Nat.lt_of_le_of_lt (f.root_le a) ha) (Nat.lt_of_le_of_lt (f.root_le b) hb)
    rw [root_redirect_root hlt hmax, hkept]
    · rcases max_choice (f.root a) (f.root b) with h | h
      · rw [h, hparent]
      · rw [h, hparent]
    · rcases min_choice (f.root a) (f.root b) with h | h
      · rw [h, hparent]
      · rw [h, hparent]

@[simp] theorem size_join (f : VertexForest) (a b : Nat) : (f.join a b).size = f.size := by
  obtain ⟨_, _, hsizeA⟩ := f.root_find a
  obtain ⟨_, _, hsizeB⟩ := (f.find a).1.root_find b
  unfold join
  dsimp only
  split
  · rw [hsizeB, hsizeA]
  · rw [size_redirect, hsizeB, hsizeA]

/-- After a join two vertices have one root if they had one before, or if the join brought their
trees together. -/
theorem root_join_eq_iff (ha : a < f.size) (hb : b < f.size) :
    (f.join a b).root u = (f.join a b).root v ↔ f.root u = f.root v ∨
      (f.root u = f.root a ∧ f.root v = f.root b) ∨ (f.root u = f.root b ∧ f.root v = f.root a) := by
  rw [root_join ha hb, root_join ha hb]
  generalize f.root u = u
  generalize f.root v = v
  generalize f.root a = a
  generalize f.root b = b
  split <;> split <;> omega

theorem root_join_of_root (ha : a < f.size) (hb : b < f.size) (h : f.root u = f.root v) :
    (f.join a b).root u = (f.join a b).root v :=
  (root_join_eq_iff ha hb).mpr (.inl h)

theorem root_join_self (ha : a < f.size) (hb : b < f.size) :
    (f.join a b).root a = (f.join a b).root b :=
  (root_join_eq_iff ha hb).mpr (.inr (.inl ⟨rfl, rfl⟩))

/-- A join relates only what an equivalence relates that holds within the trees and for the two
vertices that are joined. -/
theorem rel_of_root_join {R : Nat → Nat → Prop} (htrans : ∀ {x y z}, R x y → R y z → R x z)
    (htrees : ∀ {x y}, f.root x = f.root y → R x y) (ha : a < f.size) (hb : b < f.size)
    (hab : R a b) (hba : R b a) (h : (f.join a b).root u = (f.join a b).root v) : R u v := by
  rcases (root_join_eq_iff ha hb).mp h with huv | ⟨hu, hv⟩ | ⟨hu, hv⟩
  · exact htrees huv
  · exact htrans (htrans (htrees hu) hab) (htrees hv.symm)
  · exact htrans (htrans (htrees hu) hba) (htrees hv.symm)

/-! ### The corners of faces -/

/-- Two vertices are corners of one of some faces. -/
def InOneFace (faces : List Face) (u v : Nat) : Prop :=
  ∃ face ∈ faces, u ∈ face.corners ∧ v ∈ face.corners

/-- Two vertices have one root exactly if a chain of the given faces leads from one to the other. -/
def Joins (f : VertexForest) (faces : List Face) : Prop :=
  ∀ u v, f.root u = f.root v ↔ Relation.ReflTransGen (InOneFace faces) u v

variable {faces done : List Face} {face : Face}

theorem mem_corners : v ∈ face.corners ↔ v = face.a ∨ v = face.b ∨ v = face.c := by
  simp [Face.corners]

@[simp] theorem size_ofCount (count : Nat) : (ofCount count).size = count := by
  simp [size, ofCount]

@[simp] theorem size_joinFace (f : VertexForest) (face : Face) : (f.joinFace face).size = f.size := by
  simp [joinFace]

theorem joins_ofCount (count : Nat) : (ofCount count).Joins [] := by
  have hparent : ∀ u, (ofCount count).parentOf u = u := by
    intro u
    by_cases h : u < count
    · simp [parentOf, ofCount, h]
    · simp [parentOf, ofCount, h]
  intro u v
  rw [root_of_parentOf (hparent u), root_of_parentOf (hparent v)]
  constructor
  · rintro rfl
    exact .refl
  · intro h
    rcases h.cases_head with heq | ⟨_, ⟨_, hface, _⟩, _⟩
    · exact heq
    · simp at hface

/-- To join the corners of a face keeps what is joined and gives the corners one root. -/
theorem root_joinFace (hface : ∀ v ∈ face.corners, v < f.size) :
    (∀ {u v}, f.root u = f.root v → (f.joinFace face).root u = (f.joinFace face).root v) ∧
      ∀ v ∈ face.corners, (f.joinFace face).root v = (f.joinFace face).root face.a := by
  have ha := hface face.a (by simp [mem_corners])
  have hb := hface face.b (by simp [mem_corners])
  have hc := hface face.c (by simp [mem_corners])
  have ha' : face.a < (f.join face.a face.b).size := by rwa [size_join]
  have hc' : face.c < (f.join face.a face.b).size := by rwa [size_join]
  refine ⟨fun h => root_join_of_root ha' hc' (root_join_of_root ha hb h), fun v hv => ?_⟩
  rcases mem_corners.mp hv with rfl | rfl | rfl
  · rfl
  · exact root_join_of_root ha' hc' (root_join_self ha hb).symm
  · exact (root_join_self ha' hc').symm

/-- **Joining the corners of a face** adds the face to the chains that lead from vertex to vertex. -/
theorem Joins.joinFace (h : f.Joins faces) (hface : ∀ v ∈ face.corners, v < f.size) :
    (f.joinFace face).Joins (faces ++ [face]) := by
  have ha : face.a ∈ face.corners := by simp [mem_corners]
  have hb : face.b ∈ face.corners := by simp [mem_corners]
  have hc : face.c ∈ face.corners := by simp [mem_corners]
  have hcorners : ∀ {u v}, u ∈ face.corners → v ∈ face.corners →
      Relation.ReflTransGen (InOneFace (faces ++ [face])) u v :=
    fun hu hv => .single ⟨face, by simp, hu, hv⟩
  have htrees : ∀ {u v}, f.root u = f.root v →
      Relation.ReflTransGen (InOneFace (faces ++ [face])) u v := by
    intro u v huv
    apply Relation.ReflTransGen.mono _ _ _ ((h u v).mp huv)
    rintro x y ⟨other, hother, hxy⟩
    exact ⟨other, List.mem_append_left _ hother, hxy⟩
  obtain ⟨hkept, hjoined⟩ := root_joinFace hface
  intro u v
  constructor
  · apply rel_of_root_join .trans _ (by simpa using hface _ ha) (by simpa using hface _ hc)
      (hcorners ha hc) (hcorners hc ha)
    exact rel_of_root_join .trans htrees (hface _ ha) (hface _ hb) (hcorners ha hb) (hcorners hb ha)
  · intro hchain
    induction hchain with
    | refl => rfl
    | tail _ hstep ih =>
      rw [ih]
      obtain ⟨other, hother, hx, hy⟩ := hstep
      rcases List.mem_append.mp hother with hother | hother
      · exact hkept ((h _ _).mpr (.single ⟨other, hother, hx, hy⟩))
      · obtain rfl := List.mem_singleton.mp hother
        rw [hjoined _ hx, hjoined _ hy]

theorem Joins.foldl (h : f.Joins done) (hfaces : ∀ face ∈ faces, ∀ v ∈ face.corners, v < f.size) :
    (faces.foldl VertexForest.joinFace f).Joins (done ++ faces) := by
  induction faces generalizing f done with
  | nil => simpa using h
  | cons face rest ih =>
    have hnext := h.joinFace (hfaces face List.mem_cons_self)
    have hrest : ∀ other ∈ rest, ∀ v ∈ other.corners, v < (f.joinFace face).size := by
      intro other hother v hv
      rw [size_joinFace]
      exact hfaces other (List.mem_cons_of_mem face hother) v hv
    rw [List.foldl_cons, List.append_cons]
    exact ih hnext hrest

/-- **The forest of some faces has a tree for each of their components.** -/
theorem joins_ofFaces {count : Nat} (hfaces : ∀ face ∈ faces, ∀ v ∈ face.corners, v < count) :
    (ofFaces count faces).Joins faces := by
  have hsize : ∀ face ∈ faces, ∀ v ∈ face.corners, v < (ofCount count).size := by
    simpa using hfaces
  have h := (joins_ofCount count).foldl hsize
  rwa [List.nil_append] at h

/-- The walks that read the roots off change nothing for each other. -/
theorem rootsOf_eq (f : VertexForest) (faces : List Face) :
    f.rootsOf faces = faces.map fun face => f.root face.a := by
  induction faces generalizing f with
  | nil => rfl
  | cons face rest ih =>
    obtain ⟨hfound, hkept, _⟩ := f.root_find face.a
    rw [rootsOf, List.map_cons]
    dsimp only
    rw [ih, hfound]
    simp only [hkept]

end VertexForest

end SceneCompiler
