import Mathlib.Data.List.Nodup
import SceneCompiler.Proofs.Drawing.LoadGroups

/-!
# Runs and loads

The faces of a batch are drawn run by run. The runs hold the faces of the batch in their order
(`Run.flatMap_pack`), and each run holds all vertices of its faces, once each (`Run.pack_closed`), so
it can be drawn from slots that hold its vertices.

A group of loads that one command does is consecutive in the buffer and in the slots
(`eq_of_contiguous`).
-/

namespace SceneCompiler

/-! ### Ascending lists -/

theorem mem_insertAscending {n m : Nat} {list : List Nat} :
    m ∈ insertAscending n list ↔ m = n ∨ m ∈ list := by
  induction list with
  | nil => simp [insertAscending]
  | cons first rest ih =>
    unfold insertAscending
    split
    · simp
    · split
      · rename_i heq
        simp [heq]
      · rw [List.mem_cons, ih, List.mem_cons]
        exact or_left_comm

theorem pairwise_insertAscending {n : Nat} {list : List Nat} (h : list.Pairwise (· < ·)) :
    (insertAscending n list).Pairwise (· < ·) := by
  induction list with
  | nil => exact List.pairwise_singleton _ n
  | cons first rest ih =>
    obtain ⟨hfirst, hrest⟩ := List.pairwise_cons.mp h
    unfold insertAscending
    split
    · rename_i hlt
      refine List.pairwise_cons.mpr ⟨fun m hm => ?_, h⟩
      rcases List.mem_cons.mp hm with rfl | hm
      · exact hlt
      · exact Nat.lt_trans hlt (hfirst m hm)
    · split
      · exact h
      · rename_i hnot hne
        refine List.pairwise_cons.mpr ⟨fun m hm => ?_, ih hrest⟩
        rcases mem_insertAscending.mp hm with rfl | hm
        · omega
        · exact hfirst m hm

namespace Run

/-! ### Packing -/

/-- A run whose vertices are the corners of its faces, in ascending order. -/
structure Closed (run : Run) : Prop where
  ascending : run.vertices.Pairwise (· < ·)
  vertices : ∀ vertex, vertex ∈ run.vertices ↔ ∃ face ∈ run.faces, vertex ∈ face.corners

theorem closed_empty : Closed {} := ⟨List.Pairwise.nil, by simp⟩

theorem Closed.add {run : Run} (h : run.Closed) (face : Face) : (run.add face).Closed := by
  have hfold : ∀ (corners vertices : List Nat), vertices.Pairwise (· < ·) →
      (corners.foldl (fun vertices n => insertAscending n vertices) vertices).Pairwise (· < ·) ∧
        ∀ m, m ∈ corners.foldl (fun vertices n => insertAscending n vertices) vertices ↔
          m ∈ corners ∨ m ∈ vertices := by
    intro corners
    induction corners with
    | nil => exact fun vertices hvertices => ⟨hvertices, by simp⟩
    | cons n rest ih =>
      intro vertices hvertices
      obtain ⟨hascending, hmem⟩ := ih _ (pairwise_insertAscending (n := n) hvertices)
      refine ⟨hascending, fun m => ?_⟩
      rw [List.foldl_cons, hmem, mem_insertAscending, List.mem_cons]
      exact or_left_comm.trans or_assoc.symm
  obtain ⟨hascending, hmem⟩ := hfold face.corners run.vertices h.ascending
  refine ⟨hascending, fun vertex => (hmem vertex).trans ?_⟩
  rw [h.vertices]
  constructor
  · rintro (hvertex | ⟨other, hother, hvertex⟩)
    · exact ⟨face, List.mem_append_right _ List.mem_cons_self, hvertex⟩
    · exact ⟨other, List.mem_append_left _ hother, hvertex⟩
  · rintro ⟨other, hother, hvertex⟩
    rcases List.mem_append.mp hother with hother | hother
    · exact Or.inr ⟨other, hother, hvertex⟩
    · obtain rfl := List.mem_singleton.mp hother
      exact Or.inl hvertex

/-- **Runs can be drawn.** -/
theorem pack_closed {capacity : Nat} {current : Run} (h : current.Closed) (faces : List Face) :
    ∀ run ∈ pack capacity current faces, run.Closed := by
  induction faces generalizing current with
  | nil =>
    intro run hrun
    unfold pack at hrun
    split at hrun
    · simp at hrun
    · obtain rfl := List.mem_singleton.mp hrun
      exact h
  | cons face rest ih =>
    intro run hrun
    unfold pack at hrun
    dsimp only at hrun
    split at hrun
    · exact ih (h.add face) run hrun
    · rcases List.mem_cons.mp hrun with rfl | hrun
      · exact h
      · exact ih (closed_empty.add face) run hrun

/-- **Runs hold the faces in their order.** -/
theorem flatMap_pack (capacity : Nat) (current : Run) (faces : List Face) :
    (pack capacity current faces).flatMap Run.faces = current.faces ++ faces := by
  induction faces generalizing current with
  | nil =>
    unfold pack
    split
    · rename_i hempty
      rw [List.isEmpty_iff.mp hempty]
      rfl
    · simp
  | cons face rest ih =>
    unfold pack
    dsimp only
    split
    · rw [ih]
      simp [add]
    · rw [List.flatMap_cons, ih]
      simp [add]

theorem loadOrder_perm (run : Run) (mesh : SkinnedMesh) (bone : Option BoneId) :
    (run.loadOrder mesh bone).Perm run.vertices := by
  have hparts := List.filter_append_perm (fun vertex => mesh.vertexBone vertex = bone) run.vertices
  simpa [loadOrder] using hparts

theorem Closed.nodup_loadOrder {run : Run} (h : run.Closed) (mesh : SkinnedMesh)
    (bone : Option BoneId) : (run.loadOrder mesh bone).Nodup :=
  (loadOrder_perm run mesh bone).nodup_iff.mpr (h.ascending.imp Nat.ne_of_lt)

end Run

/-! ### Loads -/

/-- A group of loads is told by its first one. -/
theorem eq_of_contiguous {buffer : BufferId} {first : VertexKey × Nat}
    {rest : List (VertexKey × Nat)}
    (hchain : (first :: rest).IsChain fun x y => followsInLoad x y = true)
    (hbuffer : ∀ load ∈ first :: rest, load.1.buffer = buffer) {k : Nat} {load : VertexKey × Nat}
    (h : (first :: rest)[k]? = some load) :
    load = (⟨buffer, first.1.index + k, first.1.bone⟩, first.2 + k) := by
  induction k generalizing first rest with
  | zero =>
    obtain rfl : first = load := by simpa using h
    obtain ⟨⟨b, index, bone⟩, slot⟩ := first
    obtain rfl : b = buffer := hbuffer _ List.mem_cons_self
    rfl
  | succ k ih =>
    cases rest with
    | nil => simp at h
    | cons second rest =>
      obtain ⟨hfollows, htail⟩ := List.isChain_cons_cons.mp hchain
      have hload := ih htail (fun l hl => hbuffer l (List.mem_cons_of_mem first hl))
        (by simpa using h)
      obtain ⟨hindex, hslot, hbone⟩ := followsInLoad_iff.mp hfollows
      rw [hload, hindex, hslot, hbone]
      simp only [Prod.mk.injEq, VertexKey.mk.injEq, true_and, and_true]
      omega

theorem slots_of_contiguous {buffer : BufferId} {first : VertexKey × Nat}
    {rest : List (VertexKey × Nat)}
    (hchain : (first :: rest).IsChain fun x y => followsInLoad x y = true)
    (hbuffer : ∀ load ∈ first :: rest, load.1.buffer = buffer) :
    (first :: rest).map Prod.snd = List.range' first.2 (first :: rest).length := by
  apply List.ext_getElem?
  intro k
  rw [List.getElem?_map]
  cases hload : (first :: rest)[k]? with
  | none =>
    have hle := List.getElem?_eq_none_iff.mp hload
    rw [List.getElem?_eq_none (by rw [List.length_range']; exact hle)]
    rfl
  | some load =>
    have hlt := (List.getElem?_eq_some_iff.mp hload).1
    rw [eq_of_contiguous hchain hbuffer hload, List.getElem?_range' hlt, Nat.one_mul]
    rfl

end SceneCompiler
