import SceneCompiler.Proofs.Mesh.Groups

/-!
# Meshes with a skin

When the vertices of a mesh get owners, its faces are grouped anew. A face whose corners have one
owner goes to that owner's group. Any other face parts at the lowest bone above all owners of its
corners, and goes to the group of this bone and its child towards the first owner that is another
bone (`SkinnedMesh.PartsAt`). The two kinds of groups share the faces between them
(`SkinnedMesh.withSkin?_groupsFaces`).
-/

namespace SceneCompiler.SkinnedMesh

section Grouping

variable {skeleton : Skeleton} {owners : List (Option BoneId)} {face other : Face}

theorem faceOwner?_eq_some_iff {bone : Option BoneId} : faceOwner? owners face = some bone ↔
    ∀ vertex ∈ face.corners, ownerOf owners vertex = bone := by
  simp only [faceOwner?, Face.corners, List.forall_mem_cons, List.not_mem_nil, false_implies,
    forall_const, and_true, Bool.and_eq_true, decide_eq_true_eq, Option.ite_none_right_eq_some,
    Option.some_inj]
  constructor
  · rintro ⟨⟨hb, hc⟩, rfl⟩
    exact ⟨rfl, hb, hc⟩
  · rintro ⟨rfl, hb, hc⟩
    exact ⟨⟨hb, hc⟩, rfl⟩

theorem has_ownerOf (h : ∀ owner ∈ owners, skeleton.Has owner) (vertex : Nat) :
    skeleton.Has (ownerOf owners vertex) := by
  rw [ownerOf]
  cases hfound : owners[vertex]? with
  | none => intro id hid; simp at hid
  | some owner => exact h owner (List.mem_of_getElem? hfound)

/-! ### The pair of a face between bones -/

theorem facePair_fst (skeleton : Skeleton) (owners : List (Option BoneId)) (face : Face) :
    (facePair skeleton owners face).1 =
      skeleton.commonAncestor
        (skeleton.commonAncestor (ownerOf owners face.a) (ownerOf owners face.b))
        (ownerOf owners face.c) := by
  unfold facePair
  dsimp only
  split
  · rfl
  · rfl

/-- **The first bone of the pair is the lowest bone above the owners of all corners.** -/
theorem above_facePair_iff {bone : Option BoneId} :
    skeleton.Above bone (facePair skeleton owners face).1 ↔
      ∀ vertex ∈ face.corners, skeleton.Above bone (ownerOf owners vertex) := by
  rw [facePair_fst, Skeleton.above_commonAncestor_iff, Skeleton.above_commonAncestor_iff]
  simp [Face.corners, and_assoc]

theorem facePair_fst_of_perm (h : other.corners.Perm face.corners) :
    (facePair skeleton owners other).1 = (facePair skeleton owners face).1 := by
  apply skeleton.eq_of_above_iff
  intro bone
  simp only [above_facePair_iff, h.mem_iff]

/-- **The second bone leads on** to the first owner that is not the first bone. -/
theorem facePair_snd (skeleton : Skeleton) (h : faceOwner? owners face = none) :
    ∃ owner, (face.corners.map (ownerOf owners)).find? (· ≠ (facePair skeleton owners face).1) =
        some owner ∧
      ∃ child, (facePair skeleton owners face).2 = some child ∧
        skeleton.parentOf (some child) = (facePair skeleton owners face).1 ∧
        skeleton.Above (some child) owner := by
  cases hfound : (face.corners.map (ownerOf owners)).find?
      (· ≠ (facePair skeleton owners face).1) with
  | none =>
    -- otherwise the first bone would own the face
    have hall := List.find?_eq_none.mp hfound
    have howner : faceOwner? owners face = some (facePair skeleton owners face).1 := by
      rw [faceOwner?_eq_some_iff]
      intro vertex hvertex
      simpa using hall _ (List.mem_map_of_mem hvertex)
    rw [howner] at h
    simp at h
  | some owner =>
    obtain ⟨vertex, hvertex, rfl⟩ := List.mem_map.mp (List.mem_of_find?_eq_some hfound)
    have hne : ownerOf owners vertex ≠ (facePair skeleton owners face).1 := by
      simpa using List.find?_some hfound
    have habove : skeleton.Above (facePair skeleton owners face).1 (ownerOf owners vertex) :=
      above_facePair_iff.mp .refl vertex hvertex
    obtain ⟨child, hchild⟩ := Skeleton.exists_stepDownTowards habove hne.symm
    have hsecond : (facePair skeleton owners face).2 = skeleton.stepDownTowards
        (facePair skeleton owners face).1 (ownerOf owners vertex) := by
      rw [facePair_fst] at hfound ⊢
      simp only [Face.corners, List.map_cons, List.map_nil] at hfound
      unfold facePair
      dsimp only
      rw [hfound]
    refine ⟨_, rfl, child, hsecond.trans hchild, ?_⟩
    exact Skeleton.stepDownTowards_eq_some_iff.mp hchild

/-! ### Groups -/

/-- A face goes to the group of a pair: the first bone is the lowest above the owners of its
corners, in whatever order they come, and the second one its child towards the first owner that is
another bone. -/
structure PartsAt (skeleton : Skeleton) (mesh : SkinnedMesh) (face : Face) (pair : BonePair) :
    Prop where
  lowest : ∀ bone, skeleton.Above bone pair.1 ↔
    ∀ vertex ∈ face.corners, skeleton.Above bone (mesh.vertexBone vertex)
  unordered : ∀ other : Face, other.corners.Perm face.corners →
    (facePair skeleton mesh.owners other).1 = pair.1
  ne : pair.1 ≠ pair.2
  child : ∃ child ∈ skeleton.children pair.1, pair.2 = some child
  towards : ∃ owner, (face.corners.map mesh.vertexBone).find? (· ≠ pair.1) = some owner ∧
    skeleton.Above pair.2 owner

/-- The groups of a mesh hold every face once, each face where it belongs, and they are found by
their keys. -/
structure GroupsFaces (skeleton : Skeleton) (mesh : SkinnedMesh) : Prop where
  once : (mesh.boneGroups.flatMap Prod.snd ++ mesh.spanningGroups.flatMap Prod.snd).Perm
    (List.range mesh.surface.faces.length)
  ascending : ∀ group ∈ mesh.boneGroups.map Prod.snd ++ mesh.spanningGroups.map Prod.snd,
    group.Pairwise (· < ·)
  found_bone : ∀ bone group, (bone, group) ∈ mesh.boneGroups →
    mesh.facesForPair (bone, bone) = group
  found_spanning : ∀ pair group, (pair, group) ∈ mesh.spanningGroups →
    mesh.facesForPair pair = group
  owned : ∀ i face, mesh.surface.faces[i]? = some face → ∀ bone,
    (∃ group, (bone, group) ∈ mesh.boneGroups ∧ i ∈ group) ↔
      ∀ vertex ∈ face.corners, mesh.vertexBone vertex = bone
  spanning : ∀ i face, mesh.surface.faces[i]? = some face → ∀ pair group,
    (pair, group) ∈ mesh.spanningGroups → i ∈ group → mesh.PartsAt skeleton face pair

variable {mesh : SkinnedMesh} {offsets : List (BoneId × Matrix)}

theorem ownerKey_eq_some_iff {i : Nat} (hface : mesh.surface.faces[i]? = some face)
    {bone : Option BoneId} : mesh.ownerKey owners i = some bone ↔
      ∀ vertex ∈ face.corners, ownerOf owners vertex = bone := by
  rw [ownerKey, hface, Option.bind_some, faceOwner?_eq_some_iff]

theorem partsAt_facePair (howners : ∀ owner ∈ owners, skeleton.Has owner)
    (h : faceOwner? owners face = none) :
    (mesh.withSkin skeleton owners offsets).PartsAt skeleton face
      (facePair skeleton owners face) := by
  obtain ⟨owner, hfound, child, hsecond, hparent, habove⟩ := facePair_snd skeleton h
  have hhas : skeleton.Has (some child) := by
    obtain ⟨vertex, _, rfl⟩ := List.mem_map.mp (List.mem_of_find?_eq_some hfound)
    exact (has_ownerOf howners vertex).of_above habove
  refine ⟨fun bone => above_facePair_iff, fun other => facePair_fst_of_perm,
    facePair_ne skeleton h, ⟨child, ?_, hsecond⟩, owner, hfound, ?_⟩
  · rw [Skeleton.children_eq, List.mem_filter, List.mem_range]
    exact ⟨hhas child rfl, decide_eq_true hparent⟩
  · rw [hsecond]
    exact habove

/-- **A mesh with a skin has its faces in the right groups.**  For every assignment of a bone of the
skeleton, or of none, to each vertex the mesh gets its skin. Then every face is in one group, and in
no group twice; the groups are ascending and found by their keys; a face is in the group of a bone
exactly if this bone owns all its corners, and the others are in the groups of the pairs at which
they part. -/
theorem withSkin?_groupsFaces (skeleton : Skeleton) (mesh : SkinnedMesh)
    (owners : List (Option BoneId)) (offsets : List (BoneId × Matrix))
    (hlength : owners.length = mesh.surface.vertexCount)
    (howners : ∀ owner ∈ owners, skeleton.Has owner) :
    ∃ skinned, mesh.withSkin? skeleton owners offsets = some skinned ∧
      skinned.surface = mesh.surface ∧ skinned.owners = owners ∧ skinned.GroupsFaces skeleton := by
  refine ⟨_, if_pos hlength, rfl, rfl, ?_⟩
  have hbones := mesh.boneGroups_withSkin_perm skeleton owners offsets
  have hspanning := mesh.spanningGroups_withSkin_perm skeleton owners offsets
  have hkeyed := mesh.keyed_withSkin skeleton owners offsets
  constructor
  case once => exact mesh.groups_withSkin_perm skeleton owners offsets
  case ascending =>
    intro group hgroup
    rcases List.mem_append.mp hgroup with hgroup | hgroup
    · obtain ⟨_, hmem, rfl⟩ := List.mem_map.mp hgroup
      exact (ascending_groupsBy _ _ (hbones.mem_iff.mp hmem)).2
    · obtain ⟨_, hmem, rfl⟩ := List.mem_map.mp hgroup
      exact (ascending_groupsBy _ _ (hspanning.mem_iff.mp hmem)).2
  case found_bone => exact fun _ _ => hkeyed.facesForPair_bone
  case found_spanning => exact fun _ _ => hkeyed.facesForPair_spanning
  case owned =>
    intro i face hface bone
    have hlt : i < mesh.surface.faces.length := (List.getElem?_eq_some_iff.mp hface).1
    simp only [hbones.mem_iff]
    rw [mem_group_iff, and_iff_right hlt]
    exact ownerKey_eq_some_iff hface
  case spanning =>
    intro i face hface pair group hmem hi
    obtain ⟨_, hkey⟩ := (mem_group_iff _ _).mp ⟨group, hspanning.mem_iff.mp hmem, hi⟩
    obtain ⟨other, hother, howner, rfl⟩ := pairKey_eq_some_iff.mp hkey
    obtain rfl := Option.some.inj (hother.symm.trans hface)
    exact partsAt_facePair howners howner

end Grouping

/-! ### A figure

A hand on an arm and a leg, both under a spine. The faces lie on the hand, between the hand and the
leg, and between the leg and what no bone owns. -/

namespace Figure

def skeleton : Skeleton where
  bones := [⟨"spine", none, {}⟩, ⟨"arm", some 0, {}⟩, ⟨"hand", some 1, {}⟩, ⟨"leg", some 0, {}⟩]
  parent_lt := by
    intro child parent bone hbone hparent
    have hlt := (List.getElem?_eq_some_iff.mp hbone).1
    match child, hlt with
    | 0, _ =>
      obtain rfl := Option.some.inj hbone
      simp at hparent
    | 1, _ | 2, _ | 3, _ =>
      obtain rfl := Option.some.inj hbone
      obtain rfl := Option.some.inj hparent
      decide

def owners : List (Option BoneId) := [some 2, some 2, some 2, some 3, none]

def mesh : SkinnedMesh :=
  unskinned "figure"
    { positions := List.replicate 5 ⟨0, 0, 0⟩, faces := [⟨0, 1, 2⟩, ⟨3, 1, 2⟩, ⟨3, 4, 3⟩, ⟨2, 2, 3⟩] }
    none "skin"

end Figure

/-- The faces between the hand and the leg part at the spine, in one direction or the other as the
hand or the leg comes first. -/
theorem withSkin?_groupsFaces_of_figure :
    Figure.owners.length = Figure.mesh.surface.vertexCount ∧
      (∀ owner ∈ Figure.owners, Figure.skeleton.Has owner) ∧
      ∃ skinned, Figure.mesh.withSkin? Figure.skeleton Figure.owners [] = some skinned ∧
        skinned.GroupsFaces Figure.skeleton ∧
        skinned.facesForPair (some 2, some 2) = [0] ∧
        skinned.facesForPair (some 0, some 3) = [1] ∧
        skinned.facesForPair (none, some 0) = [2] ∧
        skinned.facesForPair (some 0, some 1) = [3] := by
  have hlength : Figure.owners.length = Figure.mesh.surface.vertexCount := by decide
  have howners : ∀ owner ∈ Figure.owners, Figure.skeleton.Has owner := by
    simp [Figure.owners, Figure.skeleton, Skeleton.Has, Skeleton.size]
  obtain ⟨skinned, hskin, _, _, hgroups⟩ :=
    withSkin?_groupsFaces Figure.skeleton Figure.mesh Figure.owners [] hlength howners
  refine ⟨hlength, howners, skinned, hskin, hgroups, ?_⟩
  obtain rfl := Option.some.inj ((if_pos hlength).symm.trans hskin)
  have hbones := Figure.mesh.boneGroups_withSkin_perm Figure.skeleton Figure.owners []
  have hpairs := Figure.mesh.spanningGroups_withSkin_perm Figure.skeleton Figure.owners []
  have howned : groupsBy (Figure.mesh.ownerKey Figure.owners) Figure.mesh.surface.faces.length =
      [(some 2, [0])] := by cbv
  have hparted : groupsBy (Figure.mesh.pairKey Figure.skeleton Figure.owners)
      Figure.mesh.surface.faces.length =
      [((some 0, some 3), [1]), ((none, some 0), [2]), ((some 0, some 1), [3])] := by cbv
  rw [howned] at hbones
  rw [hparted] at hpairs
  refine ⟨hgroups.found_bone _ _ ?_, hgroups.found_spanning _ _ ?_, hgroups.found_spanning _ _ ?_,
    hgroups.found_spanning _ _ ?_⟩
  · simp [hbones.mem_iff]
  · simp [hpairs.mem_iff]
  · simp [hpairs.mem_iff]
  · simp [hpairs.mem_iff]

end SceneCompiler.SkinnedMesh
