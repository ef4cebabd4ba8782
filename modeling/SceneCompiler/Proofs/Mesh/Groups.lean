import Mathlib.Data.List.Nodup
import SceneCompiler.Mesh.Basic
import SceneCompiler.Proofs.Skeleton.Ancestry

/-!
# Groups of faces

A mesh is drawn group by group, so nothing is forgotten and nothing is drawn twice just when every
face is in one group, and every group is found under its pair of bones. Faces with one owner and
faces between bones are grouped by different keys; the pair of a face between bones never consists
of one bone twice (`SkinnedMesh.facePair_ne`), so the two kinds of groups cannot be mistaken for each
other (`SkinnedMesh.Keyed`).
-/

namespace SceneCompiler

/-! ### Grouping -/

theorem nodup_eraseDups {α : Type} [DecidableEq α] (xs : List α) : xs.eraseDups.Nodup := by
  induction h : xs.length using Nat.strongRecOn generalizing xs with
  | _ n ih =>
    cases xs with
    | nil => simp
    | cons x rest =>
      rw [List.eraseDups_cons, List.nodup_cons]
      constructor
      · simp [List.mem_eraseDups]
      · have hlength := List.length_filter_le (fun b => !b == x) rest
        rw [List.length_cons] at h
        exact ih _ (by omega) _ rfl

theorem eraseDups_append_of_mem {α : Type} [BEq α] [LawfulBEq α] {xs ys : List α}
    (h : ∀ y ∈ ys, y ∈ xs) : (xs ++ ys).eraseDups = xs.eraseDups := by
  have hnone : ys.removeAll xs = [] := by
    rw [List.removeAll, List.filter_eq_nil_iff]
    intro y hy
    simpa using h y hy
  rw [List.eraseDups_append, hnone, List.eraseDups_nil, List.append_nil]

theorem eraseDups_append_new {α : Type} [BEq α] [LawfulBEq α] {xs ys : List α} {a : α}
    (ha : a ∉ xs) (hsome : ys ≠ []) (h : ∀ y ∈ ys, y = a) :
    (xs ++ ys).eraseDups = xs.eraseDups ++ [a] := by
  have hall : ys.removeAll xs = ys := by
    rw [List.removeAll, List.filter_eq_self]
    intro y hy
    rw [h y hy]
    simpa using ha
  rw [List.eraseDups_append, hall]
  obtain ⟨y, rest, rfl⟩ := List.exists_cons_of_ne_nil hsome
  obtain rfl := h y List.mem_cons_self
  have hrest : rest.filter (fun b => !b == y) = [] := by
    rw [List.filter_eq_nil_iff]
    intro b hb
    simp [h b (List.mem_cons_of_mem _ hb)]
  rw [List.eraseDups_cons, hrest, List.eraseDups_nil]

/-- In a list of entries with different keys, each is found under its key. -/
theorem lookup_of_mem {K V : Type} [BEq K] [LawfulBEq K] {entries : List (K × V)}
    (hkeys : (entries.map Prod.fst).Nodup) {key : K} {value : V} (h : (key, value) ∈ entries) :
    entries.lookup key = some value := by
  cases hfound : entries.lookup key with
  | none =>
    have hne := List.lookup_eq_none_iff.mp hfound _ h
    simp at hne
  | some other =>
    obtain ⟨before, after, heq, _⟩ := List.lookup_eq_some_iff.mp hfound
    have hmem : (key, other) ∈ entries := by
      rw [heq]
      simp
    have hsame := List.inj_on_of_nodup_map hkeys hmem h rfl
    rw [(Prod.mk.inj hsame).2]

section GroupsBy

variable {K : Type} [DecidableEq K] (keyOf : Nat → Option K) (count : Nat)

theorem keys_groupsBy : ((groupsBy keyOf count).map Prod.fst).Nodup := by
  have hkeys : (groupsBy keyOf count).map Prod.fst =
      ((List.range count).filterMap keyOf).eraseDups := by
    simp [groupsBy, Function.comp_def]
  rw [hkeys]
  exact nodup_eraseDups _

theorem mem_groupsBy {key : K} {members : List Nat} (h : (key, members) ∈ groupsBy keyOf count) :
    (∃ i < count, keyOf i = some key) ∧
      members = (List.range count).filter fun i => keyOf i = some key := by
  obtain ⟨k, hk, heq⟩ := List.mem_map.mp h
  obtain ⟨rfl, rfl⟩ := Prod.mk.inj heq
  rw [List.mem_eraseDups] at hk
  obtain ⟨i, hi, hkey⟩ := List.mem_filterMap.mp hk
  exact ⟨⟨i, List.mem_range.mp hi, hkey⟩, rfl⟩

theorem mem_groupsBy_of_key {i : Nat} {key : K} (hi : i < count) (hkey : keyOf i = some key) :
    (key, (List.range count).filter fun j => keyOf j = some key) ∈ groupsBy keyOf count :=
  List.mem_map.mpr ⟨key, List.mem_eraseDups.mpr
    (List.mem_filterMap.mpr ⟨i, List.mem_range.mpr hi, hkey⟩), rfl⟩

/-- A number is in the group of its key. -/
theorem mem_group_iff {key : K} {i : Nat} :
    (∃ members, (key, members) ∈ groupsBy keyOf count ∧ i ∈ members) ↔
      i < count ∧ keyOf i = some key := by
  constructor
  · rintro ⟨members, hgroup, hi⟩
    obtain ⟨_, rfl⟩ := mem_groupsBy _ _ hgroup
    simpa using hi
  · rintro ⟨hi, hkey⟩
    exact ⟨_, mem_groupsBy_of_key _ _ hi hkey, by simp [hi, hkey]⟩

/-- Two numbers are in one group if they have one key. -/
theorem exists_group_iff {i j : Nat} (hi : i < count) (hj : j < count)
    (hsome : (keyOf i).isSome = true) :
    (∃ group ∈ groupsBy keyOf count, i ∈ group.2 ∧ j ∈ group.2) ↔ keyOf i = keyOf j := by
  constructor
  · rintro ⟨⟨key, members⟩, hgroup, hin, hjn⟩
    obtain ⟨_, hikey⟩ := (mem_group_iff keyOf count).mp ⟨members, hgroup, hin⟩
    obtain ⟨_, hjkey⟩ := (mem_group_iff keyOf count).mp ⟨members, hgroup, hjn⟩
    rw [hikey, hjkey]
  · intro heq
    obtain ⟨key, hkey⟩ := Option.isSome_iff_exists.mp hsome
    refine ⟨_, mem_groupsBy_of_key _ _ hi hkey, ?_, ?_⟩
    · simp [hi, hkey]
    · simp [hj, ← heq, hkey]

theorem ascending_groupsBy {group : K × List Nat} (h : group ∈ groupsBy keyOf count) :
    group.2 ≠ [] ∧ group.2.Pairwise (· < ·) := by
  obtain ⟨key, members⟩ := group
  obtain ⟨⟨i, hi, hkey⟩, rfl⟩ := mem_groupsBy _ _ h
  refine ⟨List.ne_nil_of_mem (a := i) ?_, List.pairwise_lt_range.filter _⟩
  simp [hi, hkey]

/-- **The groups hold each number with a key once.** -/
theorem flatMap_groupsBy_perm :
    ((groupsBy keyOf count).flatMap Prod.snd).Perm
      ((List.range count).filter fun i => (keyOf i).isSome) := by
  have hgroups : (groupsBy keyOf count).flatMap Prod.snd =
      ((List.range count).filterMap keyOf).eraseDups.flatMap fun key =>
        (List.range count).filter fun i => keyOf i = some key := by
    rw [groupsBy, List.flatMap_map]
  rw [hgroups]
  refine (List.perm_ext_iff_of_nodup ?_ (List.nodup_range.filter _)).mpr ?_
  · refine List.nodup_flatMap.mpr ⟨fun key _ => List.nodup_range.filter _, ?_⟩
    -- a number cannot have two keys
    refine (nodup_eraseDups _).imp ?_
    intro k l hne i hk hl
    have hik : keyOf i = some k := by simpa using (List.mem_filter.mp hk).2
    have hil : keyOf i = some l := by simpa using (List.mem_filter.mp hl).2
    rw [hik] at hil
    exact hne (Option.some.inj hil)
  · intro i
    simp only [List.mem_flatMap, List.mem_eraseDups, List.mem_filterMap, List.mem_filter,
      List.mem_range, decide_eq_true_eq]
    constructor
    · rintro ⟨key, _, hi, hkey⟩
      exact ⟨hi, by rw [hkey]; rfl⟩
    · rintro ⟨hi, hsome⟩
      obtain ⟨key, hkey⟩ := Option.isSome_iff_exists.mp hsome
      exact ⟨key, ⟨i, hi, hkey⟩, hi, hkey⟩

/-- The keys come in the order of the first numbers that have them. -/
theorem pairwise_keys :
    ((List.range count).filterMap keyOf).eraseDups.Pairwise fun k l =>
      ∀ j, keyOf j = some l → ∃ i < j, keyOf i = some k := by
  induction count with
  | zero => simp
  | succ count ih =>
    rw [List.range_succ, List.filterMap_append]
    cases hkey : keyOf count with
    | none => simpa [hkey] using ih
    | some key =>
      have hlast : [count].filterMap keyOf = [key] := by simp [hkey]
      rw [hlast]
      by_cases hmem : key ∈ (List.range count).filterMap keyOf
      · rwa [eraseDups_append_of_mem (by simpa using hmem)]
      · rw [eraseDups_append_new hmem (by simp) (by simp), List.pairwise_append]
        refine ⟨ih, List.pairwise_singleton _ _, ?_⟩
        intro k hk l hl j hj
        obtain rfl := List.mem_singleton.mp hl
        obtain ⟨i, hi, hik⟩ := List.mem_filterMap.mp (List.mem_eraseDups.mp hk)
        have hij : count ≤ j := by
          by_contra hlt
          exact hmem (List.mem_filterMap.mpr ⟨j, List.mem_range.mpr (by omega), hj⟩)
        exact ⟨i, Nat.lt_of_lt_of_le (List.mem_range.mp hi) hij, hik⟩

/-- **The groups come in the order of their first members.** -/
theorem pairwise_groupsBy :
    (groupsBy keyOf count).Pairwise fun g h => ∀ i ∈ g.2.head?, ∀ j ∈ h.2.head?, i < j := by
  have hfirst : (groupsBy keyOf count).Pairwise fun g h => ∀ j ∈ h.2, ∃ i ∈ g.2, i < j := by
    rw [groupsBy, List.pairwise_map]
    refine (pairwise_keys keyOf count).imp ?_
    intro k l hkl j hj
    simp only [List.mem_filter, List.mem_range, decide_eq_true_eq] at hj ⊢
    obtain ⟨i, hij, hi⟩ := hkl j hj.2
    exact ⟨i, ⟨Nat.lt_trans hij hj.1, hi⟩, hij⟩
  refine hfirst.imp_of_mem ?_
  intro g h hg _ hgh i hi j hj
  obtain ⟨k, hk, hkj⟩ := hgh j (List.mem_of_mem_head? hj)
  obtain ⟨_, hascending⟩ := ascending_groupsBy keyOf count hg
  obtain ⟨rest, hrest⟩ := List.head?_eq_some_iff.mp hi
  rw [hrest] at hk hascending
  -- the first member of an ascending group is the least
  rcases List.mem_cons.mp hk with rfl | hk
  · exact hkj
  · exact Nat.lt_trans (List.rel_of_pairwise_cons hascending hk) hkj

end GroupsBy

/-! ### Faces between bones -/

namespace SkinnedMesh

/-- **Faces between bones have pairs of two.** -/
theorem facePair_ne (skeleton : Skeleton) {owners : List (Option BoneId)} {face : Face}
    (h : faceOwner? owners face = none) :
    (facePair skeleton owners face).1 ≠ (facePair skeleton owners face).2 := by
  unfold facePair
  dsimp only
  generalize skeleton.commonAncestor _ (ownerOf owners face.c) = ancestor
  split
  · rename_i owner hfound
    have hne : owner ≠ ancestor := by simpa using List.find?_some hfound
    exact (skeleton.stepDownTowards_ne hne).symm
  · rename_i hnone
    -- all owners would be the ancestor, and the face would have one owner
    have hall := List.find?_eq_none.mp hnone
    simp only [List.mem_cons, List.not_mem_nil, or_false, ne_eq, decide_not, Bool.not_eq_true,
      Bool.not_eq_false', decide_eq_true_eq, forall_eq_or_imp, forall_eq] at hall
    obtain ⟨ha, hb, hc⟩ := hall
    simp [faceOwner?, ha, hb, hc] at h

/-! ### Meshes -/

/-- A mesh as it is made: without a skin, or with the skin of a skeleton's bones, one owner for each
vertex. -/
def IsMade (skeleton : Skeleton) (mesh : SkinnedMesh) : Prop :=
  (∃ name surface colors material, mesh = unskinned name surface colors material) ∨
    ∃ base owners offsets, withSkin? base skeleton owners offsets = some mesh

/-- The groups have different keys, and the keys between bones are pairs of two. -/
structure Keyed (mesh : SkinnedMesh) : Prop where
  bones : (mesh.boneGroups.map Prod.fst).Nodup
  spanning : (mesh.spanningGroups.map Prod.fst).Nodup
  pairs : ∀ group ∈ mesh.spanningGroups, group.1.1 ≠ group.1.2

section Keyed

variable {mesh : SkinnedMesh}

theorem Keyed.facesForPair_bone (h : mesh.Keyed) {group : Option BoneId × List Nat}
    (hgroup : group ∈ mesh.boneGroups) : mesh.facesForPair (group.1, group.1) = group.2 := by
  rw [facesForPair, if_pos rfl]
  exact congrArg (·.getD []) (lookup_of_mem h.bones hgroup)

theorem Keyed.facesForPair_spanning (h : mesh.Keyed) {group : BonePair × List Nat}
    (hgroup : group ∈ mesh.spanningGroups) : mesh.facesForPair group.1 = group.2 := by
  rw [facesForPair, if_neg (h.pairs group hgroup), lookup_of_mem h.spanning hgroup,
    Option.getD_some]

theorem flatMap_filter_nonempty {K : Type} (groups : List (K × List Nat)) :
    (groups.filter (!·.2.isEmpty)).flatMap Prod.snd = groups.flatMap Prod.snd := by
  induction groups with
  | nil => rfl
  | cons group rest ih =>
    obtain ⟨key, members⟩ := group
    cases members with
    | nil => simpa using ih
    | cons i members => simp [ih]

/-- Under different keys, the groups that are drawn are all groups. -/
theorem Keyed.flatMap_drawnPairs (h : mesh.Keyed) :
    mesh.drawnPairs.flatMap mesh.facesForPair =
      mesh.boneGroups.flatMap Prod.snd ++ mesh.spanningGroups.flatMap Prod.snd := by
  rw [drawnPairs, List.flatMap_append, List.flatMap_map, List.flatMap_map,
    List.flatMap_congr fun _ hgroup => h.facesForPair_bone (List.mem_filter.mp hgroup).1,
    List.flatMap_congr fun _ hgroup => h.facesForPair_spanning (List.mem_filter.mp hgroup).1]
  exact congrArg₂ _ (flatMap_filter_nonempty _) (flatMap_filter_nonempty _)

theorem Keyed.facesForPair_ne_nil (h : mesh.Keyed) {pair : BonePair}
    (hpair : pair ∈ mesh.drawnPairs) : mesh.facesForPair pair ≠ [] := by
  rcases List.mem_append.mp hpair with hpair | hpair
  · obtain ⟨group, hgroup, rfl⟩ := List.mem_map.mp hpair
    obtain ⟨hmem, hsome⟩ := List.mem_filter.mp hgroup
    rw [h.facesForPair_bone hmem]
    simpa using hsome
  · obtain ⟨group, hgroup, rfl⟩ := List.mem_map.mp hpair
    obtain ⟨hmem, hsome⟩ := List.mem_filter.mp hgroup
    rw [h.facesForPair_spanning hmem]
    simpa using hsome

theorem keyed_unskinned (name : String) (surface : Surface Float32)
    (colors : Option (List FloatColor)) (material : String) :
    (unskinned name surface colors material).Keyed := by
  constructor
  · simp [unskinned]
  · simp [unskinned]
  · simp [unskinned]

end Keyed

section WithSkin

variable (mesh : SkinnedMesh) (skeleton : Skeleton) (owners : List (Option BoneId))
  (offsets : List (BoneId × Matrix))

/-- What a face is grouped by if it has one owner. -/
def ownerKey (i : Nat) : Option (Option BoneId) :=
  mesh.surface.faces[i]?.bind (faceOwner? owners)

/-- What a face is grouped by if it has not. -/
def pairKey (i : Nat) : Option BonePair :=
  mesh.surface.faces[i]?.bind fun face =>
    if (faceOwner? owners face).isSome then none else some (facePair skeleton owners face)

theorem boneGroups_withSkin_perm : (mesh.withSkin skeleton owners offsets).boneGroups.Perm
    (groupsBy (mesh.ownerKey owners) mesh.surface.faces.length) := List.mergeSort_perm _ _

theorem spanningGroups_withSkin_perm : (mesh.withSkin skeleton owners offsets).spanningGroups.Perm
    (groupsBy (mesh.pairKey skeleton owners) mesh.surface.faces.length) := List.mergeSort_perm _ _

variable {mesh skeleton owners}

theorem pairKey_eq_some_iff {i : Nat} {pair : BonePair} :
    mesh.pairKey skeleton owners i = some pair ↔ ∃ face, mesh.surface.faces[i]? = some face ∧
      faceOwner? owners face = none ∧ pair = facePair skeleton owners face := by
  rw [pairKey, Option.bind_eq_some_iff]
  refine exists_congr fun face => and_congr_right fun _ => ?_
  cases faceOwner? owners face with
  | none => simp [eq_comm]
  | some owner => simp

variable (mesh skeleton owners)

theorem keyed_withSkin : (mesh.withSkin skeleton owners offsets).Keyed := by
  have hbones := mesh.boneGroups_withSkin_perm skeleton owners offsets
  have hspanning := mesh.spanningGroups_withSkin_perm skeleton owners offsets
  refine ⟨(hbones.map Prod.fst).nodup_iff.mpr (keys_groupsBy _ _),
    (hspanning.map Prod.fst).nodup_iff.mpr (keys_groupsBy _ _), fun group hgroup => ?_⟩
  obtain ⟨⟨i, _, hkey⟩, _⟩ := mem_groupsBy _ _ (hspanning.mem_iff.mp hgroup)
  obtain ⟨face, _, howner, hpair⟩ := pairKey_eq_some_iff.mp hkey
  rw [hpair]
  exact facePair_ne skeleton howner

/-- **The groups hold every face once**, those of bones and those between bones together. -/
theorem groups_withSkin_perm :
    ((mesh.withSkin skeleton owners offsets).boneGroups.flatMap Prod.snd ++
        (mesh.withSkin skeleton owners offsets).spanningGroups.flatMap Prod.snd).Perm
      (List.range mesh.surface.faces.length) := by
  -- a face has an owner or a pair, and not both
  have hkeys : (List.range mesh.surface.faces.length).filter
        (fun i => (mesh.pairKey skeleton owners i).isSome) =
      (List.range mesh.surface.faces.length).filter fun i => !(mesh.ownerKey owners i).isSome := by
    refine List.filter_congr fun i hi => ?_
    have hface := List.getElem?_eq_getElem (List.mem_range.mp hi)
    simp only [ownerKey, pairKey, hface, Option.bind_some]
    split
    · rename_i howner
      simp [howner]
    · rename_i howner
      simp [howner]
  have hsorted := ((mesh.boneGroups_withSkin_perm skeleton owners offsets).flatMap_right
      Prod.snd).append
    ((mesh.spanningGroups_withSkin_perm skeleton owners offsets).flatMap_right Prod.snd)
  have hgrouped := (flatMap_groupsBy_perm (mesh.ownerKey owners) mesh.surface.faces.length).append
    (flatMap_groupsBy_perm (mesh.pairKey skeleton owners) mesh.surface.faces.length)
  rw [hkeys] at hgrouped
  exact (hsorted.trans hgrouped).trans (List.filter_append_perm _ _)

end WithSkin

theorem IsMade.keyed {skeleton : Skeleton} {mesh : SkinnedMesh} (h : mesh.IsMade skeleton) :
    mesh.Keyed := by
  rcases h with ⟨name, surface, colors, material, rfl⟩ | ⟨base, owners, offsets, hskin⟩
  · exact keyed_unskinned name surface colors material
  · obtain ⟨_, hmesh⟩ := Option.ite_none_right_eq_some.mp hskin
    obtain rfl := Option.some.inj hmesh
    exact keyed_withSkin base skeleton owners offsets

/-- **Every face is drawn once** when all groups of a mesh are drawn. -/
theorem IsMade.drawnPairs_perm {skeleton : Skeleton} {mesh : SkinnedMesh}
    (h : mesh.IsMade skeleton) :
    (mesh.drawnPairs.flatMap mesh.facesForPair).Perm
      (List.range mesh.surface.faces.length) := by
  rw [h.keyed.flatMap_drawnPairs]
  rcases h with ⟨name, surface, colors, material, rfl⟩ | ⟨base, owners, offsets, hskin⟩
  · simp [unskinned]
  · obtain ⟨_, hmesh⟩ := Option.ite_none_right_eq_some.mp hskin
    obtain rfl := Option.some.inj hmesh
    exact groups_withSkin_perm base skeleton owners offsets

/-- **Every group that is drawn has a face.** -/
theorem IsMade.facesForPair_ne_nil {skeleton : Skeleton} {mesh : SkinnedMesh}
    (h : mesh.IsMade skeleton) {pair : BonePair} (hpair : pair ∈ mesh.drawnPairs) :
    mesh.facesForPair pair ≠ [] := h.keyed.facesForPair_ne_nil hpair

end SkinnedMesh

end SceneCompiler
