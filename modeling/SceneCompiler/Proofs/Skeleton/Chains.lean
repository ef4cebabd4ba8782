import SceneCompiler.Skeleton.Ancestry

/-!
# Chains of bones

What stands above a bone does not depend on where one comes from: the rest of a chain, from any of its
bones on, is the chain of that bone (`Skeleton.suffix_ancestors`). So two chains that meet in a bone
are the same from there on, and what the paths of two bones have in common is the path of their common
ancestor (`Skeleton.prefix_commonAncestor`).
-/

namespace SceneCompiler.Skeleton

variable {s : Skeleton} {a b : Option BoneId} {bone : BoneId}

/-! ### Parts of a chain -/

/-- **The rest of a chain is a chain.** -/
theorem suffix_ancestors {chain : List BoneId} (h : chain <:+ s.ancestors a) :
    chain = s.ancestors chain.head? := by
  cases a with
  | none =>
    obtain rfl := List.suffix_nil.mp h
    rfl
  | some id =>
    -- the number of the bone falls with each step towards the root
    induction id using Nat.strongRecOn with
    | _ id ih =>
      rw [ancestors_some, List.suffix_cons_iff] at h
      rcases h with rfl | h
      · rw [List.head?_cons, ancestors_some]
      · cases hparent : s.parentOf (some id) with
        | none =>
          rw [hparent] at h
          obtain rfl := List.suffix_nil.mp h
          rfl
        | some parent =>
          rw [hparent] at h
          exact ih parent (s.parentOf_lt hparent) h

theorem ancestors_suffix (h : bone ∈ s.ancestors a) : s.ancestors (some bone) <:+ s.ancestors a := by
  obtain ⟨below, above, hsplit⟩ := List.append_of_mem h
  have hsuffix : bone :: above <:+ s.ancestors a := ⟨below, hsplit.symm⟩
  have hchain := suffix_ancestors hsuffix
  rw [List.head?_cons] at hchain
  rw [← hchain]
  exact hsuffix

/-- **The start of a path is a path.** -/
theorem prefix_pathFromRoot {path : List BoneId} (h : path <+: s.pathFromRoot a) :
    path = s.pathFromRoot path.getLast? := by
  have hsuffix : path.reverse <:+ s.ancestors a := by
    rw [← List.reverse_prefix, List.reverse_reverse]
    exact h
  have hchain := suffix_ancestors hsuffix
  rw [List.head?_reverse] at hchain
  rw [pathFromRoot, ← hchain, List.reverse_reverse]

theorem pathFromRoot_some (s : Skeleton) (bone : BoneId) :
    s.pathFromRoot (some bone) = s.pathFromRoot (s.parentOf (some bone)) ++ [bone] := by
  rw [pathFromRoot, ancestors_some, List.reverse_cons]
  rfl

/-! ### The common ancestor -/

theorem commonAncestor_suffix (s : Skeleton) (a b : Option BoneId) :
    s.ancestors (s.commonAncestor a b) <:+ s.ancestors a ∧
      s.ancestors (s.commonAncestor a b) <:+ s.ancestors b := by
  cases hfound : s.commonAncestor a b with
  | none => exact ⟨List.nil_suffix, List.nil_suffix⟩
  | some bone =>
    have hb : bone ∈ s.ancestors b := List.contains_iff_mem.mp (List.find?_some hfound)
    exact ⟨ancestors_suffix (List.mem_of_find?_eq_some hfound), ancestors_suffix hb⟩

/-- Where two chains are the same, they are so from their common ancestor on. -/
theorem suffix_commonAncestor {chain : List BoneId} (ha : chain <:+ s.ancestors a)
    (hb : chain <:+ s.ancestors b) : chain <:+ s.ancestors (s.commonAncestor a b) := by
  cases hfound : s.commonAncestor a b with
  | none =>
    have hnone := List.find?_eq_none.mp hfound
    cases chain with
    | nil => exact List.nil_suffix
    | cons bone above =>
      have hnot := hnone bone (ha.subset List.mem_cons_self)
      exact absurd (List.contains_iff_mem.mpr (hb.subset List.mem_cons_self)) hnot
  | some bone =>
    obtain ⟨_, below, above, hsplit, hbelow⟩ := List.find?_eq_some_iff_append.mp hfound
    have hcommon : s.ancestors (some bone) = bone :: above := by
      have hsuffix : bone :: above <:+ s.ancestors a := ⟨below, hsplit.symm⟩
      exact (suffix_ancestors hsuffix).symm
    rw [hcommon]
    rcases List.suffix_or_suffix_of_suffix ha ⟨below, hsplit.symm⟩ with hchain | ⟨more, hmore⟩
    · exact hchain
    · cases more with
      | nil => exact ⟨[], hmore.symm⟩
      | cons lower rest =>
        -- a bone of the chain below the one that was found would have been found first
        obtain ⟨start, hstart⟩ := ha
        rw [← hmore, ← List.append_assoc, hsplit] at hstart
        have hlower : lower ∈ below := by
          rw [← List.append_cancel_right hstart]
          simp
        have hmem : lower ∈ chain := by
          rw [← hmore]
          simp
        have hnot := hbelow lower hlower
        rw [List.contains_iff_mem.mpr (hb.subset hmem)] at hnot
        simp at hnot

/-- **The paths of two bones have the path of their common ancestor in common**, and no more. -/
theorem prefix_commonAncestor (s : Skeleton) (a b : Option BoneId) (path : List BoneId) :
    path <+: s.pathFromRoot (s.commonAncestor a b) ↔
      path <+: s.pathFromRoot a ∧ path <+: s.pathFromRoot b := by
  have hreverse : ∀ target, path <+: s.pathFromRoot target ↔ path.reverse <:+ s.ancestors target := by
    intro target
    rw [pathFromRoot, ← List.reverse_prefix, List.reverse_reverse]
  simp only [hreverse]
  constructor
  · intro h
    obtain ⟨ha, hb⟩ := s.commonAncestor_suffix a b
    exact ⟨h.trans ha, h.trans hb⟩
  · exact fun h => suffix_commonAncestor h.1 h.2

end SceneCompiler.Skeleton
