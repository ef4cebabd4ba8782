import SceneCompiler.Proofs.Skeleton.Chains

/-!
# Ancestry

A bone is above another one if steps from child to parent lead from the lower to the upper one
(`Skeleton.Above`). Its chain is then the rest of the lower one's chain, so that "above" is an order,
and what is above one bone is ordered in a line. The common ancestor of two bones is the lowest that
is above both, so it depends neither on the order of the bones nor, among three, on which two come
first; and from a bone towards one below it there is exactly one way down
(`Skeleton.tree_queries`).
-/

namespace SceneCompiler.Skeleton

/-- Steps from child to parent lead from the lower bone to the upper one, which may be the same or
the root of the model. -/
inductive Above (s : Skeleton) (upper : Option BoneId) : Option BoneId → Prop
  | refl : Above s upper upper
  | step {lower : Option BoneId} (h : Above s upper (s.parentOf lower)) : Above s upper lower

/-- A bone that the skeleton has, or the root of the model. -/
def Has (s : Skeleton) (bone : Option BoneId) : Prop := ∀ id, bone = some id → id < s.size

variable {s : Skeleton} {a b c upper lower : Option BoneId} {bone child other : BoneId}

/-! ### Above is an order -/

theorem head?_ancestors (s : Skeleton) (a : Option BoneId) : (s.ancestors a).head? = a := by
  cases a with
  | none => rfl
  | some bone => rw [ancestors_some, List.head?_cons]

theorem parentOf_suffix (s : Skeleton) (a : Option BoneId) :
    s.ancestors (s.parentOf a) <:+ s.ancestors a := by
  cases a with
  | none => exact List.suffix_rfl
  | some bone =>
    rw [ancestors_some]
    exact List.suffix_cons bone _

/-- **What is above a bone is what its chain runs through**, down to the end of the chain. -/
theorem above_iff_suffix : s.Above upper lower ↔ s.ancestors upper <:+ s.ancestors lower := by
  constructor
  · intro h
    induction h with
    | refl => exact List.suffix_rfl
    | step _ ih => exact ih.trans (s.parentOf_suffix _)
  · intro h
    have hroot : s.ancestors upper <:+ s.ancestors none → s.Above upper none := by
      intro h
      have hupper := s.head?_ancestors upper
      rw [List.suffix_nil.mp h] at hupper
      rw [← hupper]
      exact .refl
    cases lower with
    | none => exact hroot h
    | some bone =>
      -- the number of the bone falls with each step towards the root
      induction bone using Nat.strongRecOn with
      | _ bone ih =>
        rw [ancestors_some, List.suffix_cons_iff] at h
        rcases h with heq | h
        · have hupper := s.head?_ancestors upper
          rw [heq, List.head?_cons] at hupper
          rw [← hupper]
          exact .refl
        · cases hparent : s.parentOf (some bone) with
          | none =>
            rw [hparent] at h
            exact .step (hparent ▸ hroot h)
          | some parent =>
            rw [hparent] at h
            exact .step (hparent ▸ ih parent (s.parentOf_lt hparent) h)

theorem above_some_iff_mem : s.Above (some bone) lower ↔ bone ∈ s.ancestors lower := by
  rw [above_iff_suffix]
  constructor
  · intro h
    apply h.subset
    rw [ancestors_some]
    exact List.mem_cons_self
  · exact ancestors_suffix

theorem above_root (s : Skeleton) (lower : Option BoneId) : s.Above none lower :=
  above_iff_suffix.mpr List.nil_suffix

theorem isAncestorOrSelf_iff (s : Skeleton) (upper lower : Option BoneId) :
    s.isAncestorOrSelf upper lower = true ↔ s.Above upper lower := by
  cases upper with
  | none => exact ⟨fun _ => s.above_root lower, fun _ => rfl⟩
  | some bone => rw [isAncestorOrSelf, List.contains_iff_mem, above_some_iff_mem]

theorem Above.trans (hab : s.Above a b) (hbc : s.Above b c) : s.Above a c :=
  above_iff_suffix.mpr ((above_iff_suffix.mp hab).trans (above_iff_suffix.mp hbc))

theorem Above.antisymm (hab : s.Above a b) (hba : s.Above b a) : a = b := by
  have hsuffix := above_iff_suffix.mp hab
  have hchain := hsuffix.eq_of_length_le (above_iff_suffix.mp hba).length_le
  rw [← s.head?_ancestors a, ← s.head?_ancestors b, hchain]

/-- Bones above which the same bones are, are the same. -/
theorem eq_of_above_iff (h : ∀ c, s.Above c a ↔ s.Above c b) : a = b :=
  ((h a).mp .refl).antisymm ((h b).mpr .refl)

/-- What is above one bone is ordered in a line. -/
theorem Above.total (ha : s.Above a lower) (hb : s.Above b lower) : s.Above a b ∨ s.Above b a := by
  simp only [above_iff_suffix] at ha hb ⊢
  exact List.suffix_or_suffix_of_suffix ha hb

theorem Has.parentOf (h : s.Has a) : s.Has (s.parentOf a) := by
  intro parent hparent
  cases a with
  | none => simp [Skeleton.parentOf] at hparent
  | some bone => exact Nat.lt_trans (s.parentOf_lt hparent) (h bone rfl)

theorem Has.of_above (h : s.Has lower) (habove : s.Above upper lower) : s.Has upper := by
  induction habove with
  | refl => exact h
  | step _ ih => exact ih h.parentOf

/-! ### The common ancestor -/

/-- **The common ancestor is the lowest bone above both.** -/
theorem above_commonAncestor_iff :
    s.Above c (s.commonAncestor a b) ↔ s.Above c a ∧ s.Above c b := by
  simp only [above_iff_suffix]
  obtain ⟨ha, hb⟩ := s.commonAncestor_suffix a b
  exact ⟨fun h => ⟨h.trans ha, h.trans hb⟩, fun h => suffix_commonAncestor h.1 h.2⟩

theorem commonAncestor_comm (s : Skeleton) (a b : Option BoneId) :
    s.commonAncestor a b = s.commonAncestor b a := by
  apply s.eq_of_above_iff
  intro c
  rw [above_commonAncestor_iff, above_commonAncestor_iff, and_comm]

theorem commonAncestor_assoc (s : Skeleton) (a b c : Option BoneId) :
    s.commonAncestor (s.commonAncestor a b) c = s.commonAncestor a (s.commonAncestor b c) := by
  apply s.eq_of_above_iff
  intro d
  simp only [above_commonAncestor_iff, and_assoc]

/-! ### Steps down -/

/-- Of the bones above one bone no two hang from the same. -/
theorem eq_of_parentOf_eq (hchild : s.Above (some child) lower) (hother : s.Above (some other) lower)
    (hparent : s.parentOf (some child) = s.parentOf (some other)) : child = other := by
  have hlength : (s.ancestors (some child)).length = (s.ancestors (some other)).length := by
    rw [ancestors_some, ancestors_some, hparent, List.length_cons, List.length_cons]
  have hchains : s.ancestors (some child) = s.ancestors (some other) := by
    rcases hchild.total hother with h | h
    · exact (above_iff_suffix.mp h).eq_of_length hlength
    · exact ((above_iff_suffix.mp h).eq_of_length hlength.symm).symm
  have hheads := congrArg List.head? hchains
  rw [head?_ancestors, head?_ancestors] at hheads
  exact Option.some.inj hheads

theorem parentOf_ne_of_above (h : s.Above (some child) lower) : s.parentOf (some child) ≠ lower := by
  rintro rfl
  have hlength := (above_iff_suffix.mp h).length_le
  rw [ancestors_some, List.length_cons] at hlength
  omega

/-- **The step down** is the one bone below the upper one that is above the lower one. -/
theorem stepDownTowards_eq_some_iff :
    s.stepDownTowards upper lower = some child ↔
      s.parentOf (some child) = upper ∧ s.Above (some child) lower := by
  unfold stepDownTowards
  split
  · rename_i heq
    subst heq
    simp only [reduceCtorEq, false_iff, not_and]
    intro hparent habove
    exact parentOf_ne_of_above habove hparent
  · constructor
    · intro h
      have hparent := List.find?_some h
      exact ⟨of_decide_eq_true hparent, above_some_iff_mem.mpr (List.mem_of_find?_eq_some h)⟩
    · rintro ⟨hparent, habove⟩
      cases hfound : (s.ancestors lower).find? fun bone => s.parentOf (some bone) = upper with
      | none =>
        have hnone := List.find?_eq_none.mp hfound child (above_some_iff_mem.mp habove)
        simp [hparent] at hnone
      | some found =>
        have hfoundParent : s.parentOf (some found) = upper := by
          simpa using List.find?_some hfound
        have hfoundAbove := above_some_iff_mem.mpr (List.mem_of_find?_eq_some hfound)
        rw [eq_of_parentOf_eq hfoundAbove habove (hfoundParent.trans hparent.symm)]

/-- From a bone to one below it there is a way down. -/
theorem exists_stepDownTowards (h : s.Above upper lower) (hne : upper ≠ lower) :
    ∃ child, s.stepDownTowards upper lower = some child := by
  have hchild : ∃ child, s.parentOf (some child) = upper ∧ s.Above (some child) lower := by
    induction h with
    | refl => exact absurd rfl hne
    | step hstep ih =>
      rename_i lower
      by_cases hparent : upper = s.parentOf lower
      · cases lower with
        | none => exact absurd hparent hne
        | some bone => exact ⟨bone, hparent.symm, .refl⟩
      · obtain ⟨child, hchild, habove⟩ := ih hparent
        exact ⟨child, hchild, habove.trans (.step .refl)⟩
  obtain ⟨child, hchild⟩ := hchild
  exact ⟨child, stepDownTowards_eq_some_iff.mpr hchild⟩

/-- A step down leads away from the bone where it starts, unless it starts where it is to lead. -/
theorem stepDownTowards_ne (s : Skeleton) (h : lower ≠ upper) :
    s.stepDownTowards upper lower ≠ upper := by
  intro hsame
  cases upper with
  | some bone =>
    obtain ⟨hparent, _⟩ := stepDownTowards_eq_some_iff.mp hsame
    exact parentOf_ne_of_above .refl hparent
  | none =>
    obtain ⟨child, hchild⟩ := exists_stepDownTowards (s.above_root lower) h.symm
    rw [hchild] at hsame
    simp at hsame

/-- **Tree queries on bones are correct.**  The test for ancestors tells what is above a bone. The
common ancestor of two bones is above both, and below all that is above both; it does not depend on
the order of the bones, nor on which two of three come first. If one bone is above another one, the
step down leads to the only bone that hangs from the upper one and is above the lower one. What the
queries answer exists, if what they were asked for does. -/
theorem tree_queries (s : Skeleton) (a b : Option BoneId) :
    (s.isAncestorOrSelf a b = true ↔ s.Above a b) ∧
      (s.Above (s.commonAncestor a b) a ∧ s.Above (s.commonAncestor a b) b ∧
        ∀ c, s.Above c a → s.Above c b → s.Above c (s.commonAncestor a b)) ∧
      s.commonAncestor a b = s.commonAncestor b a ∧
      (∀ c, s.commonAncestor (s.commonAncestor a b) c =
        s.commonAncestor a (s.commonAncestor b c)) ∧
      (s.Above a b → a ≠ b → ∃ child, s.stepDownTowards a b = some child ∧
        s.parentOf (some child) = a ∧ s.Above (some child) b ∧
        ∀ other, s.parentOf (some other) = a → s.Above (some other) b → other = child) ∧
      (s.Has a → s.Has (s.commonAncestor a b)) ∧ (s.Has b → s.Has (s.stepDownTowards a b)) := by
  obtain ⟨habove, hbelow⟩ := above_commonAncestor_iff.mp (.refl : s.Above (s.commonAncestor a b) _)
  refine ⟨s.isAncestorOrSelf_iff a b, ⟨habove, hbelow, ?_⟩, s.commonAncestor_comm a b,
    s.commonAncestor_assoc a b, ?_, fun ha => ha.of_above habove, ?_⟩
  · exact fun c ha hb => above_commonAncestor_iff.mpr ⟨ha, hb⟩
  · intro hab hne
    obtain ⟨child, hchild⟩ := exists_stepDownTowards hab hne
    obtain ⟨hparent, hchildAbove⟩ := stepDownTowards_eq_some_iff.mp hchild
    refine ⟨child, hchild, hparent, hchildAbove, fun other hother hotherAbove => ?_⟩
    exact eq_of_parentOf_eq hotherAbove hchildAbove (hother.trans hparent.symm)
  · intro hb
    cases hstep : s.stepDownTowards a b with
    | none => intro id hid; simp at hid
    | some child => exact hb.of_above (stepDownTowards_eq_some_iff.mp hstep).2

/-- An arm and a head on a spine: the spine is what they have in common, and from the root the way
to the arm goes down to the spine. -/
example : (do
    let skeleton ← Skeleton.empty.add? ⟨"root", none, {}⟩
    let skeleton ← skeleton.add? ⟨"spine", some 0, {}⟩
    let skeleton ← skeleton.add? ⟨"arm", some 1, {}⟩
    let skeleton ← skeleton.add? ⟨"head", some 1, {}⟩
    return (skeleton.commonAncestor (some 2) (some 3), skeleton.stepDownTowards (some 0) (some 2))) =
    some (some 1, some 1) := by
  cbv

end SceneCompiler.Skeleton
