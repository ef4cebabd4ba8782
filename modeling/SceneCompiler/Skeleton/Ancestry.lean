import SceneCompiler.Skeleton.Basic

/-!
# Ancestry

All questions about the shape of a skeleton are asked of the chain of a bone: the bone itself, then
its parent, and so on up to the bone that hangs from the root of the model. The chain of the root
is empty.
-/

namespace SceneCompiler.Skeleton

def chainFrom (s : Skeleton) (bone : BoneId) : List BoneId :=
  match _h : s.parentOf (some bone) with
  | some parent => bone :: s.chainFrom parent
  | none => [bone]
termination_by bone
decreasing_by exact s.parentOf_lt _h

/-- A bone and what is above it, the bone itself first. -/
def ancestors (s : Skeleton) (bone : Option BoneId) : List BoneId :=
  match bone with
  | some bone => s.chainFrom bone
  | none => []

theorem ancestors_some (s : Skeleton) (bone : BoneId) :
    s.ancestors (some bone) = bone :: s.ancestors (s.parentOf (some bone)) := by
  rw [ancestors, chainFrom]
  split
  · rename_i parent h
    rw [h]
    rfl
  · rename_i h
    rw [h]
    rfl

/-- The number of bones from the root of the model down to a bone, which itself counts. -/
def depth (s : Skeleton) (bone : Option BoneId) : Nat := (s.ancestors bone).length

def pathFromRoot (s : Skeleton) (bone : Option BoneId) : List BoneId := (s.ancestors bone).reverse

/-- Whether a bone is another one or above it. The root of the model is above every bone. -/
def isAncestorOrSelf (s : Skeleton) (ancestor descendant : Option BoneId) : Bool :=
  match ancestor with
  | none => true
  | some bone => (s.ancestors descendant).contains bone

/-- The lowest bone that is `a` or above it and also `b` or above it. -/
def commonAncestor (s : Skeleton) (a b : Option BoneId) : Option BoneId :=
  (s.ancestors a).find? fun bone => (s.ancestors b).contains bone

/-- The child of `ancestor` that is `descendant` or above it, given that `ancestor` is above
`descendant`. There is none if the two are equal. -/
def stepDownTowards (s : Skeleton) (ancestor descendant : Option BoneId) : Option BoneId :=
  if ancestor = descendant then none
  else (s.ancestors descendant).find? fun bone => s.parentOf (some bone) = ancestor

/-- How many matrices are taken off and put on when the matrix stack moves between two bones. -/
def traversalCounts (s : Skeleton) (source target : Option BoneId) : Nat × Nat :=
  let common := s.depth (s.commonAncestor source target)
  (s.depth source - common, s.depth target - common)

end SceneCompiler.Skeleton
