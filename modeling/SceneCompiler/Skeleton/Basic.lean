import SceneCompiler.Space.Pose

/-!
# Skeletons

A skeleton is a list of bones, each under the root of the model or under an earlier bone. A bone is
known by its place in the list, and the root of the model by `none`.

The order of the list is what makes walks towards the root end: a parent has a smaller number than
its children. The type keeps this as an invariant, and `add?` refuses a bone whose parent is not
there yet.

Beside the bones stand the lists of their children. Each bone that comes is put at the end of its
parent's list, and that these are then all children in ascending order is the other invariant of the
type.
-/

namespace SceneCompiler

/-- A bone by its place in the skeleton. -/
abbrev BoneId := Nat

/-- Two bones between which faces are stretched, or one bone twice. -/
abbrev BonePair := Option BoneId × Option BoneId

/-- A bone: its name, what it hangs from, and its pose relative to that. -/
structure Bone where
  name : String
  parent : Option BoneId
  rest : Pose

/-- Of some bones, the ones that hang from a given one. -/
def hangingFrom (bones : List Bone) (parent : BoneId) : List BoneId :=
  (List.range bones.length).filter fun child => bones[child]?.bind (·.parent) = some parent

/-- For each of some bones, the ones that hang from it. -/
def childListsOf (bones : List Bone) : List (List BoneId) :=
  (List.range bones.length).map (hangingFrom bones)

/-- A forest of bones under the root of the model. -/
structure Skeleton where
  bones : List Bone
  /-- A parent comes before its children. -/
  parent_lt : ∀ (child parent : BoneId) (bone : Bone),
    bones[child]? = some bone → bone.parent = some parent → parent < child
  /-- For each bone, the ones that hang from it, in the order in which they came. -/
  childLists : List (List BoneId) := childListsOf bones
  childLists_eq : childLists = childListsOf bones := by rfl

namespace Skeleton

def empty : Skeleton where
  bones := []
  parent_lt := by simp

/-- The number of bones, which is also the number the next bone will have. -/
def size (s : Skeleton) : Nat := s.bones.length

/-- The lists of children when one more bone comes. -/
def childListsWith (childLists : List (List BoneId)) (bone : Bone) (id : BoneId) :
    List (List BoneId) :=
  match bone.parent with
  | some parent => childLists.modify parent (· ++ [id]) ++ [[]]
  | none => childLists ++ [[]]

theorem hangingFrom_append (bones : List Bone) (bone : Bone) (parent : BoneId) :
    hangingFrom (bones ++ [bone]) parent =
      hangingFrom bones parent ++ if bone.parent = some parent then [bones.length] else [] := by
  rw [hangingFrom, List.length_append, List.length_singleton, List.range_succ, List.filter_append]
  congr 1
  · refine List.filter_congr fun child hchild => ?_
    rw [List.getElem?_append_left (List.mem_range.mp hchild)]
  · simp [List.filter_cons]

/-- Since parents come first, nothing hangs from a bone that is still to come. -/
theorem hangingFrom_length {bones : List Bone}
    (h : ∀ (child parent : BoneId) (bone : Bone),
      bones[child]? = some bone → bone.parent = some parent → parent < child) :
    hangingFrom bones bones.length = [] := by
  rw [hangingFrom, List.filter_eq_nil_iff]
  intro child hchild hparent
  obtain ⟨bone, hbone, hlength⟩ := Option.bind_eq_some_iff.mp (of_decide_eq_true hparent)
  exact Nat.lt_asymm (h child _ bone hbone hlength) (List.mem_range.mp hchild)

/-- A bone under an earlier one is the last child of its parent, and has no children yet. -/
theorem childListsOf_append {bones : List Bone} {bone : Bone}
    (hbones : ∀ (child parent : BoneId) (other : Bone),
      bones[child]? = some other → other.parent = some parent → parent < child)
    (hbone : ∀ parent, bone.parent = some parent → parent < bones.length) :
    childListsOf (bones ++ [bone]) = childListsWith (childListsOf bones) bone bones.length := by
  have hself : bone.parent ≠ some bones.length := fun h => Nat.lt_irrefl _ (hbone _ h)
  have hsplit : childListsOf (bones ++ [bone]) =
      (List.range bones.length).map (hangingFrom (bones ++ [bone])) ++ [[]] := by
    rw [childListsOf, List.length_append, List.length_singleton, List.range_succ, List.map_append]
    simp [hangingFrom_append, hangingFrom_length hbones, hself]
  rw [hsplit, childListsWith]
  cases hparent : bone.parent with
  | none => simp [childListsOf, hangingFrom_append, hparent]
  | some parent =>
    congr 1
    apply List.ext_getElem
    · simp [childListsOf]
    · intro i _ _
      by_cases hi : parent = i
      · simp [childListsOf, hangingFrom_append, hparent, hi]
      · simp [childListsOf, hangingFrom_append, hparent, hi]

/-- The skeleton with one bone more, unless the bone hangs from one that does not exist. -/
def add? (s : Skeleton) (bone : Bone) : Option Skeleton :=
  if h : ∀ parent, bone.parent = some parent → parent < s.size then
    some {
      bones := s.bones ++ [bone]
      parent_lt := by
        intro child parent found hfound hparent
        rw [List.getElem?_append] at hfound
        split at hfound
        · exact s.parent_lt child parent found hfound hparent
        · rename_i hchild
          rw [List.getElem?_singleton] at hfound
          split at hfound
          · rename_i hplace
            obtain rfl := Option.some.inj hfound
            exact Nat.lt_of_lt_of_le (h parent hparent) (Nat.le_of_not_lt hchild)
          · simp at hfound
      childLists := childListsWith s.childLists bone s.size
      childLists_eq := by
        rw [s.childLists_eq]
        exact (childListsOf_append s.parent_lt h).symm }
  else none

def bone? (s : Skeleton) (id : BoneId) : Option Bone := s.bones[id]?

/-- The number of the bone with a name; of several, the last one. -/
def find? (s : Skeleton) (name : String) : Option BoneId :=
  (List.range s.size).reverse.find? fun id => (s.bone? id).any (·.name = name)

/-- The name of a bone, or of the root of the model. -/
def nameOf (s : Skeleton) (bone : Option BoneId) : String :=
  match bone.bind s.bone? with
  | some found => found.name
  | none => "<root>"

/-- What a bone hangs from. The root of the model hangs from itself. -/
def parentOf (s : Skeleton) (bone : Option BoneId) : Option BoneId :=
  (bone.bind s.bone?).bind (·.parent)

/-- The bones that hang from a bone. Those that hang from the root of the model are in no list and
have to be looked for. -/
def children (s : Skeleton) (bone : Option BoneId) : List BoneId :=
  match bone with
  | some bone => s.childLists[bone]?.getD []
  | none => (List.range s.size).filter fun id => s.parentOf (some id) = none

theorem parentOf_lt (s : Skeleton) {bone parent : BoneId}
    (h : s.parentOf (some bone) = some parent) : parent < bone := by
  simp only [parentOf, Option.bind_some, bone?] at h
  obtain ⟨found, hfound, hparent⟩ := Option.bind_eq_some_iff.mp h
  exact s.parent_lt bone parent found hfound hparent

/-- The children of a bone are all bones that hang from it, in ascending order. -/
theorem children_eq (s : Skeleton) (bone : Option BoneId) :
    s.children bone = (List.range s.size).filter fun id => s.parentOf (some id) = bone := by
  cases bone with
  | none => rfl
  | some parent =>
    rw [children, s.childLists_eq, childListsOf, List.getElem?_map]
    by_cases hparent : parent < s.bones.length
    · rw [List.getElem?_range hparent]
      rfl
    · rw [List.getElem?_eq_none (by simpa using hparent)]
      symm
      rw [Option.map_none, Option.getD_none, List.filter_eq_nil_iff]
      intro id hid hhangs
      have hlt := s.parentOf_lt (of_decide_eq_true hhangs)
      exact hparent (Nat.lt_trans hlt (List.mem_range.mp hid))

/-- The poses of the bones in the frame of the exported vertices: positions are scaled, and the
bones under the root of the model are turned. -/
def exportedPoses (s : Skeleton) (scale : Float32) (rotation : Rotation) : List Pose :=
  s.bones.map fun bone =>
    bone.rest.reframed (if bone.parent.isSome then Rotation.identity else rotation) scale

end Skeleton

end SceneCompiler
