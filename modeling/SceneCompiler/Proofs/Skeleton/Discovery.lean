import Mathlib.Data.Finset.Card
import Mathlib.Logic.Function.Iterate
import Mathlib.Logic.Relation
import SceneCompiler.Proofs.Skeleton.Ancestry
import SceneCompiler.Skeleton.Discovery

/-!
# The order of discovery

The bones of a node graph have a recursive definition: a node is visited before its children, these
in the order in which they are declared, each with all that is below it, and a bone hangs from the
nearest bone above it (`Skeleton.Finds`). The walk keeps no such recursion. What stands last on its
worklist is visited first, and when the nodes there and all below them have been visited, the bones
are those of the recursive definition and the rest of the worklist is as it was
(`Skeleton.Clears`).

Where no way down meets a node twice, no way down has more nodes than there are, so the steps that
`discover?` allows are enough (`Skeleton.discover?_preorder`).
-/

namespace SceneCompiler.Skeleton

variable {nodes : List SceneNode} {isBone : String → Bool} {node : SceneNode} {first : Nat}
  {above : Option BoneId} {place steps : Nat} {places more : List Nat} {bones after : List Bone}

/-! ### The recursive definition -/

/-- Visits to some places below a bone, one after the other, find these bones. The first of them
has the number `first`, and the others count on from there. -/
inductive Finds (nodes : List SceneNode) (isBone : String → Bool) :
    Nat → Option BoneId → List Nat → List Bone → Prop
  | nil {first : Nat} {above : Option BoneId} : Finds nodes isBone first above [] []
  | missing {first : Nat} {above : Option BoneId} {place : Nat} {places : List Nat}
      {after : List Bone} (hnode : nodes[place]? = none)
      (later : Finds nodes isBone first above places after) :
      Finds nodes isBone first above (place :: places) after
  | bone {first : Nat} {above : Option BoneId} {place : Nat} {places : List Nat}
      {node : SceneNode} {lower after : List Bone} (hnode : nodes[place]? = some node)
      (hbone : isBone node.name = true)
      (below : Finds nodes isBone (first + 1) (some first) node.children lower)
      (later : Finds nodes isBone (first + 1 + lower.length) above places after) :
      Finds nodes isBone first above (place :: places) (boneOfNode node above :: (lower ++ after))
  | transparent {first : Nat} {above : Option BoneId} {place : Nat} {places : List Nat}
      {node : SceneNode} {lower after : List Bone} (hnode : nodes[place]? = some node)
      (hbone : isBone node.name = false)
      (below : Finds nodes isBone first above node.children lower)
      (later : Finds nodes isBone (first + lower.length) above places after) :
      Finds nodes isBone first above (place :: places) (lower ++ after)

theorem Finds.append (h : Finds nodes isBone first above places bones)
    (hmore : Finds nodes isBone (first + bones.length) above more after) :
    Finds nodes isBone first above (places ++ more) (bones ++ after) := by
  induction h with
  | nil => exact hmore
  | missing hnode _ ih => exact .missing hnode (ih hmore)
  | bone hnode hbone below _ _ ih =>
    simp only [List.cons_append, List.append_assoc]
    refine .bone hnode hbone below (ih ?_)
    convert hmore using 1
    simp only [List.length_cons, List.length_append]
    omega
  | transparent hnode hbone below _ _ ih =>
    simp only [List.cons_append, List.append_assoc]
    refine .transparent hnode hbone below (ih ?_)
    rwa [List.length_append, ← Nat.add_assoc] at hmore

/-- The recursive definition gives one list of bones. -/
theorem Finds.unique {others : List Bone} (h : Finds nodes isBone first above places bones)
    (hothers : Finds nodes isBone first above places others) : bones = others := by
  induction h generalizing others with
  | nil =>
    cases hothers
    rfl
  | missing hnode _ ih =>
    cases hothers with
    | missing _ later => exact ih later
    | bone hnode' => simp [hnode] at hnode'
    | transparent hnode' => simp [hnode] at hnode'
  | bone hnode hbone _ _ ihbelow ihlater =>
    cases hothers with
    | missing hnode' => simp [hnode] at hnode'
    | bone hnode' _ below later =>
      obtain rfl := Option.some.inj (hnode.symm.trans hnode')
      obtain rfl := ihbelow below
      rw [ihlater later]
    | transparent hnode' hbone' =>
      obtain rfl := Option.some.inj (hnode.symm.trans hnode')
      simp [hbone] at hbone'
  | transparent hnode hbone _ _ ihbelow ihlater =>
    cases hothers with
    | missing hnode' => simp [hnode] at hnode'
    | bone hnode' hbone' =>
      obtain rfl := Option.some.inj (hnode.symm.trans hnode')
      simp [hbone] at hbone'
    | transparent hnode' _ below later =>
      obtain rfl := Option.some.inj (hnode.symm.trans hnode')
      obtain rfl := ihbelow below
      rw [ihlater later]

/-! ### Steps of the walk -/

theorem step_missing (h : nodes[place]? = none) (found : Skeleton)
    (rest : List (Nat × Option BoneId)) :
    Walk.step nodes isBone ⟨found, rest ++ [(place, above)]⟩ = ⟨found, rest⟩ := by
  simp [Walk.step, h]

theorem step_node (h : nodes[place]? = some node) (found : Skeleton)
    (rest : List (Nat × Option BoneId)) :
    Walk.step nodes isBone ⟨found, rest ++ [(place, above)]⟩ =
      ⟨(visit isBone found node above).1, rest ++ node.children.reverse.map fun child =>
        (child, (visit isBone found node above).2)⟩ := by
  simp [Walk.step, h]

theorem visit_transparent (h : isBone node.name = false) (found : Skeleton) :
    visit isBone found node above = (found, above) := by
  simp [visit, h]

theorem exists_add? {found : Skeleton} {bone : Bone} (h : found.Has bone.parent) :
    ∃ grown, found.add? bone = some grown ∧ grown.bones = found.bones ++ [bone] :=
  ⟨_, dif_pos h, rfl⟩

theorem visit_bone {found : Skeleton} (h : isBone node.name = true) (habove : found.Has above) :
    ∃ grown, visit isBone found node above = (grown, some found.size) ∧
      grown.bones = found.bones ++ [boneOfNode node above] := by
  have hparent : found.Has (boneOfNode node above).parent := habove
  obtain ⟨grown, hadd, hbones⟩ := exists_add? hparent
  refine ⟨grown, ?_, hbones⟩
  rw [visit, if_pos h, hadd]

theorem Walk.finish?_of_iterate {walk : Walk} {grown : Skeleton}
    (h : (Walk.step nodes isBone)^[steps] walk = ⟨grown, []⟩) :
    walk.finish? nodes isBone steps = some grown := by
  induction steps generalizing walk with
  | zero =>
    obtain rfl : walk = ⟨grown, []⟩ := h
    rfl
  | succ steps ih =>
    rw [Walk.finish?]
    split
    · rename_i hempty
      -- a walk with nothing to visit stays as it is
      have hstays : Walk.step nodes isBone walk = walk := by
        rw [Walk.step, List.isEmpty_iff.mp hempty]
        rfl
      rw [Function.iterate_fixed hstays] at h
      rw [h]
    · exact ih h

/-! ### From steps to runs -/

/-- Whatever is under some places on the worklist, in so many steps the walk has visited the places
and all that is below them, has found the bones of the recursive definition, and is to go on with
the rest. -/
def Clears (nodes : List SceneNode) (isBone : String → Bool) (places : List Nat) (steps : Nat) :
    Prop :=
  ∀ (found : Skeleton) (above : Option BoneId), found.Has above →
    ∃ grown bones, Finds nodes isBone found.size above places bones ∧
      grown.bones = found.bones ++ bones ∧ ∀ rest,
        (Walk.step nodes isBone)^[steps]
          ⟨found, rest ++ places.reverse.map fun place => (place, above)⟩ = ⟨grown, rest⟩

theorem size_of_bones_eq {found grown : Skeleton} (h : grown.bones = found.bones ++ bones) :
    grown.size = found.size + bones.length := by
  rw [size, h, List.length_append]
  rfl

theorem Clears.nil : Clears nodes isBone [] 0 :=
  fun found _ _ => ⟨found, [], .nil, by simp, by simp⟩

theorem Clears.append {moreSteps : Nat} (h : Clears nodes isBone places steps)
    (hmore : Clears nodes isBone more moreSteps) :
    Clears nodes isBone (places ++ more) (steps + moreSteps) := by
  intro found above habove
  obtain ⟨grown, bones, hfinds, hbones, hrun⟩ := h found above habove
  have hsize := size_of_bones_eq hbones
  have habove' : grown.Has above := fun id hid => by
    rw [hsize]
    exact Nat.lt_add_right _ (habove id hid)
  obtain ⟨grown', bones', hfinds', hbones', hrun'⟩ := hmore grown above habove'
  rw [hsize] at hfinds'
  refine ⟨grown', bones ++ bones', hfinds.append hfinds', ?_, fun rest => ?_⟩
  · rw [hbones', hbones, List.append_assoc]
  · -- the worklist is read from its end, so the first places stand last
    rw [List.reverse_append, List.map_append, ← List.append_assoc, Nat.add_comm,
      Function.iterate_add_apply, hrun, hrun']

theorem Clears.missing (h : nodes[place]? = none) : Clears nodes isBone [place] 1 :=
  fun found _ _ => ⟨found, [], .missing h .nil, by simp, step_missing h found⟩

/-- **A node is cleared** by one step more than its children. -/
theorem Clears.singleton (h : nodes[place]? = some node)
    (hchildren : Clears nodes isBone node.children steps) :
    Clears nodes isBone [place] (1 + steps) := by
  intro found above habove
  have hstep : ∀ rest, (Walk.step nodes isBone)^[1 + steps]
      ⟨found, rest ++ [place].reverse.map fun place => (place, above)⟩ =
      (Walk.step nodes isBone)^[steps] ⟨(visit isBone found node above).1,
        rest ++ node.children.reverse.map fun child =>
          (child, (visit isBone found node above).2)⟩ := by
    intro rest
    rw [Nat.add_comm, Function.iterate_succ_apply]
    exact congrArg _ (step_node h found rest)
  cases hbone : isBone node.name with
  | false =>
    obtain ⟨grown, bones, hfinds, hbones, hrun⟩ := hchildren found above habove
    refine ⟨grown, bones, ?_, hbones, fun rest => ?_⟩
    · simpa using Finds.transparent h hbone hfinds .nil
    · rw [hstep, visit_transparent hbone, hrun]
  | true =>
    obtain ⟨visited, hvisit, hvisited⟩ := visit_bone hbone habove
    have hsize : visited.size = found.size + 1 := size_of_bones_eq hvisited
    have hown : visited.Has (some found.size) := by
      intro id hid
      obtain rfl := Option.some.inj hid
      rw [hsize]
      exact Nat.lt_succ_self _
    obtain ⟨grown, bones, hfinds, hbones, hrun⟩ := hchildren visited _ hown
    rw [hsize] at hfinds
    refine ⟨grown, boneOfNode node above :: bones, ?_, ?_, fun rest => ?_⟩
    · simpa using Finds.bone h hbone hfinds .nil
    · rw [hbones, hvisited, List.append_assoc, List.singleton_append]
    · rw [hstep, hvisit, hrun]

theorem Clears.list {children : List Nat} {count : Nat → Nat}
    (h : ∀ child ∈ children, Clears nodes isBone [child] (count child)) :
    Clears nodes isBone children
      (children.foldr (fun child later => count child + later) 0) := by
  induction children with
  | nil => exact .nil
  | cons child children ih =>
    rw [List.forall_mem_cons] at h
    exact h.1.append (ih h.2)

/-! ### Graphs without cycles -/

def HasChild (nodes : List SceneNode) (parent child : Nat) : Prop :=
  ∃ node, nodes[parent]? = some node ∧ child ∈ node.children

/-- No way down from a place comes to a cycle. -/
def AcyclicFrom (nodes : List SceneNode) (start : Nat) : Prop :=
  ∀ place, Relation.ReflTransGen (HasChild nodes) start place →
    ¬ Relation.TransGen (HasChild nodes) place place

theorem AcyclicFrom.child {child : Nat} (h : AcyclicFrom nodes place)
    (hchild : HasChild nodes place child) : AcyclicFrom nodes child :=
  fun lower hlower => h lower (hlower.head hchild)

/-- Where children come after their parents in the list, there are no cycles. -/
theorem acyclicFrom_of_lt {start : Nat}
    (h : ∀ place (hplace : place < nodes.length), ∀ child ∈ nodes[place].children, place < child) :
    AcyclicFrom nodes start := by
  have hdown : ∀ {upper lower}, HasChild nodes upper lower → upper < lower := by
    rintro upper lower ⟨node, hnode, hlower⟩
    obtain ⟨hupper, rfl⟩ := List.getElem?_eq_some_iff.mp hnode
    exact h upper hupper lower hlower
  have hway : ∀ {upper lower}, Relation.TransGen (HasChild nodes) upper lower → upper < lower := by
    intro upper lower hway
    induction hway with
    | single hstep => exact hdown hstep
    | tail _ hstep ih => exact ih.trans (hdown hstep)
  exact fun place _ hcycle => Nat.lt_irrefl place (hway hcycle)

/-- **Without cycles the budget is enough.**  The places on the way down to a place are all
different, so that `length`, which falls from node to node, does not run out. -/
theorem clears_of_acyclicFrom {length : Nat} {way : Finset Nat} (hacyclic : AcyclicFrom nodes place)
    (hway : way ⊆ Finset.range nodes.length)
    (habove : ∀ upper ∈ way, Relation.TransGen (HasChild nodes) upper place)
    (hlength : nodes.length < way.card + length) :
    Clears nodes isBone [place] (visits nodes length place) := by
  induction length generalizing place way with
  | zero =>
    have hcard := Finset.card_le_card hway
    rw [Finset.card_range] at hcard
    omega
  | succ length ih =>
    rw [visits]
    cases hnode : nodes[place]? with
    | none => exact .missing hnode
    | some node =>
      refine Clears.singleton hnode (.list fun child hchild => ?_)
      have hbelow : HasChild nodes place child := ⟨node, hnode, hchild⟩
      -- a way that comes back to a place would be a cycle
      have hnew : place ∉ way := fun hplace => hacyclic place .refl (habove place hplace)
      refine ih (hacyclic.child hbelow) (?_ : insert place way ⊆ Finset.range nodes.length) ?_ ?_
      · rw [Finset.insert_subset_iff, Finset.mem_range]
        exact ⟨(List.getElem?_eq_some_iff.mp hnode).1, hway⟩
      · intro upper hupper
        rcases Finset.mem_insert.mp hupper with rfl | hupper
        · exact .single hbelow
        · exact (habove upper hupper).tail hbelow
      · rw [Finset.card_insert_of_notMem hnew]
        omega

/-- **Discovery is a pre-order walk.**  From a root below which there is no cycle it comes to its
end, and the bones, in the order of their numbers, are those of the recursive definition. A parent
has a smaller number than its children, and the children of a bone are in ascending order all bones
that hang from it. -/
theorem discover?_preorder (isBone : String → Bool) {root : Nat} (h : AcyclicFrom nodes root) :
    ∃ s, discover? nodes root isBone = some s ∧
      (∀ bones, Finds nodes isBone 0 none [root] bones ↔ bones = s.bones) ∧
      (∀ child parent, s.parentOf (some child) = some parent → parent < child) ∧
      ∀ bone, (s.children bone).Pairwise (· < ·) ∧
        ∀ child, child ∈ s.children bone ↔ child < s.size ∧ s.parentOf (some child) = bone := by
  have hclears : Clears nodes isBone [root] (visits nodes (nodes.length + 1) root) := by
    refine clears_of_acyclicFrom h (Finset.empty_subset _) ?_ ?_
    · simp
    · simp
  obtain ⟨s, bones, hfinds, hbones, hrun⟩ := hclears empty none (fun _ h => by simp at h)
  obtain rfl : s.bones = bones := hbones
  refine ⟨s, Walk.finish?_of_iterate (hrun []), ?_, fun _ _ => s.parentOf_lt, ?_⟩
  · intro bones
    constructor
    · exact fun hother => hother.unique hfinds
    · rintro rfl
      exact hfinds
  · intro bone
    rw [children_eq]
    refine ⟨List.pairwise_lt_range.filter _, fun child => ?_⟩
    rw [List.mem_filter, List.mem_range, decide_eq_true_eq]

/-! ### A puppet

An armature of a hip with a thigh and of a chest. The skin between the two is no bone and has the
thigh as its child too, and one child of the armature does not exist. -/

namespace Puppet

def part (name : String) (children : List Nat) : SceneNode := ⟨name, Matrix.identity, children⟩

def parts : List SceneNode :=
  [part "puppet" [1], part "armature" [3, 9, 2, 5], part "skin" [4], part "hip" [4], part "thigh" [],
    part "chest" []]

def isJoint (name : String) : Bool := ["hip", "thigh", "chest"].contains name

end Puppet

/-- The thigh is found twice: under the hip, and, through the skin, under the root of the model. -/
theorem discover?_preorder_of_puppet :
    AcyclicFrom Puppet.parts 0 ∧ ∃ s, discover? Puppet.parts 0 Puppet.isJoint = some s ∧
      s.bones.map (fun bone => (bone.name, bone.parent)) =
        [("hip", none), ("thigh", some 0), ("thigh", none), ("chest", none)] := by
  have hacyclic : AcyclicFrom Puppet.parts 0 := by
    apply acyclicFrom_of_lt
    decide
  obtain ⟨s, hs, hbones, _⟩ := discover?_preorder Puppet.isJoint hacyclic
  have hfinds : Finds Puppet.parts Puppet.isJoint 0 none [0] _ :=
    .transparent rfl rfl (.transparent rfl rfl (.bone rfl rfl (.bone rfl rfl .nil .nil)
      (.missing rfl (.transparent rfl rfl (.bone rfl rfl .nil .nil)
        (.bone rfl rfl .nil .nil)))) .nil) .nil
  refine ⟨hacyclic, s, hs, ?_⟩
  rw [← (hbones _).mp hfinds]
  rfl

end SceneCompiler.Skeleton
