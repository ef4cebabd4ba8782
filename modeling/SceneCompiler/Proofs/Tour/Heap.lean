import Mathlib.Data.List.Nodup
import Mathlib.Data.Multiset.AddSub
import SceneCompiler.Proofs.Tour.Run

/-!
# Heaps give out a greatest element

What a heap holds is the multiset of the elements of its array. A push adds an element to it and a
pop takes one out, whatever the order of the elements is (`Heap.stores`); so a heap gives back what
was put into it (`Heap.keeps`). If the order is total and transitive, what comes out is a greatest
element (`Heap.popsGreatest`).

Both moves of a heap carry a hole through a heap whose other places are in order
(`Heap.OrderedAround`): the place of the hole is skipped by every comparison, so its children are
compared with its parent.
-/

namespace SceneCompiler

namespace Frontier

variable {α : Type}

/-- What a frontier holds, as long as it is valid: nothing at first, an element more after it is
pushed, and an element less after it came out. -/
structure Stores (frontier : Frontier α) (Valid : frontier.Queue → Prop)
    (contents : frontier.Queue → Multiset α) : Prop where
  empty : Valid frontier.empty ∧ contents frontier.empty = 0
  push : ∀ queue a, Valid queue →
    Valid (frontier.push queue a) ∧ contents (frontier.push queue a) = a ::ₘ contents queue
  pop : ∀ queue a rest, Valid queue → frontier.pop? queue = some (a, rest) →
    Valid rest ∧ contents queue = a ::ₘ contents rest
  drained : ∀ queue, Valid queue → frontier.pop? queue = none → contents queue = 0

/-- What comes out of a frontier is a greatest one of the elements that it holds, and something
comes out unless it holds none. -/
def PopsGreatest (frontier : Frontier α) (order : α → α → Ordering) : Prop :=
  ∃ Valid contents, frontier.Stores Valid contents ∧
    ∀ queue a rest, Valid queue → frontier.pop? queue = some (a, rest) →
      ∀ b ∈ contents rest, (order b a).isLE = true

variable {frontier : Frontier α} {Valid : frontier.Queue → Prop}
  {contents : frontier.Queue → Multiset α}

theorem Stores.keeps (h : frontier.Stores Valid contents) (P : α → Prop) : frontier.Keeps P := by
  refine ⟨fun queue => Valid queue ∧ ∀ a ∈ contents queue, P a, ⟨h.empty.1, ?_⟩, ?_, ?_⟩
  · simp [h.empty.2]
  · rintro queue a ⟨hvalid, hall⟩ ha
    obtain ⟨hvalid, hcontents⟩ := h.push queue a hvalid
    refine ⟨hvalid, ?_⟩
    rw [hcontents]
    exact Multiset.forall_mem_cons.mpr ⟨ha, hall⟩
  · rintro queue a rest ⟨hvalid, hall⟩ hpop
    obtain ⟨hrest, hcontents⟩ := h.pop queue a rest hvalid hpop
    rw [hcontents] at hall
    obtain ⟨ha, hall⟩ := Multiset.forall_mem_cons.mp hall
    exact ⟨ha, hrest, hall⟩

end Frontier

namespace Heap

variable {α : Type} {order : α → α → Ordering}

/-! ### What a heap holds -/

def contents (heap : Array α) : Multiset α := (heap.toList : Multiset α)

/-- An element goes from one place to another, and a new one takes its place. -/
theorem contents_move {heap : Array α} {source target : Nat} {moved : α}
    (hmoved : heap[source]? = some moved) (htarget : target < heap.size) (hne : source ≠ target)
    (a : α) :
    contents ((heap.setIfInBounds target moved).setIfInBounds source a) =
      contents (heap.setIfInBounds target a) := by
  obtain ⟨hsource, rfl⟩ := Array.getElem?_eq_some_iff.mp hmoved
  have hswap : (((heap.toList.set target a).set target _).set source _).Perm
      (heap.toList.set target a) :=
    List.set_set_perm (i := target) (j := source) (by simpa using htarget) (by simpa using hsource)
  rw [List.getElem_set_self, List.getElem_set_ne hne.symm, List.set_set] at hswap
  simpa [contents] using hswap

theorem contents_climb {heap : Array α} {element : α} {hole : Nat} (h : hole < heap.size) :
    contents (climb order heap element hole) = contents (heap.setIfInBounds hole element) := by
  fun_induction climb order heap element hole with
  | case1 heap => rfl
  | case2 heap hole hne parent above habove hgt ih =>
    have hparent : parent < hole := by omega
    rw [ih (by simpa using hparent.trans h)]
    exact contents_move habove h hparent.ne element
  | case3 heap hole hne parent above habove hgt => rfl
  | case4 heap hole hne parent hnone =>
    have := Array.getElem?_eq_none_iff.mp hnone
    omega

theorem contents_sink (order : α → α → Ordering) {heap : Array α} {hole : Nat}
    (h : hole < heap.size) :
    (sink order heap hole).1.size = heap.size ∧ (sink order heap hole).2 < heap.size ∧
      ∀ a, contents ((sink order heap hole).1.setIfInBounds (sink order heap hole).2 a) =
        contents (heap.setIfInBounds hole a) := by
  fun_induction sink order heap hole with
  | case1 heap hole hright left right hgt ih =>
    obtain ⟨hsize, hlt, hcontents⟩ := ih (by simp; omega)
    rw [Array.size_setIfInBounds] at hsize hlt
    exact ⟨hsize, hlt, fun a => (hcontents a).trans
      (contents_move (Array.getElem?_eq_getElem (by omega)) h (by omega) a)⟩
  | case2 heap hole hright left right hgt ih =>
    obtain ⟨hsize, hlt, hcontents⟩ := ih (by simpa using hright)
    rw [Array.size_setIfInBounds] at hsize hlt
    exact ⟨hsize, hlt, fun a => (hcontents a).trans
      (contents_move (Array.getElem?_eq_getElem hright) h (by omega) a)⟩
  | case3 heap hole hright hleft =>
    exact ⟨by simp, hleft, fun a =>
      contents_move (Array.getElem?_eq_getElem hleft) h (by omega) a⟩
  | case4 heap hole hright hleft => exact ⟨rfl, h, fun a => rfl⟩

theorem contents_push (heap : Array α) (element : α) :
    contents (push order heap element) = element ::ₘ contents heap := by
  rw [push, contents_climb (by simp)]
  simp [contents]

theorem pop?_eq_none {heap : Array α} (h : pop? order heap = none) : heap = #[] := by
  unfold pop? at h
  split at h
  · rename_i hback
    exact Array.back?_eq_none_iff.mp hback
  · split at h <;> simp at h

/-- **What a pop does.**  It takes out the only element, or else the root, and puts the last element
in its place. -/
theorem pop?_eq_some {heap rest : Array α} {a : α} (h : pop? order heap = some (a, rest)) :
    ∃ front last, heap = front.push last ∧
      (front = #[] ∧ a = last ∧ rest = #[] ∨
        front[0]? = some a ∧
          rest = climb order (sink order front 0).1 last (sink order front 0).2) := by
  unfold pop? at h
  split at h
  · simp at h
  · rename_i last hlast
    obtain ⟨front, rfl⟩ := Array.back?_eq_some_iff.mp hlast
    refine ⟨front, last, rfl, ?_⟩
    rw [Array.pop_push] at h
    split at h
    · rename_i hempty
      obtain ⟨rfl, rfl⟩ := Prod.mk.inj (Option.some.inj h)
      have hsize := Array.getElem?_eq_none_iff.mp hempty
      obtain rfl := Array.eq_empty_of_size_eq_zero (Nat.le_zero.mp hsize)
      exact Or.inl ⟨rfl, rfl, rfl⟩
    · rename_i root hroot
      obtain ⟨rfl, rfl⟩ := Prod.mk.inj (Option.some.inj h)
      exact Or.inr ⟨hroot, rfl⟩

theorem contents_pop {heap rest : Array α} {a : α} (h : pop? order heap = some (a, rest)) :
    contents heap = a ::ₘ contents rest := by
  obtain ⟨front, last, rfl, ⟨rfl, rfl, rfl⟩ | ⟨hroot, rfl⟩⟩ := pop?_eq_some h
  · rfl
  · obtain ⟨hsize, _⟩ := Array.getElem?_eq_some_iff.mp hroot
    obtain ⟨hsame, hhole, hsunk⟩ := contents_sink order hsize
    rw [contents_climb (by rw [hsame]; exact hhole), hsunk]
    obtain ⟨list⟩ := front
    cases list with
    | nil => simp at hsize
    | cons root others =>
      obtain rfl : root = a := by simpa using hroot
      calc contents (Array.push ⟨root :: others⟩ last)
          = ((root :: (others ++ [last]) : List α) : Multiset α) := by simp [contents]
        _ = ((root :: last :: others : List α) : Multiset α) :=
          Multiset.coe_eq_coe.mpr ((List.perm_append_singleton last others).cons root)
        _ = root ::ₘ contents (Array.setIfInBounds ⟨root :: others⟩ 0 last) := by
          simp [contents]

theorem stores (order : α → α → Ordering) :
    (frontier order).Stores (fun _ => True) contents where
  empty := ⟨trivial, rfl⟩
  push heap element _ := ⟨trivial, contents_push heap element⟩
  pop _ _ _ _ hpop := ⟨trivial, contents_pop hpop⟩
  drained _ _ hnone := by
    rw [pop?_eq_none hnone]
    rfl

theorem keeps (order : α → α → Ordering) (P : α → Prop) : (frontier order).Keeps P :=
  (stores order).keeps P

/-! ### The order of a heap -/

/-- The element at one place does not exceed the one at another. -/
def Below (order : α → α → Ordering) (heap : Array α) (low high : Nat) : Prop :=
  ∀ a b, heap[low]? = some a → heap[high]? = some b → (order a b).isLE = true

def Ordered (order : α → α → Ordering) (heap : Array α) : Prop :=
  ∀ place, 0 < place → Below order heap place ((place - 1) / 2)

/-- A heap is in order but for one place. -/
structure OrderedAround (order : α → α → Ordering) (heap : Array α) (hole : Nat) : Prop where
  others : ∀ place, 0 < place → place ≠ hole → (place - 1) / 2 ≠ hole →
    Below order heap place ((place - 1) / 2)
  across : ∀ place, 0 < place → (place - 1) / 2 = hole → 0 < hole →
    Below order heap place ((hole - 1) / 2)

variable {heap : Array α} {hole : Nat} {a : α}

theorem ordered_empty : Ordered order #[] := by
  intro place _ b _ hb _
  simp at hb

theorem Ordered.around (h : Ordered order heap) : OrderedAround order heap 0 where
  others place hplace _ _ := h place hplace
  across _ _ _ hzero := absurd hzero (Nat.lt_irrefl 0)

theorem below_set (h : hole < heap.size) {low high : Nat} :
    Below order (heap.setIfInBounds hole a) low high ↔
      if low = hole then
        if high = hole then (order a a).isLE = true
        else ∀ b, heap[high]? = some b → (order a b).isLE = true
      else if high = hole then ∀ b, heap[low]? = some b → (order b a).isLE = true
      else Below order heap low high := by
  unfold Below
  grind

theorem Below.trans [Std.TransCmp order] {low middle high : Nat} (hlow : Below order heap low middle)
    (hhigh : Below order heap middle high) (h : middle < heap.size) :
    Below order heap low high := fun _ _ ha hb =>
  Std.TransCmp.isLE_trans (hlow _ _ ha (Array.getElem?_eq_getElem h))
    (hhigh _ _ (Array.getElem?_eq_getElem h) hb)

/-- Filling a hole with an element between the children and the parent. -/
theorem OrderedAround.fill (h : OrderedAround order heap hole) (hhole : hole < heap.size)
    (hchildren : ∀ place b, 0 < place → (place - 1) / 2 = hole → heap[place]? = some b →
      (order b a).isLE = true)
    (hparent : 0 < hole → ∀ b, heap[(hole - 1) / 2]? = some b → (order a b).isLE = true) :
    Ordered order (heap.setIfInBounds hole a) := by
  intro place hplace
  rw [below_set hhole]
  by_cases hself : place = hole
  · subst hself
    rw [if_pos rfl, if_neg (by omega)]
    exact hparent hplace
  · rw [if_neg hself]
    by_cases hchild : (place - 1) / 2 = hole
    · rw [if_pos hchild]
      exact fun b hb => hchildren place b hplace hchild hb
    · rw [if_neg hchild]
      exact h.others place hplace hself hchild

/-- Moving the hole to its parent. -/
theorem OrderedAround.up [Std.TransCmp order] (h : OrderedAround order heap hole)
    (hhole : hole < heap.size) (hne : hole ≠ 0) (ha : heap[(hole - 1) / 2]? = some a) :
    OrderedAround order (heap.setIfInBounds hole a) ((hole - 1) / 2) where
  others place hplace hparent hgrand := by
    rw [below_set hhole]
    by_cases hself : place = hole
    · subst hself
      exact absurd rfl hgrand
    · rw [if_neg hself]
      by_cases hchild : (place - 1) / 2 = hole
      · rw [if_pos hchild]
        exact fun b hb => h.across place hplace hchild (by omega) b a hb ha
      · rw [if_neg hchild]
        exact h.others place hplace hself hchild
  across place hplace hsibling hpos := by
    have habove := h.others ((hole - 1) / 2) hpos (by omega) (by omega)
    rw [below_set hhole]
    by_cases hself : place = hole
    · rw [if_pos hself, if_neg (by omega)]
      exact fun b hb => habove a b ha hb
    · rw [if_neg hself, if_neg (by omega)]
      have hle := h.others place hplace hself (by omega)
      rw [hsibling] at hle
      exact hle.trans habove (by omega)

/-- Moving the hole to the greater one of its children. -/
theorem OrderedAround.down (h : OrderedAround order heap hole) (hhole : hole < heap.size)
    {child : Nat} (hpos : 0 < child) (hchild : (child - 1) / 2 = hole) (ha : heap[child]? = some a)
    (hgreater : ∀ place b, 0 < place → (place - 1) / 2 = hole → heap[place]? = some b →
      (order b a).isLE = true) :
    OrderedAround order (heap.setIfInBounds hole a) child where
  others place hplace hself hgrand := by
    rw [below_set hhole]
    by_cases hhere : place = hole
    · subst hhere
      rw [if_pos rfl, if_neg (by omega)]
      exact fun b hb => h.across child hpos hchild hplace a b ha hb
    · rw [if_neg hhere]
      by_cases hsibling : (place - 1) / 2 = hole
      · rw [if_pos hsibling]
        exact fun b hb => hgreater place b hplace hsibling hb
      · rw [if_neg hsibling]
        exact h.others place hplace hhere hsibling
  across place hplace hgrand _ := by
    rw [below_set hhole, hchild, if_neg (by omega), if_pos rfl]
    have hle := h.others place hplace (by omega) (by omega)
    rw [hgrand] at hle
    exact fun b hb => hle b a hb ha

/-- What holds of the left and the right child of a place holds of its children. -/
theorem forall_children {P : α → Prop}
    (hleft : ∀ h : 2 * hole + 1 < heap.size, P heap[2 * hole + 1])
    (hright : ∀ h : 2 * hole + 2 < heap.size, P heap[2 * hole + 2]) (place : Nat) (b : α)
    (hplace : 0 < place) (hchild : (place - 1) / 2 = hole) (hb : heap[place]? = some b) : P b := by
  obtain ⟨hlt, rfl⟩ := Array.getElem?_eq_some_iff.mp hb
  rcases (by omega : place = 2 * hole + 1 ∨ place = 2 * hole + 2) with rfl | rfl
  · exact hleft hlt
  · exact hright hlt

section

variable [Std.TransCmp order]

theorem ordered_climb {element : α} (hhole : hole < heap.size) (h : OrderedAround order heap hole)
    (hchildren : ∀ place b, 0 < place → (place - 1) / 2 = hole → heap[place]? = some b →
      (order b element).isLE = true) :
    Ordered order (climb order heap element hole) := by
  fun_induction climb order heap element hole with
  | case1 heap => exact h.fill hhole hchildren (fun hpos => absurd hpos (Nat.lt_irrefl 0))
  | case2 heap hole hne parent above habove hgt ih =>
    have hparent : parent < hole := by omega
    have hless : (order above element).isLE = true :=
      Ordering.isLE_of_eq_lt (Std.OrientedCmp.lt_of_gt hgt)
    refine ih (by simpa using hparent.trans hhole) (h.up hhole hne habove) ?_
    intro place b hplace hsibling hb
    by_cases hself : place = hole
    · subst hself
      rw [Array.getElem?_setIfInBounds_self_of_lt hhole] at hb
      obtain rfl := Option.some.inj hb
      exact hless
    · rw [Array.getElem?_setIfInBounds_ne (Ne.symm hself)] at hb
      have hle := h.others place hplace hself (by omega)
      rw [hsibling] at hle
      exact Std.TransCmp.isLE_trans (hle b above hb habove) hless
  | case3 heap hole hne parent above habove hgt =>
    apply h.fill hhole hchildren
    intro _ b hb
    obtain rfl := Option.some.inj (habove.symm.trans hb)
    exact Ordering.ne_gt_iff_isLE.mp hgt
  | case4 heap hole hne parent hnone =>
    have := Array.getElem?_eq_none_iff.mp hnone
    omega

/-- A hole that sank has no children. -/
theorem orderedAround_sink (hhole : hole < heap.size) (h : OrderedAround order heap hole) :
    OrderedAround order (sink order heap hole).1 (sink order heap hole).2 ∧
      heap.size ≤ 2 * (sink order heap hole).2 + 1 := by
  fun_induction sink order heap hole with
  | case1 heap hole hright left right hgt ih =>
    have hless : (order right left).isLE = true :=
      Ordering.isLE_of_eq_lt (Std.OrientedCmp.lt_of_gt hgt)
    rw [Array.size_setIfInBounds] at ih
    exact ih (by omega) (h.down hhole (by omega) (by omega) (Array.getElem?_eq_getElem _)
      (forall_children (fun hlt => Std.ReflCmp.isLE_rfl) (fun hlt => hless)))
  | case2 heap hole hright left right hgt ih =>
    have hless : (order left right).isLE = true := Ordering.ne_gt_iff_isLE.mp hgt
    rw [Array.size_setIfInBounds] at ih
    exact ih (by omega) (h.down hhole (by omega) (by omega) (Array.getElem?_eq_getElem _)
      (forall_children (fun hlt => hless) (fun hlt => Std.ReflCmp.isLE_rfl)))
  | case3 heap hole hright hleft =>
    exact ⟨h.down hhole (by omega) (by omega) (Array.getElem?_eq_getElem _)
      (forall_children (fun hlt => Std.ReflCmp.isLE_rfl) (fun hlt => absurd hlt hright)),
      by dsimp; omega⟩
  | case4 heap hole hright hleft => exact ⟨h, by omega⟩

theorem ordered_push {element : α} (h : Ordered order heap) :
    Ordered order (push order heap element) := by
  -- The new place is the last one, so nothing is below it.
  have hlast : ∀ place b, 0 < place → (place - 1) / 2 = heap.size →
      (heap.push element)[place]? ≠ some b := by
    intro place b hplace hchild hb
    have hlt := (Array.getElem?_eq_some_iff.mp hb).1
    rw [Array.size_push] at hlt
    omega
  refine ordered_climb (by simp) ⟨?_, ?_⟩ ?_
  · intro place hplace hself hparent b c hb hc
    rw [Array.getElem?_push, if_neg hself] at hb
    rw [Array.getElem?_push, if_neg hparent] at hc
    exact h place hplace b c hb hc
  · intro place hplace hchild _ b _ hb _
    exact absurd hb (hlast place b hplace hchild)
  · intro place b hplace hchild hb
    exact absurd hb (hlast place b hplace hchild)

/-- No element exceeds the root. -/
theorem Ordered.isLE_root (h : Ordered order heap) {root : α} (hroot : heap[0]? = some root)
    {b : α} (hb : b ∈ heap) : (order b root).isLE = true := by
  obtain ⟨place, hplace⟩ := Array.getElem?_of_mem hb
  induction place using Nat.strong_induction_on generalizing b with
  | h place ih =>
    rcases Nat.eq_zero_or_pos place with rfl | hpos
    · obtain rfl := Option.some.inj (hplace.symm.trans hroot)
      exact Std.ReflCmp.isLE_rfl
    · obtain ⟨hlt, _⟩ := Array.getElem?_eq_some_iff.mp hplace
      have hparent : heap[(place - 1) / 2]? = some heap[(place - 1) / 2] :=
        Array.getElem?_eq_getElem (by omega)
      exact Std.TransCmp.isLE_trans (h place hpos b _ hplace hparent)
        (ih _ (by omega) (Array.mem_of_getElem? hparent) hparent)

theorem ordered_pop {rest : Array α} (h : Ordered order heap)
    (hpop : pop? order heap = some (a, rest)) :
    Ordered order rest ∧ ∀ b ∈ contents rest, (order b a).isLE = true := by
  obtain ⟨front, last, rfl, ⟨rfl, rfl, rfl⟩ | ⟨hroot, rfl⟩⟩ := pop?_eq_some hpop
  · exact ⟨ordered_empty, by simp [contents]⟩
  · obtain ⟨hsize, _⟩ := Array.getElem?_eq_some_iff.mp hroot
    have hkeeps : ∀ {place : Nat} {b : α}, front[place]? = some b →
        (front.push last)[place]? = some b := by
      intro place b hb
      obtain ⟨hlt, rfl⟩ := Array.getElem?_eq_some_iff.mp hb
      exact Array.getElem?_push_lt hlt
    have hfront : Ordered order front := fun place hplace b c hb hc =>
      h place hplace b c (hkeeps hb) (hkeeps hc)
    obtain ⟨hsame, hhole, _⟩ := contents_sink order hsize
    obtain ⟨haround, hbottom⟩ := orderedAround_sink hsize hfront.around
    constructor
    · apply ordered_climb (by rw [hsame]; exact hhole) haround
      intro place b hplace hchild hb
      have hlt := (Array.getElem?_eq_some_iff.mp hb).1
      omega
    · intro b hb
      have hmem : b ∈ contents (front.push last) := by
        rw [contents_pop hpop]
        exact Multiset.mem_cons_of_mem hb
      exact h.isLE_root (hkeeps hroot) (Array.mem_toList_iff.mp (Multiset.mem_coe.mp hmem))

/-- **A heap gives out a greatest element.** -/
theorem popsGreatest (order : α → α → Ordering) [Std.TransCmp order] :
    (frontier order).PopsGreatest order := by
  refine ⟨Ordered order, contents, ?_, ?_⟩
  · constructor
    case empty => exact ⟨ordered_empty, rfl⟩
    case push =>
      intro heap element hheap
      exact ⟨ordered_push hheap, contents_push heap element⟩
    case pop =>
      intro heap a rest hheap hpop
      exact ⟨(ordered_pop hheap hpop).1, contents_pop hpop⟩
    case drained =>
      intro heap _ hnone
      exact (stores order).drained heap trivial hnone
  · intro heap a rest hheap hpop
    exact (ordered_pop hheap hpop).2

end

end Heap

end SceneCompiler
