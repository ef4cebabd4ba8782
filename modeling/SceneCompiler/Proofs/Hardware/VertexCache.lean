import Mathlib.Data.List.Nodup
import Mathlib.Data.List.Perm.Subperm
import SceneCompiler.Hardware.VertexCache

/-!
# The slots of the vertex cache

The slots that are assigned to different vertices are different, and there are such slots
(`VertexCache.assign_ok`): each vertex that is kept has a slot of its own, the free slots are those
that are not kept, and there are enough of them because all vertices fit.

After loads into different slots, each of the slots holds what was loaded last, and the others hold
what they held.
-/

namespace SceneCompiler

namespace VertexCache

variable {c : VertexCache}

/-! ### Reading and storing -/

theorem get?_empty (capacity slot : Nat) : (empty capacity).get? slot = none := by
  unfold get? empty
  rw [List.getElem?_replicate]
  split <;> rfl

theorem capacity_empty (capacity : Nat) : (empty capacity).capacity = capacity := by
  simp [VertexCache.capacity, empty]

theorem lt_of_get? {slot : Nat} {key : VertexKey} (h : c.get? slot = some key) :
    slot < c.capacity := by
  apply Nat.lt_of_not_le
  intro hle
  rw [get?, List.getElem?_eq_none hle] at h
  simp at h

theorem get?_store_self {slot : Nat} (h : slot < c.capacity) (key : VertexKey) :
    (c.store slot key).get? slot = some key := by
  simp only [get?, store]
  rw [List.getElem?_set_self h]
  rfl

theorem get?_store_of_ne {slot other : Nat} (h : slot ≠ other) (key : VertexKey) :
    (c.store slot key).get? other = c.get? other := by
  simp [get?, store, h]

@[simp] theorem capacity_store (slot : Nat) (key : VertexKey) :
    (c.store slot key).capacity = c.capacity := by
  simp [VertexCache.capacity, store]

@[simp] theorem capacity_storeAll (loads : List (VertexKey × Nat)) :
    (c.storeAll loads).capacity = c.capacity := by
  induction loads generalizing c with
  | nil => rfl
  | cons load rest ih => exact ih.trans (capacity_store load.2 load.1)

@[simp] theorem capacity_invalidate (start stop : Nat) :
    (c.invalidate start stop).capacity = c.capacity := by
  simp [VertexCache.capacity, invalidate]

theorem get?_invalidate_eq_some {start stop slot : Nat} {key : VertexKey}
    (h : (c.invalidate start stop).get? slot = some key) : c.get? slot = some key := by
  simp only [get?, invalidate, List.getElem?_mapIdx] at h ⊢
  cases hslot : c.slots[slot]? with
  | none => simp [hslot] at h
  | some content =>
    rw [hslot] at h
    simp only [Option.map_some, Option.getD_some] at h ⊢
    split at h
    · simp at h
    · exact h

theorem storeAll_append (xs ys : List (VertexKey × Nat)) :
    c.storeAll (xs ++ ys) = (c.storeAll xs).storeAll ys := List.foldl_append

theorem get?_storeAll_of_not_mem {loads : List (VertexKey × Nat)} {slot : Nat}
    (h : slot ∉ loads.map Prod.snd) : (c.storeAll loads).get? slot = c.get? slot := by
  induction loads generalizing c with
  | nil => rfl
  | cons load rest ih =>
    simp only [List.map_cons, List.mem_cons, not_or] at h
    exact (ih h.2).trans (get?_store_of_ne (Ne.symm h.1) load.1)

theorem get?_storeAll_of_mem {loads : List (VertexKey × Nat)}
    (hslots : (loads.map Prod.snd).Nodup) {key : VertexKey} {slot : Nat}
    (h : (key, slot) ∈ loads) (hlt : slot < c.capacity) :
    (c.storeAll loads).get? slot = some key := by
  induction loads generalizing c with
  | nil => simp at h
  | cons load rest ih =>
    obtain ⟨hnew, hrest⟩ := List.nodup_cons.mp hslots
    rcases List.mem_cons.mp h with rfl | h
    · exact (get?_storeAll_of_not_mem hnew).trans (get?_store_self hlt key)
    · have hlt' : slot < (c.store load.2 load.1).capacity := by
        rw [capacity_store]
        exact hlt
      exact ih hrest h hlt'

/-! ### Assigning -/

theorem get?_of_slotOf? {key : VertexKey} {slot : Nat} (h : c.slotOf? key = some slot) :
    c.get? slot = some key := by
  obtain ⟨hlt, hkey, _⟩ := List.findIdx?_eq_some_iff_getElem.mp h
  rw [get?, List.getElem?_eq_getElem hlt, Option.getD_some]
  simpa using hkey

theorem nodup_kept {keys : List VertexKey} (h : keys.Nodup) :
    (keys.filterMap c.slotOf?).Nodup := by
  refine h.filterMap ?_
  intro key other slot hkey hother
  have hfirst := get?_of_slotOf? (Option.mem_def.mp hkey)
  have hsecond := get?_of_slotOf? (Option.mem_def.mp hother)
  rw [hfirst] at hsecond
  exact Option.some.inj hsecond

theorem mem_kept {keys : List VertexKey} {slot : Nat} (h : slot ∈ keys.filterMap c.slotOf?) :
    slot < c.capacity := by
  obtain ⟨key, _, hkey⟩ := List.mem_filterMap.mp h
  exact lt_of_get? (get?_of_slotOf? hkey)

theorem length_free {keys : List VertexKey} (h : keys.Nodup) :
    (c.free keys).length + (keys.filterMap c.slotOf?).length = c.capacity := by
  have hkept : ((List.range c.capacity).filter fun slot =>
      (keys.filterMap c.slotOf?).contains slot).Perm (keys.filterMap c.slotOf?) := by
    refine (List.perm_ext_iff_of_nodup (List.nodup_range.filter _) (nodup_kept h)).mpr ?_
    intro slot
    rw [List.mem_filter, List.contains_iff_mem, List.mem_range]
    exact ⟨fun hslot => hslot.2, fun hslot => ⟨mem_kept hslot, hslot⟩⟩
  have hparts := (List.filter_append_perm (fun slot => (keys.filterMap c.slotOf?).contains slot)
    (List.range c.capacity)).length_eq
  rw [List.length_append, hkept.length_eq, List.length_range] at hparts
  unfold free
  dsimp only
  omega

/-- If there are enough free slots, then the kept ones are filled up with the first of them. -/
theorem fill_perm (places : List (Option Nat)) (free : List Nat)
    (h : places.countP Option.isNone ≤ free.length) :
    (fill places free).Perm (places.filterMap id ++ free.take (places.countP Option.isNone)) := by
  induction places generalizing free with
  | nil => simp [fill]
  | cons place rest ih =>
    cases place with
    | some kept =>
      have hrest : rest.countP Option.isNone ≤ free.length := by simpa using h
      simpa [fill] using (ih free hrest).cons kept
    | none =>
      cases free with
      | nil => simp at h
      | cons slot free =>
        have hrest : rest.countP Option.isNone ≤ free.length := by simpa using h
        have hperm := (ih free hrest).cons slot
        simpa [fill] using hperm.trans List.perm_middle.symm

/-- **Different vertices get different slots**, one each. -/
theorem assign_ok {keys : List VertexKey} {slots : List Nat} (hkeys : keys.Nodup)
    (h : c.assign keys = .ok slots) :
    slots.length = keys.length ∧ slots.Nodup ∧ ∀ slot ∈ slots, slot < c.capacity := by
  unfold assign at h
  split at h
  · simp at h
  · rename_i hfits
    obtain rfl := Except.ok.inj h
    have hkept : (keys.map c.slotOf?).filterMap id = keys.filterMap c.slotOf? := by
      rw [List.filterMap_map]
      rfl
    have hcount : (keys.map c.slotOf?).countP Option.isNone +
        (keys.filterMap c.slotOf?).length = keys.length := by
      rw [List.countP_map, List.length_filterMap_eq_countP,
        List.length_eq_countP_add_countP (fun key => (c.slotOf? key).isSome), Nat.add_comm]
      congr 1
      refine List.countP_congr fun key _ => ?_
      cases hslot : c.slotOf? key <;> simp [hslot]
    have hfree := length_free (c := c) hkeys
    have hperm := fill_perm (keys.map c.slotOf?) (c.free keys) (by omega)
    rw [hkept] at hperm
    have hfreeNodup : (c.free keys).Nodup := List.nodup_range.filter _
    refine ⟨?_, ?_, ?_⟩
    · rw [hperm.length_eq, List.length_append, List.length_take]
      omega
    · rw [hperm.nodup_iff]
      refine (nodup_kept hkeys).append (hfreeNodup.sublist (List.take_sublist _ _)) ?_
      intro slot hslot hslotFree
      have hnot := (List.mem_filter.mp (List.mem_of_mem_take hslotFree)).2
      rw [List.contains_iff_mem.mpr hslot] at hnot
      simp at hnot
    · intro slot hslot
      rcases List.mem_append.mp (hperm.mem_iff.mp hslot) with hslot | hslot
      · exact mem_kept hslot
      · exact List.mem_range.mp (List.mem_filter.mp (List.mem_of_mem_take hslot)).1

end VertexCache

end SceneCompiler
