import SceneCompiler.Proofs.Hardware.VertexCache

/-!
# Which slots are assigned

`VertexCache.assign_ok` says that different vertices get different slots; here it is said which ones.
A vertex that some slot holds stays in the lowest of them, so a copy in a higher slot keeps nothing.
The others take, in the order of the request, the first of the slots that nobody keeps. Once all are
loaded, the lowest slot that holds a vertex is its own, so the same request is answered in the same
way (`VertexCache.slots_assigned`).
-/

namespace SceneCompiler

namespace VertexCache

variable {c : VertexCache} {keys : List VertexKey} {slots : List Nat}

/-! ### What a request asks for -/

def Holds (c : VertexCache) (key : VertexKey) : Prop := some key ∈ c.slots

/-- The slot is the lowest that holds the vertex. -/
def LowestHolding (c : VertexCache) (key : VertexKey) (slot : Nat) : Prop :=
  c.get? slot = some key ∧ ∀ lower < slot, c.get? lower ≠ some key

instance (c : VertexCache) (key : VertexKey) : Decidable (c.Holds key) :=
  inferInstanceAs (Decidable (some key ∈ c.slots))

instance (c : VertexCache) (key : VertexKey) (slot : Nat) : Decidable (c.LowestHolding key slot) :=
  inferInstanceAs (Decidable (c.get? slot = some key ∧ ∀ lower < slot, c.get? lower ≠ some key))

/-- The slots that no requested vertex keeps, in ascending order. -/
def notKept (c : VertexCache) (keys : List VertexKey) : List Nat :=
  (List.range c.capacity).filter fun slot => ∀ key ∈ keys, ¬ c.LowestHolding key slot

/-- Different slots, one for each vertex: for one that is held, the lowest that holds it; for the
others, in the order of the request, the first slots that nobody keeps. -/
structure Assigned (c : VertexCache) (keys : List VertexKey) (slots : List Nat) : Prop where
  length : slots.length = keys.length
  nodup : slots.Nodup
  lt_capacity : ∀ slot ∈ slots, slot < c.capacity
  kept : ∀ key slot, (key, slot) ∈ keys.zip slots → c.Holds key → c.LowestHolding key slot
  others : ((keys.zip slots).filter fun load => ¬ c.Holds load.1).map Prod.snd <+: c.notKept keys

/-! ### Finding a vertex -/

theorem holds_iff {key : VertexKey} : c.Holds key ↔ ∃ slot, c.get? slot = some key := by
  rw [Holds, List.mem_iff_getElem?]
  refine exists_congr fun slot => ?_
  cases hslot : c.slots[slot]? with
  | none => simp [get?, hslot]
  | some content => simp [get?, hslot]

theorem slotOf?_eq_some_iff {key : VertexKey} {slot : Nat} :
    c.slotOf? key = some slot ↔ c.LowestHolding key slot := by
  rw [slotOf?, List.findIdx?_eq_some_iff_getElem]
  constructor
  · rintro ⟨hlt, hkey, hlower⟩
    refine ⟨?_, fun lower hlower' => ?_⟩
    · rw [get?, List.getElem?_eq_getElem hlt, Option.getD_some]
      simpa using hkey
    · have hne := hlower lower hlower'
      rw [get?, List.getElem?_eq_getElem (Nat.lt_trans hlower' hlt), Option.getD_some]
      simpa using hne
  · rintro ⟨hkey, hlower⟩
    have hlt := lt_of_get? hkey
    refine ⟨hlt, ?_, fun lower hlower' => ?_⟩
    · rw [get?, List.getElem?_eq_getElem hlt, Option.getD_some] at hkey
      simpa using hkey
    · have hne := hlower lower hlower'
      rw [get?, List.getElem?_eq_getElem (Nat.lt_trans hlower' hlt), Option.getD_some] at hne
      simpa using hne

theorem slotOf?_eq_none_iff {key : VertexKey} : c.slotOf? key = none ↔ ¬ c.Holds key := by
  rw [slotOf?, List.findIdx?_eq_none_iff, Holds]
  constructor
  · intro hnone hmem
    simpa using hnone _ hmem
  · intro hnot content hcontent
    apply decide_eq_false
    rintro rfl
    exact hnot hcontent

theorem free_eq (c : VertexCache) (keys : List VertexKey) : c.free keys = c.notKept keys := by
  refine List.filter_congr fun slot _ => ?_
  have hkept : slot ∈ keys.filterMap c.slotOf? ↔ ∃ key ∈ keys, c.LowestHolding key slot := by
    simp only [List.mem_filterMap, slotOf?_eq_some_iff]
  rw [← Bool.coe_iff_coe]
  simp [hkept]

/-! ### Filling up -/

theorem mem_zip_fill {places : List (Option Nat)} {free : List Nat} {kept slot : Nat}
    (h : (some kept, slot) ∈ places.zip (fill places free)) : slot = kept := by
  induction places generalizing free with
  | nil => simp at h
  | cons place rest ih =>
    cases place with
    | some first =>
      rw [fill, List.zip_cons_cons, List.mem_cons] at h
      rcases h with h | h
      · obtain ⟨hkept, rfl⟩ := Prod.mk.inj h
        exact (Option.some.inj hkept).symm
      · exact ih h
    | none =>
      cases free with
      | nil => simp [fill] at h
      | cons first free =>
        rw [fill, List.zip_cons_cons, List.mem_cons] at h
        rcases h with h | h
        · simp at h
        · exact ih h

/-- Where nothing is kept, the free slots are used in order. -/
theorem filled_prefix (places : List (Option Nat)) (free : List Nat) :
    ((places.zip (fill places free)).filter fun entry => entry.1.isNone).map Prod.snd <+: free := by
  induction places generalizing free with
  | nil => simp
  | cons place rest ih =>
    cases place with
    | some kept => simpa [fill] using ih free
    | none =>
      cases free with
      | nil => simp [fill]
      | cons slot free => simpa [fill] using ih free

theorem fill_map_some (slots free : List Nat) : fill (slots.map some) free = slots := by
  induction slots with
  | nil => rfl
  | cons slot rest ih => rw [List.map_cons, fill, ih]

/-! ### Assigning -/

theorem eq_fill_of_assign (h : c.assign keys = .ok slots) :
    slots = fill (keys.map c.slotOf?) (c.notKept keys) := by
  unfold assign at h
  split at h
  · simp at h
  · rw [← free_eq]
    exact (Except.ok.inj h).symm

theorem assigned_of_assign (hkeys : keys.Nodup) (h : c.assign keys = .ok slots) :
    c.Assigned keys slots := by
  obtain ⟨hlength, hnodup, hlt⟩ := assign_ok hkeys h
  have hfill := eq_fill_of_assign h
  have hzip : (keys.map c.slotOf?).zip slots = (keys.zip slots).map (Prod.map c.slotOf? id) :=
    List.zip_map_left ..
  refine ⟨hlength, hnodup, hlt, ?_, ?_⟩
  · intro key slot hmem hheld
    cases hkept : c.slotOf? key with
    | none => exact absurd hheld (slotOf?_eq_none_iff.mp hkept)
    | some kept =>
      have hpair : (some kept, slot) ∈ (keys.map c.slotOf?).zip slots := by
        rw [hzip, ← hkept]
        exact List.mem_map_of_mem (f := Prod.map c.slotOf? id) hmem
      rw [hfill] at hpair
      rw [mem_zip_fill hpair]
      exact slotOf?_eq_some_iff.mp hkept
  · have hprefix := filled_prefix (keys.map c.slotOf?) (c.notKept keys)
    rw [← hfill, hzip, List.filter_map, List.map_map] at hprefix
    have hothers : (keys.zip slots).filter
        ((fun entry => entry.1.isNone) ∘ Prod.map c.slotOf? id) =
          (keys.zip slots).filter fun load => ¬ c.Holds load.1 := by
      refine List.filter_congr fun load _ => ?_
      rw [← Bool.coe_iff_coe]
      simp [← slotOf?_eq_none_iff]
    rw [hothers] at hprefix
    exact hprefix

/-! ### Loading what was assigned -/

theorem Assigned.get?_storeAll (h : c.Assigned keys slots) {key : VertexKey} {slot : Nat}
    (hmem : (key, slot) ∈ keys.zip slots) :
    (c.storeAll (keys.zip slots)).get? slot = some key := by
  have hslots : (keys.zip slots).map Prod.snd = slots :=
    List.map_snd_zip (Nat.le_of_eq h.length)
  apply get?_storeAll_of_mem
  · rw [hslots]
    exact h.nodup
  · exact hmem
  · exact h.lt_capacity slot (List.of_mem_zip hmem).2

/-- After the loads the lowest slot that holds a vertex is its own: it was the lowest before, or the
vertex was nowhere, and no other load brings the vertex. -/
theorem Assigned.lowest_storeAll (hkeys : keys.Nodup) (h : c.Assigned keys slots) {key : VertexKey}
    {slot : Nat} (hmem : (key, slot) ∈ keys.zip slots) :
    (c.storeAll (keys.zip slots)).LowestHolding key slot := by
  have hfst : (keys.zip slots).map Prod.fst = keys := List.map_fst_zip (Nat.le_of_eq h.length.symm)
  have hsnd : (keys.zip slots).map Prod.snd = slots := List.map_snd_zip (Nat.le_of_eq h.length)
  refine ⟨h.get?_storeAll hmem, fun lower hlower hheld => ?_⟩
  by_cases hstored : lower ∈ slots
  · rw [← hsnd] at hstored
    obtain ⟨⟨other, _⟩, hother, rfl⟩ := List.mem_map.mp hstored
    rw [h.get?_storeAll hother] at hheld
    obtain rfl := Option.some.inj hheld
    have hsame := List.inj_on_of_nodup_map (by rw [hfst]; exact hkeys) hother hmem rfl
    exact Nat.ne_of_lt hlower (Prod.mk.inj hsame).2
  · rw [← hsnd] at hstored
    rw [get?_storeAll_of_not_mem hstored] at hheld
    exact (h.kept key slot hmem (holds_iff.mpr ⟨lower, hheld⟩)).2 lower hlower hheld

theorem Assigned.assign_storeAll (hkeys : keys.Nodup) (h : c.Assigned keys slots)
    (hroom : keys.length ≤ c.capacity) : (c.storeAll (keys.zip slots)).assign keys = .ok slots := by
  have hplaces : keys.map (c.storeAll (keys.zip slots)).slotOf? = slots.map some := by
    apply List.ext_getElem
    · rw [List.length_map, List.length_map, h.length]
    · intro i hi hi'
      rw [List.length_map] at hi hi'
      rw [List.getElem_map, List.getElem_map]
      refine slotOf?_eq_some_iff.mpr (h.lowest_storeAll hkeys ?_)
      have hlt : i < (keys.zip slots).length := by
        rw [List.length_zip]
        exact Nat.lt_min.mpr ⟨hi, hi'⟩
      exact List.mem_iff_getElem.mpr ⟨i, hlt, List.getElem_zip⟩
  rw [assign, capacity_storeAll, if_neg (Nat.not_lt_of_le hroom), hplaces, fill_map_some]

theorem assign?_of_nodup (c : VertexCache) (hkeys : keys.Nodup) :
    c.assign? keys = some (c.assign keys) := by
  simp [assign?, hkeys]

/-- **Which slots are assigned.**  Different vertices are refused exactly if there are more of them
than slots. Otherwise the slots are as described, each vertex is in its slot once all are loaded, and
then the same request gets the same slots. -/
theorem slots_assigned (c : VertexCache) (hkeys : keys.Nodup) :
    (c.assign? keys = some (.error (.cacheOverflow keys.length c.capacity)) ↔
      c.capacity < keys.length) ∧
    (keys.length ≤ c.capacity → ∃ slots, c.assign? keys = some (.ok slots) ∧ c.Assigned keys slots ∧
      (∀ key slot, (key, slot) ∈ keys.zip slots →
        (c.storeAll (keys.zip slots)).isResident slot key = true) ∧
      (c.storeAll (keys.zip slots)).assign? keys = some (.ok slots)) := by
  constructor
  · rw [assign?_of_nodup c hkeys, assign]
    by_cases hmany : c.capacity < keys.length
    · simp [hmany]
    · simp [hmany]
  · intro hroom
    have hassign : c.assign keys = .ok (fill (keys.map c.slotOf?) (c.free keys)) :=
      if_neg (Nat.not_lt_of_le hroom)
    have hassigned := assigned_of_assign hkeys hassign
    refine ⟨_, ?_, hassigned, fun key slot hmem => ?_, ?_⟩
    · rw [assign?_of_nodup c hkeys, hassign]
    · exact decide_eq_true (hassigned.get?_storeAll hmem)
    · rw [assign?_of_nodup _ hkeys, hassigned.assign_storeAll hkeys hroom]

namespace Copies

def vertex (index : Nat) : VertexKey := ⟨0, index, none⟩

/-- Six slots, one of them empty, that hold two vertices twice. -/
def cache : VertexCache :=
  ⟨[some (vertex 3), none, some (vertex 1), some (vertex 3), some (vertex 2), some (vertex 1)]⟩

/-- Two vertices of the cache among two others. -/
def request : List VertexKey := [vertex 7, vertex 3, vertex 8, vertex 1]

end Copies

/-- The new vertices take the empty slot and the one of a copy. -/
theorem slots_assigned_of_copies :
    Copies.request.Nodup ∧ Copies.request.length ≤ Copies.cache.capacity ∧
      Copies.cache.assign? Copies.request = some (.ok [1, 0, 3, 2]) ∧
      Copies.cache.Assigned Copies.request [1, 0, 3, 2] ∧
      (Copies.cache.storeAll (Copies.request.zip [1, 0, 3, 2])).assign? Copies.request =
        some (.ok [1, 0, 3, 2]) := by
  have hkeys : Copies.request.Nodup := by decide
  have hroom : Copies.request.length ≤ Copies.cache.capacity := by decide
  obtain ⟨slots, hassign, hassigned, _, hagain⟩ := (slots_assigned Copies.cache hkeys).2 hroom
  have hslots : slots = [1, 0, 3, 2] := by
    have hcomputed : Copies.cache.assign? Copies.request = some (.ok [1, 0, 3, 2]) := rfl
    rw [hcomputed] at hassign
    exact (Except.ok.inj (Option.some.inj hassign)).symm
  subst hslots
  exact ⟨hkeys, hroom, hassign, hassigned, hagain⟩

end VertexCache

end SceneCompiler
