import SceneCompiler.Material.State

/-!
# Satisfying a state

`satisfies` is a test over bit sets, records and eight tiles. Here it is opened once and for all:
each register, each switch and each tile is read as an optional value, and one state satisfies
another exactly when it agrees with it wherever the other says something
(`MaterialState.satisfies_iff`). Applying and restricting states are read in the same way, so that
no later proof looks inside them.
-/

namespace SceneCompiler

/-- `current` is what `target` says, if `target` says something. -/
def Agrees {α : Type} (current target : Option α) : Prop := ∀ v, target = some v → current = some v

namespace Agrees

variable {α : Type} {a b c : Option α}

theorem refl (a : Option α) : Agrees a a := fun _ h => h

theorem trans (hab : Agrees a b) (hbc : Agrees b c) : Agrees a c :=
  fun v h => hab v (hbc v h)

theorem or_right (h : Agrees a b) (update : Option α) : Agrees (update.or a) (update.or b) := by
  intro v hv
  cases update with
  | none => exact h v hv
  | some u => exact hv

theorem or_self (update a : Option α) : Agrees (update.or a) update := by
  intro v hv
  rw [hv]
  rfl

end Agrees

/-! ### Geometry modes -/

namespace GeometryMode

theorem bit_eq_twoPow (mode : GeometryMode) : mode.bit = BitVec.twoPow 12 mode.place := rfl

theorem getLsbD_bit (mode : GeometryMode) (i : Nat) :
    mode.bit.getLsbD i = decide (i = mode.place) := by
  have hlt : mode.place < 12 := by cases mode <;> decide
  rw [bit_eq_twoPow, BitVec.getLsbD_twoPow, decide_eq_true hlt, Bool.true_and]
  exact decide_eq_decide.mpr eq_comm

theorem and_bit_eq_iff (mode : GeometryMode) (modes : GeometryModes) :
    modes &&& mode.bit = mode.bit ↔ modes.getLsbD mode.place = true := by
  have hbit : BitVec.twoPow 12 mode.place ≠ 0#12 := by cases mode <;> decide
  rw [bit_eq_twoPow, BitVec.and_twoPow]
  split
  · rename_i hmode
    exact ⟨fun _ => hmode, fun _ => rfl⟩
  · rename_i hmode
    exact ⟨fun hzero => absurd hzero.symm hbit, fun h => absurd h hmode⟩

end GeometryMode

namespace GeometryRegister

/-- The position of the switch with a bit, if it is known. -/
def position? (r : GeometryRegister) (i : Nat) : Option Bool :=
  if r.known.getLsbD i then some (r.on.getLsbD i) else none

theorem position?_eq_some_iff (r : GeometryRegister) (i : Nat) (b : Bool) :
    r.position? i = some b ↔ r.known.getLsbD i = true ∧ r.on.getLsbD i = b := by
  unfold position?
  split
  · rename_i h
    simp [h]
  · rename_i h
    simp [h]

/-- A single switch is read at its place. -/
theorem get?_bit (r : GeometryRegister) (mode : GeometryMode) :
    r.get? mode.bit = r.position? mode.place := by
  simp only [get?, position?, mode.and_bit_eq_iff, Bool.decide_eq_true]

theorem satisfies_iff (current target : GeometryRegister) :
    current.satisfies target = true ↔
      ∀ i, Agrees (current.position? i) (target.position? i) := by
  simp only [satisfies, Bool.and_eq_true, decide_eq_true_eq]
  constructor
  · rintro ⟨hknown, hon⟩ i b hb
    obtain ⟨htarget, rfl⟩ := (position?_eq_some_iff target i b).mp hb
    have hk := congrArg (fun x => BitVec.getLsbD x i) hknown
    have ho := congrArg (fun x => BitVec.getLsbD x i) hon
    simp only [BitVec.getLsbD_and, BitVec.getLsbD_xor, htarget, Bool.and_true] at hk ho
    exact (position?_eq_some_iff current i _).mpr ⟨hk, by simpa using ho⟩
  · intro h
    have hbit : ∀ i, target.known.getLsbD i = true →
        current.known.getLsbD i = true ∧ current.on.getLsbD i = target.on.getLsbD i := by
      intro i hi
      exact (position?_eq_some_iff current i _).mp
        (h i _ ((position?_eq_some_iff target i _).mpr ⟨hi, rfl⟩))
    constructor
    · apply BitVec.eq_of_getLsbD_eq
      intro i _
      cases hi : target.known.getLsbD i with
      | false => simp [hi]
      | true => simp [hi, (hbit i hi).1]
    · apply BitVec.eq_of_getLsbD_eq
      intro i _
      cases hi : target.known.getLsbD i with
      | false => simp [hi]
      | true => simp [hi, (hbit i hi).2]

theorem position?_of_le (r : GeometryRegister) {i : Nat} (h : 12 ≤ i) : r.position? i = none := by
  simp [position?, BitVec.getLsbD_of_ge r.known i h]

theorem position?_apply (current update : GeometryRegister) (i : Nat) :
    (current.apply update).position? i = (update.position? i).or (current.position? i) := by
  by_cases hlt : i < 12
  · simp only [position?, apply, BitVec.getLsbD_or, BitVec.getLsbD_and, BitVec.getLsbD_not,
      decide_eq_true hlt, Bool.true_and]
    cases update.known.getLsbD i <;> cases current.known.getLsbD i <;> simp
  · rw [position?_of_le _ (by omega), position?_of_le _ (by omega), position?_of_le _ (by omega)]
    rfl

theorem position?_write (r : GeometryRegister) (off on : GeometryModes) (i : Nat) :
    (r.write off on).position? i =
      if on.getLsbD i then some true
      else if off.getLsbD i then some false
      else r.position? i := by
  by_cases hlt : i < 12
  · simp only [position?, write, BitVec.getLsbD_or, BitVec.getLsbD_and, BitVec.getLsbD_not,
      decide_eq_true hlt, Bool.true_and]
    cases on.getLsbD i <;> cases off.getLsbD i <;> simp
  · simp [position?_of_le _ (by omega : 12 ≤ i), BitVec.getLsbD_of_ge on i (by omega),
      BitVec.getLsbD_of_ge off i (by omega)]

theorem position?_set (r : GeometryRegister) (modes : GeometryModes) (enabled : Bool) (i : Nat) :
    (r.set modes enabled).position? i =
      if modes.getLsbD i then some enabled else r.position? i := by
  by_cases hlt : i < 12
  · cases enabled with
    | true =>
      simp only [position?, set, if_true, BitVec.getLsbD_or]
      cases modes.getLsbD i <;> simp
    | false =>
      simp only [position?, set, Bool.false_eq_true, if_false, BitVec.getLsbD_or,
        BitVec.getLsbD_and, BitVec.getLsbD_not, decide_eq_true hlt, Bool.true_and]
      cases modes.getLsbD i <;> simp
  · simp [position?_of_le _ (by omega : 12 ≤ i), BitVec.getLsbD_of_ge modes i (by omega)]

theorem getLsbD_missing (current target : GeometryRegister) (i : Nat) :
    (current.missing target).getLsbD i = true ↔
      ∃ b, target.position? i = some b ∧ current.position? i ≠ some b := by
  by_cases hlt : i < 12
  · simp only [position?, missing, BitVec.getLsbD_or, BitVec.getLsbD_and, BitVec.getLsbD_xor,
      BitVec.getLsbD_not, decide_eq_true hlt, Bool.true_and]
    cases target.known.getLsbD i <;> cases current.known.getLsbD i <;>
      cases target.on.getLsbD i <;> cases current.on.getLsbD i <;> simp
  · simp [position?_of_le _ (by omega : 12 ≤ i),
      BitVec.getLsbD_of_ge (current.missing target) i (by omega)]

end GeometryRegister

/-! ### Registers -/

namespace Registers

@[simp] theorem get_write_self (s : Registers) (r : Register) (value : r.Value) :
    (s.write r value).get r = some value := by
  simp [write]

theorem get_write_of_ne (s : Registers) {r other : Register} (value : r.Value) (h : r ≠ other) :
    (s.write r value).get other = s.get other := by
  simp [write, h]

@[simp] theorem get_apply (current update : Registers) (r : Register) :
    (current.apply update).get r = (update.get r).or (current.get r) := by
  simp [apply]

theorem satisfies_iff (current target : Registers) :
    current.satisfies target = true ↔ ∀ r, Agrees (current.get r) (target.get r) := by
  simp only [satisfies, List.all_eq_true, agreesOn, Bool.or_eq_true, decide_eq_true_eq]
  constructor
  · intro h r v hv
    rcases h r (Register.mem_all r) with hnone | heq
    · rw [hv] at hnone
      simp at hnone
    · rw [heq, hv]
  · intro h r _
    cases hv : target.get r with
    | none => exact Or.inl rfl
    | some v => exact Or.inr (h r v hv)

end Registers

/-! ### Tiles -/

def Tile.shape (tile : Tile) : TileParams × TileSize := (tile.params, tile.size)

/-- A tile is as wanted: in descriptor and rectangle, and in its texture if one is wanted. -/
structure Tile.Provides (current wanted : Tile) : Prop where
  shape : current.shape = wanted.shape
  texture : Agrees current.texture wanted.texture

namespace Tile.Provides

theorem refl (tile : Tile) : tile.Provides tile := ⟨rfl, Agrees.refl _⟩

theorem trans {a b c : Tile} (hab : a.Provides b) (hbc : b.Provides c) : a.Provides c :=
  ⟨hab.shape.trans hbc.shape, hab.texture.trans hbc.texture⟩

theorem params {a b : Tile} (h : a.Provides b) : a.params = b.params := congrArg Prod.fst h.shape

theorem size {a b : Tile} (h : a.Provides b) : a.size = b.size := congrArg Prod.snd h.shape

end Tile.Provides

namespace Tiles

/-- A tile by its place, if it is specified. -/
def tile? (tiles : Tiles) (i : Nat) : Option Tile := (tiles[i]?).join

theorem tile?_of_lt (tiles : Tiles) {i : Nat} (h : i < 8) : tiles.tile? i = tiles[i] := by
  simp [tile?, h]

theorem tile?_of_le (tiles : Tiles) {i : Nat} (h : 8 ≤ i) : tiles.tile? i = none := by
  simp [tile?, h]

theorem lt_of_tile? {tiles : Tiles} {i : Nat} {tile : Tile} (h : tiles.tile? i = some tile) :
    i < 8 := by
  apply Nat.lt_of_not_le
  intro hle
  rw [tiles.tile?_of_le hle] at h
  simp at h

theorem getElem?_zip_eq_some_iff (xs ys : Tiles) (i : Nat) (x y : Option Tile) :
    (xs.toList.zip ys.toList)[i]? = some (x, y) ↔ i < 8 ∧ xs.tile? i = x ∧ ys.tile? i = y := by
  by_cases h : i < 8
  · simp [tile?_of_lt _ h, h]
  · simp [h]

theorem mem_specified (tiles : Tiles) (tile : Tile) :
    tile ∈ tiles.specified ↔ ∃ i, tiles.tile? i = some tile := by
  simp only [specified, List.mem_filterMap, id_eq]
  constructor
  · rintro ⟨entry, hentry, rfl⟩
    obtain ⟨i, hi, hget⟩ := List.mem_iff_getElem.mp hentry
    have hlt : i < 8 := by simpa using hi
    exact ⟨i, by rw [tile?_of_lt tiles hlt]; simpa using hget⟩
  · rintro ⟨i, hget⟩
    have hlt := lt_of_tile? hget
    rw [tile?_of_lt tiles hlt] at hget
    exact ⟨some tile, by rw [Vector.mem_toList_iff, ← hget]; exact Vector.getElem_mem hlt, rfl⟩

theorem tileSatisfies_iff (current wanted : Option Tile) :
    tileSatisfies current wanted = true ↔
      ∀ w, wanted = some w → ∃ c, current = some c ∧ c.Provides w := by
  cases wanted with
  | none => simp [tileSatisfies]
  | some w =>
    cases current with
    | none => simp [tileSatisfies]
    | some c =>
      simp only [tileSatisfies, Bool.and_eq_true, Bool.or_eq_true, decide_eq_true_eq]
      constructor
      · rintro ⟨⟨hparams, hsize⟩, htexture⟩ w' hw'
        obtain rfl := Option.some.inj hw'
        refine ⟨c, rfl, ⟨by simp [Tile.shape, hparams, hsize], ?_⟩⟩
        intro t ht
        rcases htexture with hnone | heq
        · rw [ht] at hnone
          simp at hnone
        · rw [heq, ht]
      · intro h
        obtain ⟨c', hc', hprovides⟩ := h w rfl
        obtain rfl := Option.some.inj hc'
        refine ⟨⟨hprovides.params, hprovides.size⟩, ?_⟩
        cases ht : w.texture with
        | none => exact Or.inl rfl
        | some t => exact Or.inr (hprovides.texture t ht)

theorem satisfies_iff (current wanted : Tiles) :
    current.satisfies wanted = true ↔
      ∀ i w, wanted.tile? i = some w → ∃ c, current.tile? i = some c ∧ c.Provides w := by
  simp only [satisfies, List.all_eq_true]
  constructor
  · intro hall i w hw
    have hi := lt_of_tile? hw
    have hmem : (current[i], wanted[i]) ∈ current.toList.zip wanted.toList :=
      List.mem_iff_getElem.mpr ⟨i, by simpa using hi, by simp⟩
    rw [tile?_of_lt _ hi] at hw ⊢
    exact (tileSatisfies_iff _ _).mp (hall _ hmem) w hw
  · intro h pair hpair
    obtain ⟨i, hi, rfl⟩ := List.mem_iff_getElem.mp hpair
    have hlt : i < 8 := by simpa using hi
    have hplace := h i
    rw [tile?_of_lt _ hlt, tile?_of_lt _ hlt] at hplace
    simpa using (tileSatisfies_iff _ _).mpr hplace

theorem tile?_apply (current update : Tiles) (i : Nat) :
    (current.apply update).tile? i =
      applyTile update.specified (current.tile? i) (update.tile? i) := by
  by_cases h : i < 8
  · simp [tile?_of_lt _ h, apply]
  · simp [tile?_of_le _ (by omega : 8 ≤ i), applyTile]

theorem tile?_restrictedTo (tiles mask : Tiles) (i : Nat) :
    (tiles.restrictedTo mask).tile? i =
      if (mask.tile? i).isSome then tiles.tile? i else none := by
  by_cases h : i < 8
  · simp [tile?_of_lt _ h, restrictedTo]
  · simp [tile?_of_le _ (by omega : 8 ≤ i)]

theorem mem_specified_of_restrictedTo {tiles mask : Tiles} {tile : Tile}
    (h : tile ∈ (tiles.restrictedTo mask).specified) : tile ∈ tiles.specified := by
  obtain ⟨i, hget⟩ := (mem_specified _ _).mp h
  rw [tile?_restrictedTo] at hget
  split at hget
  · exact (mem_specified _ _).mpr ⟨i, hget⟩
  · simp at hget

end Tiles

/-! ### States -/

namespace MaterialState

theorem satisfies_iff (s target : MaterialState) :
    s.satisfies target = true ↔
      (∀ i w, target.tiles.tile? i = some w →
        ∃ c, s.tiles.tile? i = some c ∧ c.Provides w) ∧
      (∀ r, Agrees (s.registers.get r) (target.registers.get r)) ∧
      (∀ i, Agrees (s.geometry.position? i) (target.geometry.position? i)) := by
  simp only [satisfies, Bool.and_eq_true, Tiles.satisfies_iff, Registers.satisfies_iff,
    GeometryRegister.satisfies_iff, and_assoc]

theorem satisfies_refl (s : MaterialState) : s.satisfies s = true :=
  (satisfies_iff s s).mpr
    ⟨fun _ w hw => ⟨w, hw, Tile.Provides.refl w⟩, fun _ => Agrees.refl _, fun _ => Agrees.refl _⟩

theorem satisfies_trans {a b c : MaterialState} (hab : a.satisfies b = true)
    (hbc : b.satisfies c = true) : a.satisfies c = true := by
  obtain ⟨htilesAB, hregistersAB, hgeometryAB⟩ := (satisfies_iff a b).mp hab
  obtain ⟨htilesBC, hregistersBC, hgeometryBC⟩ := (satisfies_iff b c).mp hbc
  refine (satisfies_iff a c).mpr ⟨?_, ?_, ?_⟩
  · intro i w hw
    obtain ⟨middle, hmiddle, hprovidesBC⟩ := htilesBC i w hw
    obtain ⟨current, hcurrent, hprovidesAB⟩ := htilesAB i middle hmiddle
    exact ⟨current, hcurrent, hprovidesAB.trans hprovidesBC⟩
  · exact fun r => (hregistersAB r).trans (hregistersBC r)
  · exact fun i => (hgeometryAB i).trans (hgeometryBC i)

theorem apply_satisfies (s update : MaterialState) : (s.apply update).satisfies update = true := by
  refine (satisfies_iff _ _).mpr ⟨?_, ?_, ?_⟩
  · intro i w hw
    refine ⟨w, ?_, Tile.Provides.refl w⟩
    rw [apply, Tiles.tile?_apply, hw]
    rfl
  · intro r
    rw [apply, Registers.get_apply]
    exact Agrees.or_self _ _
  · intro i
    rw [apply, GeometryRegister.position?_apply]
    exact Agrees.or_self _ _

end MaterialState

end SceneCompiler
