import SceneCompiler.Proofs.Material.Uploads

/-!
# Tiles and texture memory

A tile records the texture at its address, so what the tiles say can contradict itself. It does not
when the state is coherent, and then a machine that starts from the state is *resident*: every tile
samples what texture memory holds at its address. Commands keep a machine resident, except that a
rectangle must not be set for a tile that is not specified yet.
-/

namespace SceneCompiler

/-! ### Coherent states -/

/-- Specified tiles at one address have the same texture entry; no texture is an entry too. -/
def Tiles.Coherent (tiles : Tiles) : Prop :=
  ∀ a ∈ tiles.specified, ∀ b ∈ tiles.specified,
    a.params.address = b.params.address → a.texture = b.texture

def MaterialState.Coherent (s : MaterialState) : Prop := s.tiles.Coherent

instance (s : MaterialState) : Decidable s.Coherent :=
  inferInstanceAs (Decidable (∀ a ∈ s.tiles.specified, ∀ b ∈ s.tiles.specified,
    a.params.address = b.params.address → a.texture = b.texture))

theorem MaterialState.Coherent.restrictedTo {s : MaterialState} (h : s.Coherent)
    (mask : MaterialState) : (s.restrictedTo mask).Coherent :=
  fun a ha b hb => h a (Tiles.mem_specified_of_restrictedTo ha) b
    (Tiles.mem_specified_of_restrictedTo hb)

theorem Tiles.Coherent.consistent {tiles : Tiles} (h : tiles.Coherent) :
    Consistent Tile.textureAsk tiles.specified := by
  intro a ha b hb address t u hat hbu
  obtain ⟨haddress, htexture⟩ := (a.textureAsk_eq_some_iff address t).mp hat
  obtain ⟨haddress', htexture'⟩ := (b.textureAsk_eq_some_iff address u).mp hbu
  have hsame := h a ha b hb (haddress.trans haddress'.symm)
  rw [htexture, htexture'] at hsame
  exact Option.some.inj hsame

theorem Consistent.restrictedTo {K V : Type} {ask : Tile → Option (K × V)} {tiles : Tiles}
    (h : Consistent ask tiles.specified) (mask : Tiles) :
    Consistent ask (tiles.restrictedTo mask).specified :=
  fun a ha b hb => h a (Tiles.mem_specified_of_restrictedTo ha) b
    (Tiles.mem_specified_of_restrictedTo hb)

/-- The memory that coherent tiles tell of holds at an address what a tile there samples. -/
theorem TextureMemory.get?_ofTiles_eq_some_iff {tiles : Tiles} (h : tiles.Coherent)
    {address : UInt16} {t : Texture} :
    (ofTiles tiles).get? address = some t ↔
      ∃ tile ∈ tiles.specified, tile.params.address = address ∧ tile.texture = some t := by
  have hentry : ∀ u, (address, u) ∈ ofTiles tiles ↔
      ∃ tile ∈ tiles.specified, tile.params.address = address ∧ tile.texture = some u := by
    intro u
    simp only [ofTiles, List.mem_filterMap, List.mem_reverse]
    exact exists_congr fun tile => and_congr_right fun _ => tile.textureAsk_eq_some_iff address u
  constructor
  · intro hfound
    obtain ⟨before, after, heq, _⟩ := List.lookup_eq_some_iff.mp hfound
    rw [← hentry, heq]
    simp
  · intro hasked
    cases hfound : (ofTiles tiles).get? address with
    | none =>
      have hne := List.lookup_eq_none_iff.mp hfound _ ((hentry t).mpr hasked)
      simp at hne
    | some u =>
      obtain ⟨before, after, heq, _⟩ := List.lookup_eq_some_iff.mp hfound
      obtain ⟨a, ha, haddress, hu⟩ := (hentry u).mp (by rw [heq]; simp)
      obtain ⟨b, hb, haddress', ht⟩ := hasked
      rw [← hu, h a ha b hb (haddress.trans haddress'.symm), ht]

/-! ### How commands change tiles -/

namespace Tiles

theorem tile?_load (tiles : Tiles) (texture : Texture) (address : UInt16) (i : Nat) :
    (tiles.load texture address).tile? i =
      (tiles.tile? i).map fun tile =>
        if tile.params.address = address then { tile with texture := some texture } else tile := by
  by_cases h : i < 8
  · simp [tile?_of_lt _ h, load]
  · simp [tile?_of_le _ (by omega : 8 ≤ i)]

theorem tile?_modify_of_ne (tiles : Tiles) {place i : Nat} (change : Tile → Tile)
    (h : i ≠ place) : (tiles.modify place change).tile? i = tiles.tile? i := by
  by_cases hlt : i < 8
  · simp [tile?_of_lt _ hlt, modify, h]
  · simp [tile?_of_le _ (by omega : 8 ≤ i)]

theorem tile?_modify_self (tiles : Tiles) {place : Nat} (change : Tile → Tile)
    (h : place < 8) :
    (tiles.modify place change).tile? place = some (change ((tiles.tile? place).getD {})) := by
  simp [tile?_of_lt _ h, modify]

/-- A specified tile of modified tiles is the one that was changed, or it was there before. -/
theorem eq_or_of_tile?_modify {tiles : Tiles} {place i : Nat} {change : Tile → Tile} {tile : Tile}
    (h : (tiles.modify place change).tile? i = some tile) :
    (i = place ∧ tile = change ((tiles.tile? i).getD {})) ∨ tiles.tile? i = some tile := by
  by_cases hi : i = place
  · subst hi
    rw [tile?_modify_self _ _ (lt_of_tile? h)] at h
    exact .inl ⟨rfl, (Option.some.inj h).symm⟩
  · rw [tile?_modify_of_ne _ _ hi] at h
    exact .inr h

end Tiles

namespace MaterialState.Machine

/-! ### Running commands -/

@[simp] theorem run_nil (m : Machine) : m.run [] = m := rfl

@[simp] theorem run_cons (m : Machine) (c : Command) (commands : List Command) :
    m.run (c :: commands) = (m.step c).run commands := rfl

theorem run_append (m : Machine) (xs ys : List Command) :
    m.run (xs ++ ys) = (m.run xs).run ys := List.foldl_append

theorem memory_run (m : Machine) (commands : List Command) :
    (m.run commands).memory = (UploadKind.texture.loads commands).reverse ++ m.memory := by
  induction commands generalizing m with
  | nil => rfl
  | cons c rest ih =>
    have hstep : (m.step c).memory = (UploadKind.texture.loads [c]).reverse ++ m.memory := by
      cases c with
      | state command => cases command <;> rfl
      | _ => rfl
    have hsplit : UploadKind.texture.loads (c :: rest) =
        UploadKind.texture.loads [c] ++ UploadKind.texture.loads rest :=
      UploadKind.texture.loads_append [c] rest
    rw [run_cons, ih, hstep, hsplit, List.reverse_append, List.append_assoc]

/-! ### Resident machines -/

/-- Every specified tile samples what texture memory holds at its address. -/
def Resident (m : Machine) : Prop :=
  ∀ i tile, m.state.tiles.tile? i = some tile →
    tile.texture = m.memory.get? tile.params.address

theorem resident_ofState {s : MaterialState} (h : s.Coherent) : (ofState s).Resident := by
  intro i tile htile
  have hmem := (Tiles.mem_specified s.tiles tile).mpr ⟨i, htile⟩
  apply Option.ext
  intro t
  rw [show (ofState s).memory = TextureMemory.ofTiles s.tiles from rfl,
    TextureMemory.get?_ofTiles_eq_some_iff h]
  constructor
  · exact fun ht => ⟨tile, hmem, rfl, ht⟩
  · rintro ⟨other, hother, haddress, ht⟩
    rw [← h other hother tile hmem haddress, ht]

/-- Tiles that sample texture memory cannot contradict each other. -/
theorem Resident.coherent {m : Machine} (h : m.Resident) : m.state.Coherent := by
  intro a ha b hb haddress
  obtain ⟨i, hi⟩ := (Tiles.mem_specified _ _).mp ha
  obtain ⟨j, hj⟩ := (Tiles.mem_specified _ _).mp hb
  rw [h i a hi, h j b hj, haddress]

/-- The descriptor and the rectangle of a tile, if it is specified. -/
def shape? (m : Machine) (i : Nat) : Option (TileParams × TileSize) :=
  (m.state.tiles.tile? i).map Tile.shape

/-- What is read off a machine is kept if every command keeps it. -/
theorem run_keeps {α : Type} (read : Machine → α) {commands : List Command}
    (h : ∀ c ∈ commands, ∀ m : Machine, read (m.step c) = read m) (m : Machine) :
    read (m.run commands) = read m := by
  induction commands generalizing m with
  | nil => rfl
  | cons c rest ih =>
    rw [run_cons, ih fun d hd => h d (List.mem_cons_of_mem c hd), h c List.mem_cons_self]

theorem shape?_step (m : Machine) {c : Command} (h : c.isDescriptor = false) :
    (m.step c).shape? = m.shape? := by
  funext i
  cases c with
  | state command =>
    cases command with
    | loadBlock texture address =>
      simp only [shape?, step, stateStep, Tiles.tile?_load, Option.map_map]
      congr 1
      funext tile
      by_cases haddress : tile.params.address = address
      · simp [Tile.shape, haddress]
      · simp [haddress]
    | setTile place params => simp [Command.isDescriptor] at h
    | setTileSize place size => simp [Command.isDescriptor] at h
    | _ => rfl
  | _ => rfl

theorem Resident.load {m : Machine} (h : m.Resident) (texture : Texture) (address : UInt16) :
    (m.stateStep (.loadBlock texture address)).Resident := by
  intro i tile htile
  simp only [stateStep, Tiles.tile?_load, Option.map_eq_some_iff] at htile
  obtain ⟨old, hold, rfl⟩ := htile
  have hresident := h i old hold
  by_cases haddress : old.params.address = address
  · simp [haddress, stateStep, TextureMemory.get?]
  · have hne : (old.params.address == address) = false := by simpa using haddress
    simpa [haddress, stateStep, TextureMemory.get?, List.lookup_cons, hne] using hresident

/-- A tile that is moved samples what lies at its new address. -/
theorem Resident.setTile {m : Machine} (h : m.Resident) (place : Nat) (params : TileParams) :
    (m.stateStep (.setTile place params)).Resident := by
  intro i tile htile
  obtain ⟨-, rfl⟩ | hkept := Tiles.eq_or_of_tile?_modify htile
  · rfl
  · exact h i tile hkept

theorem Resident.setTileSize {m : Machine} (h : m.Resident) {place : Nat} (size : TileSize)
    (hspecified : (m.shape? place).isSome) :
    (m.stateStep (.setTileSize place size)).Resident := by
  intro i tile htile
  obtain ⟨rfl, rfl⟩ | hkept := Tiles.eq_or_of_tile?_modify htile
  · obtain ⟨old, hold⟩ := Option.isSome_iff_exists.mp (by simpa [shape?] using hspecified)
    rw [hold]
    exact h i old hold
  · exact h i tile hkept

/-- The commands that write no descriptors keep a machine resident. -/
theorem Resident.step {m : Machine} (h : m.Resident) {c : Command}
    (hc : c.isDescriptor = false) : (m.step c).Resident := by
  cases c with
  | state command =>
    cases command with
    | loadBlock texture address => exact h.load texture address
    | setTile place params => simp [Command.isDescriptor] at hc
    | setTileSize place size => simp [Command.isDescriptor] at hc
    | _ => exact h
  | _ => exact h

theorem Resident.run {commands : List Command} (hc : ∀ c ∈ commands, c.isDescriptor = false)
    {m : Machine} (h : m.Resident) : (m.run commands).Resident := by
  induction commands generalizing m with
  | nil => exact h
  | cons c rest ih =>
    exact ih (fun d hd => hc d (List.mem_cons_of_mem c hd)) (h.step (hc c List.mem_cons_self))

/-- A change to one tile reshapes it, from the shape of an empty descriptor if it is open, and changes
no other shape. -/
theorem shape?_modify (m : Machine) {place : Nat} (h : place < 8) {change : Tile → Tile}
    (reshape : TileParams × TileSize → TileParams × TileSize)
    (hchange : ∀ tile, (change tile).shape = reshape tile.shape) (i : Nat) :
    { m with state.tiles := m.state.tiles.modify place change : Machine }.shape? i =
      if i = place then some (reshape ((m.shape? place).getD ({}, {}))) else m.shape? i := by
  unfold shape?
  split
  · rename_i hi
    rw [hi, Tiles.tile?_modify_self _ _ h, Option.map_some, hchange,
      ← Option.getD_map Tile.shape]
    rfl
  · rename_i hi
    rw [Tiles.tile?_modify_of_ne _ _ hi]

theorem shape?_setTile (m : Machine) {place : Nat} (h : place < 8) (params : TileParams)
    (i : Nat) :
    (m.stateStep (.setTile place params)).shape? i =
      if i = place then some (params, ((m.shape? place).getD ({}, {})).2) else m.shape? i :=
  m.shape?_modify h (fun shape => (params, shape.2)) (fun _ => rfl) i

theorem shape?_setTileSize (m : Machine) {place : Nat} (h : place < 8) (size : TileSize)
    (i : Nat) :
    (m.stateStep (.setTileSize place size)).shape? i =
      if i = place then some (((m.shape? place).getD ({}, {})).1, size) else m.shape? i :=
  m.shape?_modify h (fun shape => (shape.1, size)) (fun _ => rfl) i

/-- The writes for one tile give it the wanted shape, change no other shape, and keep the machine
resident, if the tile is specified as far as it was thought to be. -/
theorem run_descriptorWrites {m : Machine} (hresident : m.Resident) {place : Nat}
    (hplace : place < 8) {current : Option Tile} (wanted : Tile)
    (hcurrent : ∀ c, current = some c → m.shape? place = some c.shape) :
    (m.run (descriptorWrites place current wanted)).Resident ∧
      ∀ i, (m.run (descriptorWrites place current wanted)).shape? i =
        if i = place then some wanted.shape else m.shape? i := by
  unfold descriptorWrites
  rw [run_append]
  -- after the first half the tile is specified, and only its rectangle can be wrong
  have hparams : ∀ start, start =
      m.run (if current.map (·.params) = some wanted.params then []
        else [.state (.setTile place wanted.params)]) →
      start.Resident ∧
        ∀ i, start.shape? i =
          if i = place then some (wanted.params, ((m.shape? place).getD ({}, {})).2)
          else m.shape? i := by
    rintro start rfl
    split
    · rename_i hsame
      obtain ⟨c, rfl, hc⟩ := Option.map_eq_some_iff.mp hsame
      refine ⟨hresident, fun i => ?_⟩
      by_cases hi : i = place
      · simp [hi, hcurrent c rfl, Tile.shape, hc]
      · simp [hi]
    · exact ⟨hresident.setTile place wanted.params, shape?_setTile m hplace wanted.params⟩
  generalize hstart : m.run _ = start
  obtain ⟨hstartResident, hstartShape⟩ := hparams start hstart.symm
  have hspecified := hstartShape place
  rw [if_pos rfl] at hspecified
  split
  · rename_i hsame
    obtain ⟨c, rfl, hc⟩ := Option.map_eq_some_iff.mp hsame
    refine ⟨hstartResident, fun i => ?_⟩
    rw [run_nil, hstartShape]
    by_cases hi : i = place
    · simp [hi, hcurrent c rfl, Tile.shape, hc]
    · simp [hi]
  · refine ⟨hstartResident.setTileSize wanted.size (by simp [hspecified]), fun i => ?_⟩
    rw [run_cons, run_nil, step, shape?_setTileSize start hplace, hspecified, hstartShape]
    by_cases hi : i = place
    · simp [hi, Tile.shape]
    · simp [hi]

end MaterialState.Machine

end SceneCompiler
