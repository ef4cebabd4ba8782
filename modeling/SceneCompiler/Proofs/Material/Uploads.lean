import SceneCompiler.Material.Execution
import SceneCompiler.Material.Transition
import SceneCompiler.Proofs.Material.Satisfaction

/-!
# What a transition uploads

Textures and palettes are uploaded by one rule: a wanted tile asks for an entry, and the entry is
uploaded unless a tile of the current state, or an earlier wanted tile, has asked for the same one.
The rule is stated once, for any kind of entry (`missingLoads`), and both kinds of uploads are
instances of it.

A memory that remembers the last entry under each key then holds, after the uploads, what the
wanted tiles ask for, except where a tile of the current state asked for it first
(`lookup_missingLoads`). Whether such a tile is to be believed is not decided here.
-/

namespace SceneCompiler

/-! ### What tiles ask for -/

namespace Tile

/-- The texture that a tile samples, under its address. -/
def textureAsk (tile : Tile) : Option (UInt16 × Texture) :=
  tile.texture.map (tile.params.address, ·)

/-- The palette that a tile's texture goes through, under the palette slot of the tile. -/
def paletteAsk (tile : Tile) : Option (UInt8 × Palette) :=
  (tile.texture.bind (·.palette)).map (tile.params.palette, ·)

theorem textureAsk_eq_some_iff (tile : Tile) (address : UInt16) (t : Texture) :
    tile.textureAsk = some (address, t) ↔
      tile.params.address = address ∧ tile.texture = some t := by
  cases h : tile.texture <;> simp [textureAsk, h]

theorem paletteAsk_eq_some_iff (tile : Tile) (slot : UInt8) (p : Palette) :
    tile.paletteAsk = some (slot, p) ↔
      tile.params.palette = slot ∧ tile.texture.bind (·.palette) = some p := by
  cases h : tile.texture.bind (·.palette) <;> simp [paletteAsk, h, -Option.map_bind]

theorem holdsTexture_eq (tile : Tile) (t : Texture) (address : UInt16) :
    tile.holdsTexture t address = decide (tile.textureAsk = some (address, t)) := by
  simp [holdsTexture, textureAsk_eq_some_iff]

theorem holdsPalette_eq (tile : Tile) (p : Palette) (slot : UInt8) :
    tile.holdsPalette p slot = decide (tile.paletteAsk = some (slot, p)) := by
  simp [holdsPalette, paletteAsk_eq_some_iff]

/-- A tile that is as wanted asks for what the wanted one asks for. -/
theorem Provides.textureAsk {a b : Tile} (h : a.Provides b) {entry : UInt16 × Texture}
    (hask : b.textureAsk = some entry) : a.textureAsk = some entry := by
  obtain ⟨address, t⟩ := entry
  obtain ⟨haddress, htexture⟩ := (b.textureAsk_eq_some_iff address t).mp hask
  exact (a.textureAsk_eq_some_iff address t).mpr
    ⟨by rw [h.params, haddress], h.texture t htexture⟩

theorem Provides.paletteAsk {a b : Tile} (h : a.Provides b) {entry : UInt8 × Palette}
    (hask : b.paletteAsk = some entry) : a.paletteAsk = some entry := by
  obtain ⟨slot, p⟩ := entry
  obtain ⟨hslot, hpalette⟩ := (b.paletteAsk_eq_some_iff slot p).mp hask
  obtain ⟨t, htexture, hp⟩ := Option.bind_eq_some_iff.mp hpalette
  refine (a.paletteAsk_eq_some_iff slot p).mpr ⟨by rw [h.params, hslot], ?_⟩
  rw [h.texture t htexture, Option.bind_some, hp]

end Tile

section Loads

variable {K V : Type} [DecidableEq K] [DecidableEq V] (ask : Tile → Option (K × V))

/-- Whether some of the tiles asks for an entry. -/
def Asked (tiles : List Tile) (key : K) (value : V) : Prop :=
  ∃ tile ∈ tiles, ask tile = some (key, value)

instance (tiles : List Tile) (key : K) (value : V) : Decidable (Asked ask tiles key value) :=
  inferInstanceAs (Decidable (∃ tile ∈ tiles, ask tile = some (key, value)))

/-- Of the tiles, those that ask for an entry under one key ask for the same one. -/
def Consistent (tiles : List Tile) : Prop :=
  ∀ a ∈ tiles, ∀ b ∈ tiles, ∀ key v w,
    ask a = some (key, v) → ask b = some (key, w) → v = w

/-- What the wanted tiles ask for and no tile in place, nor an earlier wanted one, has asked for. -/
def missingLoads (inPlace : List Tile) : List Tile → List (K × V)
  | [] => []
  | wanted :: rest =>
    ((ask wanted).toList.filter fun entry => !inPlace.any fun tile => ask tile = some entry) ++
      missingLoads (inPlace ++ [wanted]) rest

variable {ask}

theorem asked_of_mem_missingLoads {inPlace wanted : List Tile} {entry : K × V}
    (h : entry ∈ missingLoads ask inPlace wanted) : Asked ask wanted entry.1 entry.2 := by
  induction wanted generalizing inPlace with
  | nil => simp [missingLoads] at h
  | cons w rest ih =>
    rcases List.mem_append.mp h with h | h
    · exact ⟨w, List.mem_cons_self, Option.mem_toList.mp (List.mem_filter.mp h).1⟩
    · obtain ⟨tile, htile, hask⟩ := ih h
      exact ⟨tile, List.mem_cons_of_mem w htile, hask⟩

/-- Nothing is loaded under a key that no wanted tile asks for. -/
theorem lookup_missingLoads_of_not_asked {key : K} (inPlace wanted : List Tile)
    (memory : List (K × V)) (hnone : ∀ value, ¬ Asked ask wanted key value) :
    ((missingLoads ask inPlace wanted).reverse ++ memory).lookup key = memory.lookup key := by
  rw [List.lookup_append, List.lookup_eq_none_iff.mpr, Option.none_or]
  rintro ⟨k, v⟩ hentry
  apply bne_iff_ne.mpr
  rintro rfl
  exact hnone v (asked_of_mem_missingLoads (List.mem_reverse.mp hentry))

/-- **What a memory holds after the missing loads.**  If all wanted tiles that ask for something
under a key ask for one value, the memory holds this value there when one of them asks for it and no
tile in place did; otherwise it holds what it held before. -/
theorem lookup_missingLoads {key : K} {value : V} (inPlace wanted : List Tile)
    (memory : List (K × V)) (honly : ∀ w ∈ wanted, ∀ v, ask w = some (key, v) → v = value) :
    ((missingLoads ask inPlace wanted).reverse ++ memory).lookup key =
      if Asked ask wanted key value ∧ ¬ Asked ask inPlace key value then some value
      else memory.lookup key := by
  induction wanted generalizing inPlace memory with
  | nil => simp [missingLoads, Asked]
  | cons w rest ih =>
    have hrest : ∀ x ∈ rest, ∀ v, ask x = some (key, v) → v = value :=
      fun x hx => honly x (List.mem_cons_of_mem w hx)
    simp only [missingLoads, List.reverse_append, List.append_assoc]
    rw [ih _ _ hrest]
    have hasked : Asked ask (w :: rest) key value ↔
        ask w = some (key, value) ∨ Asked ask rest key value := by
      simp [Asked]
    have hplaced : Asked ask (inPlace ++ [w]) key value ↔
        Asked ask inPlace key value ∨ ask w = some (key, value) := by
      simp [Asked, or_and_right, exists_or]
    simp only [hasked, hplaced]
    by_cases hw : ask w = some (key, value)
    · -- the wanted tile asks for the entry itself, so it is loaded here or was in place
      by_cases hin : Asked ask inPlace key value
      · have hany : (inPlace.any fun tile => decide (ask tile = some (key, value))) = true := by
          obtain ⟨x, hx, hask⟩ := hin
          exact List.any_eq_true.mpr ⟨x, hx, decide_eq_true hask⟩
        simp [hw, hin, hany]
      · have hany : (inPlace.any fun tile => decide (ask tile = some (key, value))) = false := by
          rw [List.any_eq_false]
          intro x hx hask
          exact hin ⟨x, hx, of_decide_eq_true hask⟩
        simp [hw, hin, hany]
    · -- whatever is loaded for this tile goes under another key
      have hother : ∀ entry ∈ (ask w).toList, entry.1 ≠ key := by
        rintro ⟨k, v⟩ hentry rfl
        have hv := Option.mem_toList.mp hentry
        exact hw (by rw [hv, honly w List.mem_cons_self v hv])
      have hlookup : ∀ loads : List (K × V), (∀ entry ∈ loads, entry.1 ≠ key) →
          (loads.reverse ++ memory).lookup key = memory.lookup key := by
        intro loads hloads
        rw [List.lookup_append, List.lookup_eq_none_iff.mpr, Option.none_or]
        intro entry hentry
        exact bne_iff_ne.mpr (hloads entry (List.mem_reverse.mp hentry)).symm
      rw [hlookup _ fun entry hentry => hother entry (List.mem_filter.mp hentry).1]
      simp [hw]

end Loads

theorem any_holdsTexture_iff (tiles : List Tile) (t : Texture) (address : UInt16) :
    tiles.any (·.holdsTexture t address) = true ↔ Asked Tile.textureAsk tiles address t := by
  simp [Tile.holdsTexture_eq, Asked]

theorem any_holdsPalette_iff (tiles : List Tile) (p : Palette) (slot : UInt8) :
    tiles.any (·.holdsPalette p slot) = true ↔ Asked Tile.paletteAsk tiles slot p := by
  simp [Tile.holdsPalette_eq, Asked]

/-- A state that satisfies another one asks for what that one asks for. -/
theorem asked_of_satisfies {K V : Type} {ask : Tile → Option (K × V)}
    (hask : ∀ {a b : Tile}, a.Provides b → ∀ {entry : K × V},
      ask b = some entry → ask a = some entry)
    {current target : MaterialState} (h : current.satisfies target = true) {key : K} {value : V}
    (hasked : Asked ask target.tiles.specified key value) :
    Asked ask current.tiles.specified key value := by
  obtain ⟨tile, hmem, htile⟩ := hasked
  obtain ⟨i, hi⟩ := (Tiles.mem_specified _ _).mp hmem
  obtain ⟨actual, hactual, hprovides⟩ := ((MaterialState.satisfies_iff _ _).mp h).1 i tile hi
  exact ⟨actual, (Tiles.mem_specified _ _).mpr ⟨i, hactual⟩, hask hprovides htile⟩

/-! ### The commands of a transition -/

/-- Whether a command writes the descriptor or the rectangle of a tile. -/
def Command.isDescriptor : Command → Bool
  | .state (.setTile _ _) | .state (.setTileSize _ _) => true
  | _ => false

namespace MaterialState

/-- A register that is left open needs no write. -/
theorem registerWrites_cons_of_none {r : Register} {target : Registers} (h : target.get r = none)
    (rest : List Register) (current : Registers) :
    registerWrites (r :: rest) current target = registerWrites rest current target := by
  simp [registerWrites, h]

theorem registerWrites_cons_of_some {r : Register} {target : Registers} {value : r.Value}
    (h : target.get r = some value) (rest : List Register) (current : Registers) :
    registerWrites (r :: rest) current target =
      (if current.get r = some value then [] else [.state (.write r value)]) ++
        registerWrites rest current target := by
  by_cases hcurrent : current.get r = some value
  · simp [registerWrites, h, hcurrent]
  · simp [registerWrites, h, hcurrent]

/-- What is written to registers, and why. -/
theorem mem_registerWrites {registers : List Register} {current target : Registers} {c : Command}
    (h : c ∈ registerWrites registers current target) :
    ∃ r v, c = .state (.write r v) ∧ r ∈ registers ∧ target.get r = some v ∧
      current.get r ≠ some v := by
  obtain ⟨r, hr, hwrite⟩ := List.mem_filterMap.mp h
  split at hwrite
  · rename_i value htarget
    split at hwrite
    · simp at hwrite
    · rename_i hcurrent
      exact ⟨r, value, (Option.some.inj hwrite).symm, hr, htarget, hcurrent⟩
  · simp at hwrite

theorem mem_geometryWrites {current target : GeometryRegister} {c : Command}
    (h : c ∈ geometryWrites current target) : ∃ off on, c = .setGeometryMode off on := by
  unfold geometryWrites at h
  dsimp only at h
  split at h
  · simp at h
  · exact ⟨_, _, List.mem_singleton.mp h⟩

theorem mem_descriptorWrites {place : Nat} {current : Option Tile} {wanted : Tile} {c : Command}
    (h : c ∈ descriptorWrites place current wanted) :
    c = .state (.setTile place wanted.params) ∨ c = .state (.setTileSize place wanted.size) := by
  rcases List.mem_append.mp h with h | h
  · split at h
    · simp at h
    · exact Or.inl (List.mem_singleton.mp h)
  · split at h
    · simp at h
    · exact Or.inr (List.mem_singleton.mp h)

/-- Uploads wait and load; they concern neither registers nor descriptors. -/
theorem mem_uploads {inPlace : List Tile} {wanted : Tile} {c : Command}
    (h : c ∈ textureUploads inPlace wanted ++ paletteUploads inPlace wanted) :
    ∃ command, c = .state command ∧ (∀ r v, command ≠ .write r v) ∧
      (∀ field, command ≠ .touchMode field) ∧ c.isDescriptor = false := by
  rcases List.mem_append.mp h with h | h
  · unfold textureUploads uploadTexture at h
    split at h
    · split at h
      · simp at h
      · simp only [List.mem_cons, List.not_mem_nil, or_false] at h
        rcases h with rfl | rfl | rfl | rfl | rfl <;> exact ⟨_, rfl, by simp, by simp, rfl⟩
    · simp at h
  · unfold paletteUploads uploadPalette at h
    split at h
    · split at h
      · simp at h
      · simp only [List.mem_cons, List.not_mem_nil, or_false] at h
        rcases h with rfl | rfl | rfl <;> exact ⟨_, rfl, by simp, by simp, rfl⟩
    · simp at h

theorem mem_tileWritesFrom {inPlace : List Tile} {place : Nat}
    {pairs : List (Option Tile × Option Tile)} {c : Command}
    (h : c ∈ tileWritesFrom inPlace place pairs) :
    ∃ command, c = .state command ∧ ∀ r v, command ≠ .write r v := by
  induction pairs generalizing inPlace place with
  | nil => simp [tileWritesFrom] at h
  | cons pair rest ih =>
    obtain ⟨current, _ | wanted⟩ := pair
    · exact ih h
    · rw [tileWritesFrom, List.mem_append, List.mem_append] at h
      rcases h with (h | h) | h
      · obtain ⟨command, heq, hwrite, _, _⟩ := mem_uploads h
        exact ⟨command, heq, hwrite⟩
      · rcases mem_descriptorWrites h with rfl | rfl <;> exact ⟨_, rfl, by simp⟩
      · exact ih h

theorem mem_tileWrites {current target : Tiles} {c : Command} (h : c ∈ tileWrites current target) :
    ∃ command, c = .state command ∧ ∀ r v, command ≠ .write r v :=
  mem_tileWritesFrom h

end MaterialState

/-! ### Kinds of uploads -/

namespace Command

/-- What a command loads into texture memory, under its address. -/
def textureLoad? : Command → Option (UInt16 × Texture)
  | .state (.loadBlock texture address) => some (address, texture)
  | _ => none

/-- What a command loads into palette memory, under its slot. -/
def paletteLoad? : Command → Option (UInt8 × Palette)
  | .state (.loadPalette palette slot) => some (slot, palette)
  | _ => none

def isUpload (c : Command) : Bool := c.textureLoad?.isSome || c.paletteLoad?.isSome

end Command

namespace MaterialState

theorem textureLoads_uploads (inPlace : List Tile) (wanted : Tile) :
    (textureUploads inPlace wanted ++ paletteUploads inPlace wanted).filterMap
        Command.textureLoad? =
      wanted.textureAsk.toList.filter fun entry =>
        !inPlace.any fun tile => tile.textureAsk = some entry := by
  have hpalette : (paletteUploads inPlace wanted).filterMap Command.textureLoad? = [] := by
    unfold paletteUploads
    split
    · split <;> rfl
    · rfl
  rw [List.filterMap_append, hpalette, List.append_nil, textureUploads, Tile.textureAsk]
  cases wanted.texture with
  | none => rfl
  | some t =>
    simp only [Tile.holdsTexture_eq, Option.map_some, Option.toList_some]
    split
    · rename_i h
      simp [h]
    · rename_i h
      simp [h]
      rfl

theorem paletteLoads_uploads (inPlace : List Tile) (wanted : Tile) :
    (textureUploads inPlace wanted ++ paletteUploads inPlace wanted).filterMap
        Command.paletteLoad? =
      wanted.paletteAsk.toList.filter fun entry =>
        !inPlace.any fun tile => tile.paletteAsk = some entry := by
  have htexture : (textureUploads inPlace wanted).filterMap Command.paletteLoad? = [] := by
    unfold textureUploads
    split
    · split <;> rfl
    · rfl
  rw [List.filterMap_append, htexture, List.nil_append, paletteUploads, Tile.paletteAsk]
  cases wanted.texture.bind (·.palette) with
  | none => rfl
  | some p =>
    simp only [Tile.holdsPalette_eq, Option.map_some, Option.toList_some]
    split
    · rename_i h
      simp [h]
    · rename_i h
      simp [h]
      rfl

end MaterialState

/-- A kind of upload: what tiles ask for, and what commands load. -/
structure UploadKind (K V : Type) [DecidableEq K] [DecidableEq V] where
  ask : Tile → Option (K × V)
  load? : Command → Option (K × V)
  load?_eq_none : ∀ c : Command, c.isUpload = false → load? c = none
  filterMap_uploads : ∀ inPlace wanted,
    (MaterialState.textureUploads inPlace wanted ++
        MaterialState.paletteUploads inPlace wanted).filterMap load? =
      (ask wanted).toList.filter fun entry => !inPlace.any fun tile => ask tile = some entry

namespace UploadKind

def texture : UploadKind UInt16 Texture where
  ask := Tile.textureAsk
  load? := Command.textureLoad?
  load?_eq_none := by
    intro c hc
    simpa using (Bool.or_eq_false_iff.mp hc).1
  filterMap_uploads := MaterialState.textureLoads_uploads

def palette : UploadKind UInt8 Palette where
  ask := Tile.paletteAsk
  load? := Command.paletteLoad?
  load?_eq_none := by
    intro c hc
    simpa using (Bool.or_eq_false_iff.mp hc).2
  filterMap_uploads := MaterialState.paletteLoads_uploads

variable {K V : Type} [DecidableEq K] [DecidableEq V] (kind : UploadKind K V)

def loads (commands : List Command) : List (K × V) := commands.filterMap kind.load?

theorem loads_append (xs ys : List Command) :
    kind.loads (xs ++ ys) = kind.loads xs ++ kind.loads ys := List.filterMap_append

theorem loads_eq_nil {commands : List Command} (h : ∀ c ∈ commands, c.isUpload = false) :
    kind.loads commands = [] :=
  List.filterMap_eq_nil_iff.mpr fun c hc => kind.load?_eq_none c (h c hc)

theorem loads_tileWritesFrom (inPlace : List Tile) (place : Nat)
    (pairs : List (Option Tile × Option Tile)) :
    kind.loads (MaterialState.tileWritesFrom inPlace place pairs) =
      missingLoads kind.ask inPlace (pairs.filterMap Prod.snd) := by
  induction pairs generalizing inPlace place with
  | nil => rfl
  | cons pair rest ih =>
    obtain ⟨current, _ | wanted⟩ := pair
    · simpa only [MaterialState.tileWritesFrom, List.filterMap_cons] using ih inPlace (place + 1)
    · have hwrites : kind.loads (MaterialState.descriptorWrites place current wanted) = [] := by
        apply kind.loads_eq_nil
        intro c hc
        rcases MaterialState.mem_descriptorWrites hc with rfl | rfl <;> rfl
      simp only [MaterialState.tileWritesFrom, List.filterMap_cons, missingLoads]
      rw [loads_append, loads_append, hwrites, ih, List.append_nil, loads, kind.filterMap_uploads]

/-- **What a transition uploads**: what the target's tiles ask for and the current ones do not. -/
theorem loads_transition (current target : MaterialState) :
    kind.loads (MaterialState.transition current target) =
      missingLoads kind.ask current.tiles.specified target.tiles.specified := by
  have hregisters : ∀ registers, kind.loads
      (MaterialState.registerWrites registers current.registers target.registers) = [] := by
    intro registers
    apply kind.loads_eq_nil
    intro c hc
    obtain ⟨r, v, rfl, _⟩ := MaterialState.mem_registerWrites hc
    rfl
  have hgeometry : kind.loads
      (MaterialState.geometryWrites current.geometry target.geometry) = [] := by
    apply kind.loads_eq_nil
    intro c hc
    obtain ⟨off, on, rfl⟩ := MaterialState.mem_geometryWrites hc
    rfl
  have hwanted : (current.tiles.toList.zip target.tiles.toList).filterMap Prod.snd =
      target.tiles.specified := by
    calc (current.tiles.toList.zip target.tiles.toList).filterMap Prod.snd
        = ((current.tiles.toList.zip target.tiles.toList).map Prod.snd).filterMap id := by
          rw [List.filterMap_map]
          rfl
      _ = target.tiles.specified := by
          rw [List.map_snd_zip (by simp)]
          rfl
  have hwrites : kind.loads (MaterialState.writes current target) =
      missingLoads kind.ask current.tiles.specified target.tiles.specified := by
    simp only [MaterialState.writes, loads_append, hregisters, hgeometry, List.nil_append,
      MaterialState.tileWrites, loads_tileWritesFrom, hwanted]
  rw [← hwrites]
  unfold MaterialState.transition
  split
  · rename_i h
    rw [h]
  · have hsync : kind.loads [.state .pipeSync] = [] := by
      apply kind.loads_eq_nil
      intro c hc
      obtain rfl := List.mem_singleton.mp hc
      rfl
    rw [← List.singleton_append, loads_append, hsync, List.nil_append]

end UploadKind

end SceneCompiler
