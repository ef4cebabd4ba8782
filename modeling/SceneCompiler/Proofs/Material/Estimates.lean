import SceneCompiler.Proofs.Material.Missing

/-!
# Knowing more costs no more

A transition that is written from more knowledge is the other one with commands taken out, except
that the command to the switches may turn fewer of them. For registers this is plain. For tiles the
two transitions are compared tile by tile: whatever the tiles in place ask for in the one, they ask
for in the other, and this stays so as wanted tiles come to be in place (`TellsMore.append`). So
every upload that is left out from less knowledge is also left out from more.

With costs that are not negative, the transition from more knowledge costs no more
(`Timing.transitionCost_le_of_satisfies`).
-/

namespace SceneCompiler

/-- What is left out under a weaker condition leaves less. -/
theorem optional_sublist {α : Type} {p q : Prop} [Decidable p] [Decidable q] (xs : List α)
    (h : q → p) : (if p then [] else xs).Sublist (if q then [] else xs) := by
  by_cases hp : p
  · rw [if_pos hp]
    exact List.nil_sublist _
  · rw [if_neg hp, if_neg (mt h hp)]

namespace MaterialState

/-! ### Registers and switches -/

theorem registerWrites_sublist {known current : Registers}
    (h : ∀ r, Agrees (known.get r) (current.get r)) (registers : List Register)
    (target : Registers) :
    (registerWrites registers known target).Sublist (registerWrites registers current target) := by
  induction registers with
  | nil => exact List.Sublist.refl _
  | cons r rest ih =>
    cases htarget : target.get r with
    | none =>
      rw [registerWrites_cons_of_none htarget, registerWrites_cons_of_none htarget]
      exact ih
    | some value =>
      rw [registerWrites_cons_of_some htarget, registerWrites_cons_of_some htarget]
      exact (optional_sublist _ (h r value)).append ih

/-- The command to the switches costs the same however many it turns. -/
theorem costs_geometryWrites (timing : Timing ℚ) (current target : GeometryRegister) :
    (geometryWrites current target).map timing.cost =
      if geometryWrites current target = [] then [] else [timing.geometryMode] := by
  unfold geometryWrites
  dsimp only
  split <;> rfl

theorem costs_geometryWrites_sublist {known current : GeometryRegister}
    (h : ∀ i, Agrees (known.position? i) (current.position? i)) (timing : Timing ℚ)
    (target : GeometryRegister) :
    ((geometryWrites known target).map timing.cost).Sublist
      ((geometryWrites current target).map timing.cost) := by
  rw [costs_geometryWrites, costs_geometryWrites]
  apply optional_sublist
  rw [geometryWrites_eq_nil_iff, geometryWrites_eq_nil_iff]
  exact fun hnone i => (h i).trans (hnone i)

/-! ### Tiles -/

/-- Whatever some tiles ask for, the others ask for as well. -/
structure TellsMore (known current : List Tile) : Prop where
  texture : ∀ address t, Asked Tile.textureAsk current address t →
    Asked Tile.textureAsk known address t
  palette : ∀ slot p, Asked Tile.paletteAsk current slot p → Asked Tile.paletteAsk known slot p

namespace TellsMore

variable {known current : List Tile}

theorem of_satisfies {known current : MaterialState} (h : known.satisfies current = true) :
    TellsMore known.tiles.specified current.tiles.specified where
  texture _ _ := asked_of_satisfies Tile.Provides.textureAsk h
  palette _ _ := asked_of_satisfies Tile.Provides.paletteAsk h

theorem append (h : TellsMore known current) (more : List Tile) :
    TellsMore (known ++ more) (current ++ more) := by
  have happend : ∀ {K V : Type} {ask : Tile → Option (K × V)} {key : K} {value : V},
      (Asked ask current key value → Asked ask known key value) →
        Asked ask (current ++ more) key value → Asked ask (known ++ more) key value := by
    rintro K V ask key value hasked ⟨tile, hmem, hask⟩
    rcases List.mem_append.mp hmem with hmem | hmem
    · obtain ⟨other, hother, hsame⟩ := hasked ⟨tile, hmem, hask⟩
      exact ⟨other, List.mem_append_left more hother, hsame⟩
    · exact ⟨tile, List.mem_append_right known hmem, hask⟩
  exact ⟨fun address t => happend (h.texture address t), fun slot p => happend (h.palette slot p)⟩

end TellsMore

section Tiles

variable {known current : List Tile}

theorem uploads_sublist (h : TellsMore known current) (wanted : Tile) :
    (textureUploads known wanted ++ paletteUploads known wanted).Sublist
      (textureUploads current wanted ++ paletteUploads current wanted) := by
  apply List.Sublist.append
  · unfold textureUploads
    cases wanted.texture with
    | none => exact List.Sublist.refl _
    | some t =>
      apply optional_sublist
      rw [any_holdsTexture_iff, any_holdsTexture_iff]
      exact h.texture _ t
  · unfold paletteUploads
    cases wanted.texture.bind (·.palette) with
    | none => exact List.Sublist.refl _
    | some p =>
      apply optional_sublist
      rw [any_holdsPalette_iff, any_holdsPalette_iff]
      exact h.palette _ p

/-- A tile has the shape of another one, if that one is known. -/
def SameShape (known current : Option Tile) : Prop :=
  Agrees (known.map Tile.shape) (current.map Tile.shape)

theorem descriptorWrites_sublist {known current : Option Tile} (h : SameShape known current)
    (place : Nat) (wanted : Tile) :
    (descriptorWrites place known wanted).Sublist (descriptorWrites place current wanted) := by
  have hshape : ∀ {α : Type} (read : Tile → α) (half : TileParams × TileSize → α),
      (∀ tile, read tile = half tile.shape) → ∀ value,
        current.map read = some value → known.map read = some value := by
    intro α read half hread value hvalue
    obtain ⟨tile, rfl, rfl⟩ := Option.map_eq_some_iff.mp hvalue
    obtain ⟨other, rfl, hsame⟩ := Option.map_eq_some_iff.mp (h tile.shape rfl)
    rw [Option.map_some, hread, hread, hsame]
  exact (optional_sublist _ (hshape _ Prod.fst (fun _ => rfl) _)).append
    (optional_sublist _ (hshape _ Prod.snd (fun _ => rfl) _))

/-- **Tile by tile** less is written from more knowledge. The tiles that come to be in place are the
same for both. -/
theorem tileWritesFrom_sublist {inPlace inPlace' : List Tile} (h : TellsMore inPlace inPlace')
    {known current : List (Option Tile)} (hshapes : List.Forall₂ SameShape known current)
    (wanted : List (Option Tile)) (place : Nat) :
    (tileWritesFrom inPlace place (known.zip wanted)).Sublist
      (tileWritesFrom inPlace' place (current.zip wanted)) := by
  induction hshapes generalizing inPlace inPlace' wanted place with
  | nil => exact List.Sublist.refl _
  | cons hshape _ ih =>
    match wanted with
    | [] => exact List.Sublist.refl _
    | none :: rest => exact ih h rest (place + 1)
    | some tile :: rest =>
      exact ((uploads_sublist h tile).append (descriptorWrites_sublist hshape place tile)).append
        (ih (h.append [tile]) rest (place + 1))

end Tiles

theorem sameShape_of_satisfies {known current : MaterialState} (h : known.satisfies current = true) :
    List.Forall₂ SameShape known.tiles.toList current.tiles.toList := by
  obtain ⟨htiles, _, _⟩ := (satisfies_iff known current).mp h
  refine List.forall₂_iff_get.mpr ⟨by simp, fun i hi _ shape hshape => ?_⟩
  have hlt : i < 8 := by simpa using hi
  obtain ⟨tile, htile, rfl⟩ := Option.map_eq_some_iff.mp hshape
  obtain ⟨other, hother, hprovides⟩ := htiles i tile (by
    rw [Tiles.tile?_of_lt _ hlt]
    simpa using htile)
  rw [Tiles.tile?_of_lt _ hlt] at hother
  have hget : known.tiles.toList.get ⟨i, hi⟩ = some other := by simpa using hother
  rw [hget, Option.map_some, hprovides.shape]

/-! ### Transitions -/

variable {known current : MaterialState}

theorem costs_writes_sublist (h : known.satisfies current = true) (timing : Timing ℚ)
    (target : MaterialState) :
    ((writes known target).map timing.cost).Sublist ((writes current target).map timing.cost) := by
  obtain ⟨_, hregisters, hgeometry⟩ := (satisfies_iff known current).mp h
  have hleading := registerWrites_sublist hregisters Register.leading target.registers
  have hswitches := costs_geometryWrites_sublist hgeometry timing target.geometry
  have htrailing := registerWrites_sublist hregisters Register.trailing target.registers
  have htiles := tileWritesFrom_sublist (TellsMore.of_satisfies h) (sameShape_of_satisfies h)
    target.tiles.toList 0
  simp only [writes, List.map_append]
  exact (((hleading.map _).append hswitches).append (htrailing.map _)).append (htiles.map _)

/-- **Knowing more takes commands out**, and what is left costs the same command by command. The wait
at the start is left out when nothing comes after it. -/
theorem costs_transition_sublist (h : known.satisfies current = true) (timing : Timing ℚ)
    (target : MaterialState) :
    ((transition known target).map timing.cost).Sublist
      ((transition current target).map timing.cost) := by
  have hwrites := costs_writes_sublist h timing target
  unfold transition
  split
  · exact List.nil_sublist _
  · rename_i hknown
    split
    · rename_i hnone
      rw [hnone, List.map_nil, List.sublist_nil, List.map_eq_nil_iff] at hwrites
      exact absurd hwrites hknown
    · rw [List.map_cons, List.map_cons]
      exact hwrites.cons_cons _

end MaterialState

namespace Timing

variable {timing : Timing ℚ}

/-- What a transition is said to cost is what its commands cost. -/
theorem transitionCost_eq_total (timing : Timing ℚ) (current target : MaterialState) :
    timing.transitionCost current target =
      timing.total (MaterialState.transition current target) := by
  unfold transitionCost MaterialState.transition
  split
  · rfl
  · rw [total_exact, total_exact, List.map_cons, List.sum_cons, add_comm]
    rfl

theorem total_le_of_sublist (h : ∀ entry ∈ timing.entries, 0 ≤ entry) {xs ys : List Command}
    (hcosts : (xs.map timing.cost).Sublist (ys.map timing.cost)) :
    timing.total xs ≤ timing.total ys := by
  rw [total_exact, total_exact]
  apply hcosts.sum_le_sum
  intro cost hcost
  obtain ⟨c, _, rfl⟩ := List.mem_map.mp hcost
  exact cost_nonneg h c

theorem transitionCost_le_of_satisfies (h : ∀ entry ∈ timing.entries, 0 ≤ entry)
    {known current : MaterialState} (hknown : known.satisfies current = true)
    (target : MaterialState) :
    timing.transitionCost known target ≤ timing.transitionCost current target := by
  rw [transitionCost_eq_total, transitionCost_eq_total]
  exact total_le_of_sublist h (MaterialState.costs_transition_sublist hknown timing target)

end Timing

end SceneCompiler
