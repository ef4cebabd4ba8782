import SceneCompiler.Proofs.Material.Residency

/-!
# Arriving at a state

A transition is written from what is known of the registers, and it leaves out what is known to be
in place. If what is known is true of a resident machine, then the transition has the effect of
applying its target: whatever was known of the machine, it now holds with the target applied to it
(`MaterialState.Machine.run_transition`).

The registers, the switches, the shapes of the tiles and texture memory are changed by different
commands of the transition, so each is followed on its own.
-/

namespace SceneCompiler

namespace MaterialState.Machine

/-! ### Registers -/

/-- Each register that the target fixes holds what it fixes, if those that were not written held
it. -/
theorem get_run_registerWrites (registers : List Register) {current target : Registers} {m : Machine}
    (hkept : ∀ r v, target.get r = some v → current.get r = some v →
      m.state.registers.get r = some v) (r : Register) :
    (m.run (registerWrites registers current target)).state.registers.get r =
      if r ∈ registers then (target.get r).or (m.state.registers.get r)
      else m.state.registers.get r := by
  induction registers generalizing m with
  | nil => simp [registerWrites]
  | cons first rest ih =>
    cases htarget : target.get first with
    | none =>
      rw [registerWrites_cons_of_none htarget, ih hkept]
      by_cases hr : r = first
      · subst hr
        simp [htarget]
      · simp [hr]
    | some value =>
      rw [registerWrites_cons_of_some htarget]
      by_cases hcurrent : current.get first = some value
      · rw [if_pos hcurrent, List.nil_append, ih hkept]
        by_cases hr : r = first
        · subst hr
          simp [htarget, hkept r value htarget hcurrent]
        · simp [hr]
      · have hstep : (m.step (.state (.write first value))).state.registers =
            m.state.registers.write first value := rfl
        -- the register just written now holds what the target fixes
        have hkept' : ∀ r v, target.get r = some v → current.get r = some v →
            (m.step (.state (.write first value))).state.registers.get r = some v := by
          intro other v hv hknown
          rw [hstep]
          by_cases hother : first = other
          · subst hother
            rw [Registers.get_write_self, ← htarget, hv]
          · rw [Registers.get_write_of_ne _ _ hother]
            exact hkept other v hv hknown
        rw [if_neg hcurrent, List.singleton_append, run_cons, ih hkept', hstep]
        by_cases hr : r = first
        · subst hr
          simp [htarget]
        · rw [Registers.get_write_of_ne _ _ (Ne.symm hr)]
          simp [hr]

/-! ### Geometry modes -/

theorem position?_run_geometryWrites {current target : GeometryRegister} {m : Machine}
    (hknown : ∀ i, Agrees (m.state.geometry.position? i) (current.position? i)) (i : Nat) :
    (m.run (geometryWrites current target)).state.geometry.position? i =
      (target.position? i).or (m.state.geometry.position? i) := by
  have hpresent : (current.missing target).getLsbD i = false →
      m.state.geometry.position? i = (target.position? i).or (m.state.geometry.position? i) := by
    intro hmissing
    cases htarget : target.position? i with
    | none => rfl
    | some b =>
      have hcurrent : current.position? i = some b := by
        refine Decidable.byContradiction fun hne => ?_
        rw [(GeometryRegister.getLsbD_missing current target i).mpr ⟨b, htarget, hne⟩] at hmissing
        simp at hmissing
      exact hknown i b hcurrent
  unfold geometryWrites
  dsimp only
  split
  · rename_i hzero
    exact hpresent (by rw [hzero]; simp)
  · rw [run_cons, run_nil, step, GeometryRegister.position?_write]
    cases hmissing : (current.missing target).getLsbD i with
    | false => simpa [BitVec.getLsbD_and, hmissing] using hpresent hmissing
    | true =>
      obtain ⟨b, htarget, _⟩ := (GeometryRegister.getLsbD_missing current target i).mp hmissing
      obtain ⟨hfixed, hon⟩ := (GeometryRegister.position?_eq_some_iff target i b).mp htarget
      have hlt : i < 12 := BitVec.lt_of_getLsbD hfixed
      simp only [BitVec.getLsbD_and, BitVec.getLsbD_not, hmissing, hon, htarget,
        decide_eq_true hlt]
      cases b <;> rfl

/-! ### Shapes of tiles -/

/-- The commands for one tile give it the wanted shape and leave the other shapes alone. -/
theorem run_tile {m : Machine} (hresident : m.Resident) (inPlace : List Tile) {place : Nat}
    (hplace : place < 8) {current : Option Tile} (wanted : Tile)
    (hcurrent : ∀ c, current = some c → m.shape? place = some c.shape) :
    (m.run (textureUploads inPlace wanted ++ paletteUploads inPlace wanted ++
        descriptorWrites place current wanted)).Resident ∧
      ∀ i, (m.run (textureUploads inPlace wanted ++ paletteUploads inPlace wanted ++
          descriptorWrites place current wanted)).shape? i =
        if i = place then some wanted.shape else m.shape? i := by
  have huploads : ∀ c ∈ textureUploads inPlace wanted ++ paletteUploads inPlace wanted,
      c.isDescriptor = false := by
    intro c hc
    obtain ⟨_, _, _, _, hdescriptor⟩ := mem_uploads hc
    exact hdescriptor
  have hloaded := hresident.run huploads
  have hshape := run_keeps shape? (fun c hc m => shape?_step m (huploads c hc)) m
  rw [run_append]
  generalize m.run (textureUploads inPlace wanted ++ paletteUploads inPlace wanted) = loaded
    at hloaded hshape ⊢
  rw [← hshape] at hcurrent ⊢
  exact run_descriptorWrites hloaded hplace wanted hcurrent

/-- The commands for the tiles from one place on give each wanted tile its shape and leave the other
shapes alone. -/
theorem run_tileWritesFrom (inPlace : List Tile) (place : Nat)
    (pairs : List (Option Tile × Option Tile)) {m : Machine} (hresident : m.Resident)
    (hplace : place + pairs.length ≤ 8)
    (hknown : ∀ (j : Nat) c w, pairs[j]? = some (some c, w) → m.shape? (place + j) = some c.shape) :
    (m.run (tileWritesFrom inPlace place pairs)).Resident ∧
      (∀ (j : Nat) c w, pairs[j]? = some (c, some w) →
        (m.run (tileWritesFrom inPlace place pairs)).shape? (place + j) = some w.shape) ∧
      (∀ i, (∀ (j : Nat) c w, pairs[j]? = some (c, some w) → i ≠ place + j) →
        (m.run (tileWritesFrom inPlace place pairs)).shape? i = m.shape? i) := by
  induction pairs generalizing inPlace place m with
  | nil => exact ⟨hresident, by simp, fun _ _ => rfl⟩
  | cons pair rest ih =>
    obtain ⟨current, _ | wanted⟩ := pair
    · have hrest : ∀ (j : Nat) c w, rest[j]? = some (some c, w) →
          m.shape? (place + 1 + j) = some c.shape := by
        intro j c w hj
        have hshape := hknown (j + 1) c w (by simpa using hj)
        rwa [show place + 1 + j = place + (j + 1) by omega]
      simp only [List.length_cons] at hplace
      obtain ⟨hresident', hwanted, hothers⟩ :=
        ih inPlace (place + 1) hresident (by omega) hrest
      refine ⟨hresident', ?_, ?_⟩
      · intro j c w hj
        cases j with
        | zero => simp at hj
        | succ j =>
          have hshape := hwanted j c w (by simpa using hj)
          rwa [show place + (j + 1) = place + 1 + j by omega]
      · intro i hi
        apply hothers i
        intro j c w hj heq
        exact hi (j + 1) c w (by simpa using hj) (by omega)
    · simp only [List.length_cons] at hplace
      have hcurrent : ∀ c, current = some c → m.shape? place = some c.shape := by
        rintro c rfl
        exact hknown 0 c (some wanted) rfl
      obtain ⟨hplacedResident, hplacedShape⟩ :=
        run_tile hresident inPlace (by omega : place < 8) wanted hcurrent
      rw [tileWritesFrom, run_append]
      generalize m.run (textureUploads inPlace wanted ++ paletteUploads inPlace wanted ++
        descriptorWrites place current wanted) = placed at hplacedResident hplacedShape ⊢
      have hrest : ∀ (j : Nat) c w, rest[j]? = some (some c, w) →
          placed.shape? (place + 1 + j) = some c.shape := by
        intro j c w hj
        rw [hplacedShape, if_neg (by omega), show place + 1 + j = place + (j + 1) by omega]
        exact hknown (j + 1) c w (by simpa using hj)
      obtain ⟨hresident', hwanted, hothers⟩ :=
        ih (inPlace ++ [wanted]) (place + 1) hplacedResident (by omega) hrest
      refine ⟨hresident', ?_, ?_⟩
      · intro j c w hj
        cases j with
        | zero =>
          obtain ⟨rfl, rfl⟩ : current = c ∧ wanted = w := by simpa using hj
          have hfirst := hothers place (by intro j _ _ _; omega)
          rw [hplacedShape, if_pos rfl] at hfirst
          exact hfirst
        | succ j =>
          have hshape := hwanted j c w (by simpa using hj)
          rwa [show place + (j + 1) = place + 1 + j by omega]
      · intro i hi
        have hne : i ≠ place := hi 0 current wanted rfl
        have hlater : ∀ (j : Nat) c w, rest[j]? = some (c, some w) → i ≠ place + 1 + j := by
          intro j c w hj heq
          exact hi (j + 1) c w (by simpa using hj) (by omega)
        rw [hothers i hlater, hplacedShape, if_neg hne]

/-! ### The whole transition -/

/-- A transition is its writes: to wait changes nothing. -/
theorem run_transition_eq (m : Machine) (current target : MaterialState) :
    m.run (transition current target) = m.run (writes current target) := by
  unfold transition
  split
  · rename_i h
    rw [h]
  · rfl

theorem shape?_of_satisfies {m : Machine} {s : MaterialState} (h : m.state.satisfies s = true)
    {i : Nat} {c : Tile} (hc : s.tiles.tile? i = some c) : m.shape? i = some c.shape := by
  obtain ⟨actual, hactual, hprovides⟩ := ((satisfies_iff _ _).mp h).1 i c hc
  rw [shape?, hactual, Option.map_some, hprovides.shape]

theorem run_registerWrites_frame (registers : List Register) (current target : Registers)
    (m : Machine) :
    (m.run (registerWrites registers current target)).state.geometry = m.state.geometry ∧
      (m.run (registerWrites registers current target)).state.tiles = m.state.tiles ∧
      (m.run (registerWrites registers current target)).memory = m.memory := by
  have hstep : ∀ c ∈ registerWrites registers current target, ∀ m : Machine,
      ((m.step c).state.geometry, (m.step c).state.tiles, (m.step c).memory) =
        (m.state.geometry, m.state.tiles, m.memory) := by
    intro c hc m
    obtain ⟨r, v, rfl, _⟩ := mem_registerWrites hc
    rfl
  have hkept := run_keeps (fun m => (m.state.geometry, m.state.tiles, m.memory)) hstep m
  simpa only [Prod.mk.injEq] using hkept

theorem run_geometryWrites_frame (current target : GeometryRegister) (m : Machine) :
    (m.run (geometryWrites current target)).state.registers = m.state.registers ∧
      (m.run (geometryWrites current target)).state.tiles = m.state.tiles ∧
      (m.run (geometryWrites current target)).memory = m.memory := by
  have hstep : ∀ c ∈ geometryWrites current target, ∀ m : Machine,
      ((m.step c).state.registers, (m.step c).state.tiles, (m.step c).memory) =
        (m.state.registers, m.state.tiles, m.memory) := by
    intro c hc m
    obtain ⟨off, on, rfl⟩ := mem_geometryWrites hc
    rfl
  have hkept := run_keeps (fun m => (m.state.registers, m.state.tiles, m.memory)) hstep m
  simpa only [Prod.mk.injEq] using hkept

theorem run_tileWrites_frame (current target : Tiles) (m : Machine) :
    (m.run (tileWrites current target)).state.registers = m.state.registers ∧
      (m.run (tileWrites current target)).state.geometry = m.state.geometry := by
  have hstep : ∀ c ∈ tileWrites current target, ∀ m : Machine,
      ((m.step c).state.registers, (m.step c).state.geometry) =
        (m.state.registers, m.state.geometry) := by
    intro c hc m
    obtain ⟨command, rfl, hwrite⟩ := mem_tileWrites hc
    cases command with
    | write r v => exact absurd rfl (hwrite r v)
    | _ => rfl
  have hkept := run_keeps (fun m => (m.state.registers, m.state.geometry)) hstep m
  simpa only [Prod.mk.injEq] using hkept

variable {m : Machine} {current target : MaterialState}

theorem registers_run_transition
    (hknown : ∀ r, Agrees (m.state.registers.get r) (current.registers.get r)) :
    (m.run (transition current target)).state.registers =
      m.state.registers.apply target.registers := by
  -- what the first writes set is what the target fixes, so it still agrees with what was kept
  have hleading : ∀ r, _ := get_run_registerWrites Register.leading
    (fun r v (_ : target.registers.get r = some v) hcurrent => hknown r v hcurrent)
  rw [run_transition_eq]
  simp only [writes, run_append]
  rw [(run_tileWrites_frame _ _ _).1]
  apply Registers.ext_get
  intro r
  rw [get_run_registerWrites, (run_geometryWrites_frame _ _ _).1, hleading, Registers.get_apply]
  · have hr := Register.mem_all r
    rw [Register.all, List.mem_append] at hr
    cases htarget : target.registers.get r with
    | none => simp
    | some v =>
      rcases hr with hr | hr
      · simp [hr]
      · simp [hr]
  · intro r v htarget hcurrent
    rw [(run_geometryWrites_frame _ _ _).1, hleading, hknown r v hcurrent, htarget]
    simp

theorem geometry_run_transition
    (hknown : ∀ i, Agrees (m.state.geometry.position? i) (current.geometry.position? i)) (i : Nat) :
    (m.run (transition current target)).state.geometry.position? i =
      (target.geometry.position? i).or (m.state.geometry.position? i) := by
  have hregisters : ∀ registers, ∀ m : Machine,
      (m.run (registerWrites registers current.registers target.registers)).state.geometry =
        m.state.geometry := fun registers m => (run_registerWrites_frame registers _ _ m).1
  rw [run_transition_eq]
  simp only [writes, run_append]
  rw [(run_tileWrites_frame _ _ _).2, hregisters, position?_run_geometryWrites, hregisters]
  rw [hregisters]
  exact hknown

theorem run_transition_start (m : Machine) (current target : MaterialState) :
    ∃ start : Machine, start.state.tiles = m.state.tiles ∧ start.memory = m.memory ∧
      m.run (transition current target) =
        start.run (tileWrites current.tiles target.tiles) := by
  obtain ⟨_, htiles, hmemory⟩ :=
    run_registerWrites_frame Register.leading current.registers target.registers m
  generalize hleading : m.run (registerWrites Register.leading current.registers
    target.registers) = leading at htiles hmemory
  obtain ⟨_, htiles', hmemory'⟩ :=
    run_geometryWrites_frame current.geometry target.geometry leading
  generalize hgeometry : leading.run (geometryWrites current.geometry target.geometry) = switched
    at htiles' hmemory'
  obtain ⟨_, htiles'', hmemory''⟩ :=
    run_registerWrites_frame Register.trailing current.registers target.registers switched
  refine ⟨_, htiles''.trans (htiles'.trans htiles), hmemory''.trans (hmemory'.trans hmemory), ?_⟩
  rw [run_transition_eq]
  simp only [writes, run_append, hleading, hgeometry]

theorem tiles_run_transition (hresident : m.Resident)
    (hknown : ∀ i c, current.tiles.tile? i = some c → m.shape? i = some c.shape) :
    (m.run (transition current target)).Resident ∧
      ∀ i, (m.run (transition current target)).shape? i =
        ((target.tiles.tile? i).map Tile.shape).or (m.shape? i) := by
  obtain ⟨start, htiles, hmemory, hrun⟩ := run_transition_start m current target
  have hstartShape : start.shape? = m.shape? := by
    funext i
    rw [shape?, shape?, htiles]
  have hstartResident : start.Resident := by
    intro i tile htile
    rw [htiles] at htile
    rw [hmemory]
    exact hresident i tile htile
  have hpair : ∀ (j : Nat) c w,
      (current.tiles.toList.zip target.tiles.toList)[j]? = some (c, w) ↔
        j < 8 ∧ current.tiles.tile? j = c ∧ target.tiles.tile? j = w :=
    Tiles.getElem?_zip_eq_some_iff current.tiles target.tiles
  have hstartKnown : ∀ (j : Nat) c w,
      (current.tiles.toList.zip target.tiles.toList)[j]? = some (some c, w) →
        start.shape? (0 + j) = some c.shape := by
    intro j c w hj
    rw [Nat.zero_add, hstartShape]
    exact hknown j c ((hpair j _ _).mp hj).2.1
  obtain ⟨hresident', hwanted, hothers⟩ :=
    run_tileWritesFrom current.tiles.specified 0 _ hstartResident (by simp) hstartKnown
  rw [hrun]
  refine ⟨hresident', fun i => ?_⟩
  cases htarget : target.tiles.tile? i with
  | some w =>
    have hshape := hwanted i _ w ((hpair i _ _).mpr ⟨Tiles.lt_of_tile? htarget, rfl, htarget⟩)
    rw [Nat.zero_add] at hshape
    exact hshape
  | none =>
    have hshape := hothers i (by
      rintro j c w hj rfl
      have htile := ((hpair j _ _).mp hj).2.2
      rw [Nat.zero_add] at htarget
      rw [htarget] at htile
      simp at htile)
    rw [hstartShape] at hshape
    exact hshape

/-- Of tiles that agree on what lies where, any that asks for a texture tells what lies there. -/
theorem textureAt?_eq_some_iff {tiles : List Tile} (h : Consistent Tile.textureAsk tiles)
    (address : UInt16) (t : Texture) :
    Tiles.textureAt? tiles address = some t ↔ Asked Tile.textureAsk tiles address t := by
  have hfound : ∀ u, Tiles.textureAt? tiles address = some u →
      Asked Tile.textureAsk tiles address u := by
    intro u hu
    obtain ⟨tile, hmem, htile⟩ := List.exists_of_findSome?_eq_some hu
    split at htile
    · rename_i haddress
      exact ⟨tile, hmem, (tile.textureAsk_eq_some_iff address u).mpr ⟨haddress, htile⟩⟩
    · simp at htile
  constructor
  · exact hfound t
  · rintro ⟨tile, hmem, hask⟩
    obtain ⟨haddress, htexture⟩ := (tile.textureAsk_eq_some_iff address t).mp hask
    cases hat : Tiles.textureAt? tiles address with
    | none =>
      have hnone := List.findSome?_eq_none_iff.mp hat tile hmem
      simp [haddress, htexture] at hnone
    | some u =>
      obtain ⟨other, hother, hotherAsk⟩ := hfound u hat
      rw [h other hother tile hmem address u t hotherAsk hask]

theorem memory_run_transition (hresident : m.Resident) (hknown : m.state.satisfies current = true)
    (htarget : Consistent Tile.textureAsk target.tiles.specified) (address : UInt16) :
    (m.run (transition current target)).memory.get? address =
      (Tiles.textureAt? target.tiles.specified address).or (m.memory.get? address) := by
  rw [memory_run, UploadKind.loads_transition]
  cases hat : Tiles.textureAt? target.tiles.specified address with
  | none =>
    refine lookup_missingLoads_of_not_asked _ _ _ ?_
    intro t hasked
    rw [(textureAt?_eq_some_iff htarget address t).mpr hasked] at hat
    simp at hat
  | some t =>
    have hasked := (textureAt?_eq_some_iff htarget address t).mp hat
    obtain ⟨tile, hmem, hask⟩ := hasked
    have honly : ∀ w ∈ target.tiles.specified, ∀ v, w.textureAsk = some (address, v) → v = t :=
      fun w hw v hv => htarget w hw tile hmem address v t hv hask
    refine (lookup_missingLoads _ _ _ honly).trans ?_
    split
    · rfl
    · rename_i hnot
      have hinPlace : Asked Tile.textureAsk current.tiles.specified address t :=
        Decidable.byContradiction fun hno => hnot ⟨⟨tile, hmem, hask⟩, hno⟩
      -- the machine has the tile that is known to sample the texture
      obtain ⟨known, hknownMem, hknownAsk⟩ := hinPlace
      obtain ⟨i, hi⟩ := (Tiles.mem_specified _ _).mp hknownMem
      obtain ⟨haddress, htexture⟩ := (known.textureAsk_eq_some_iff address t).mp hknownAsk
      obtain ⟨actual, hactual, hprovides⟩ := ((satisfies_iff _ _).mp hknown).1 i known hi
      have hmemory := hresident i actual hactual
      rw [hprovides.params, haddress, hprovides.texture t htexture] at hmemory
      exact hmemory.symm

/-- After a transition a tile samples what its target puts at the tile's address, or else what lay
there before. -/
theorem texture_run_transition (hresident : m.Resident) (hknown : m.state.satisfies current = true)
    (htarget : Consistent Tile.textureAsk target.tiles.specified) {i : Nat} {tile : Tile}
    (htile : (m.run (transition current target)).state.tiles.tile? i = some tile) :
    tile.texture = (Tiles.textureAt? target.tiles.specified tile.params.address).or
      (m.memory.get? tile.params.address) := by
  have hafter : (m.run (transition current target)).Resident :=
    (tiles_run_transition hresident fun _ _ hc => shape?_of_satisfies hknown hc).1
  rw [hafter i tile htile, memory_run_transition hresident hknown htarget]

/-- A transition leaves each tile as it should be when its target is applied to what was known. -/
theorem provides_run_transition (hresident : m.Resident) (hknown : m.state.satisfies current = true)
    (htarget : Consistent Tile.textureAsk target.tiles.specified) {s : MaterialState}
    (hs : m.state.satisfies s = true) {i : Nat} {w : Tile}
    (hw : (s.apply target).tiles.tile? i = some w) :
    ∃ tile, (m.run (transition current target)).state.tiles.tile? i = some tile ∧
      tile.Provides w := by
  have hshapes : ∀ i c, current.tiles.tile? i = some c → m.shape? i = some c.shape :=
    fun i c hc => shape?_of_satisfies hknown hc
  obtain ⟨_, hshape⟩ := tiles_run_transition hresident hshapes
  rw [apply, Tiles.tile?_apply] at hw
  have htexture : ∀ tile, (m.run (transition current target)).state.tiles.tile? i = some tile →
      tile.params = w.params →
      tile.texture = (Tiles.textureAt? target.tiles.specified w.params.address).or
        (m.memory.get? w.params.address) := by
    intro tile htile hparams
    rw [texture_run_transition hresident hknown htarget htile, hparams]
  have hplaced : (m.run (transition current target)).shape? i = some w.shape →
      ∃ tile, (m.run (transition current target)).state.tiles.tile? i = some tile ∧
        tile.shape = w.shape := fun h => Option.map_eq_some_iff.mp h
  cases hupdate : target.tiles.tile? i with
  | some update =>
    rw [hupdate] at hw
    obtain rfl : update = w := by simpa [Tiles.applyTile] using hw
    obtain ⟨tile, htile, hsame⟩ := hplaced (by rw [hshape, hupdate]; rfl)
    refine ⟨tile, htile, ⟨hsame, ?_⟩⟩
    intro t ht
    have hasked : Asked Tile.textureAsk target.tiles.specified update.params.address t :=
      ⟨update, (Tiles.mem_specified _ _).mpr ⟨i, hupdate⟩,
        (update.textureAsk_eq_some_iff _ t).mpr ⟨rfl, ht⟩⟩
    rw [htexture tile htile (congrArg Prod.fst hsame),
      (textureAt?_eq_some_iff htarget _ t).mpr hasked]
    rfl
  | none =>
    rw [hupdate] at hw
    cases hold : s.tiles.tile? i with
    | none => simp [Tiles.applyTile, hold] at hw
    | some old =>
      obtain rfl : { old with texture := (Tiles.textureAt? target.tiles.specified
          old.params.address).or old.texture } = w := by
        simpa [Tiles.applyTile, hold] using hw
      have hbefore := shape?_of_satisfies hs hold
      obtain ⟨tile, htile, hsame⟩ := hplaced (by rw [hshape, hupdate, hbefore]; rfl)
      refine ⟨tile, htile, ⟨hsame, ?_⟩⟩
      rw [htexture tile htile (congrArg Prod.fst hsame)]
      -- what the machine held at the address is what the old tile says of it
      obtain ⟨actual, hactual, hprovides⟩ := ((satisfies_iff _ _).mp hs).1 i old hold
      have hmemory := hresident i actual hactual
      rw [hprovides.params] at hmemory
      exact Agrees.or_right (hmemory ▸ hprovides.texture) _

/-- **Arrival.**  A transition from what is known of a resident machine has the effect of applying
its target: the machine stays resident, and whatever it satisfied before, it satisfies afterwards
with the target applied. -/
theorem run_transition (hresident : m.Resident) (hknown : m.state.satisfies current = true)
    (htarget : Consistent Tile.textureAsk target.tiles.specified) :
    (m.run (transition current target)).Resident ∧
      ∀ s, m.state.satisfies s = true →
        (m.run (transition current target)).state.satisfies (s.apply target) = true := by
  obtain ⟨_, hregisters, hgeometry⟩ := (satisfies_iff _ _).mp hknown
  have hshapes : ∀ i c, current.tiles.tile? i = some c → m.shape? i = some c.shape :=
    fun i c hc => shape?_of_satisfies hknown hc
  obtain ⟨hresident', _⟩ := tiles_run_transition hresident hshapes
  refine ⟨hresident', fun s hs => (satisfies_iff _ _).mpr ⟨?_, ?_, ?_⟩⟩
  · intro i w hw
    exact provides_run_transition hresident hknown htarget hs hw
  · intro r
    rw [registers_run_transition hregisters, apply, Registers.get_apply, Registers.get_apply]
    exact Agrees.or_right (((satisfies_iff _ _).mp hs).2.1 r) _
  · intro i
    rw [geometry_run_transition hgeometry, apply, GeometryRegister.position?_apply]
    exact Agrees.or_right (((satisfies_iff _ _).mp hs).2.2 i) _

end MaterialState.Machine

end SceneCompiler
