import Mathlib.Data.List.Nodup
import SceneCompiler.Proofs.Material.Missing

/-!
# No write can be left out

A transition writes a thing at most once: a register, the switches, the descriptor or the rectangle
of a tile, or a texture at an address (`MaterialState.nodup_subjects_transition`). It writes it
because it is not there as the target wants it (`MaterialState.lacks_of_mem_transition`), and no
other command puts it there: not even a texture can come to a tile from another address, for a tile
that is moved samples what lies at its new one (`MaterialState.Machine.Lacks.step`). So a transition
from which one write is taken out does not arrive (`MaterialState.execute?_without`).
-/

namespace SceneCompiler

/-- A thing that commands write. -/
inductive Subject
  | register (r : Register)
  | switches
  | descriptor (place : Nat)
  | rectangle (place : Nat)
  | texture (address : UInt16) (t : Texture)
  deriving DecidableEq

def Subject.ofLoad (entry : UInt16 × Texture) : Subject := .texture entry.1 entry.2

/-- What a command writes. Palettes are left aside, since execution does not follow them. To wait and
to point the loader at an image is not to write. -/
def Command.subject? : Command → Option Subject
  | .setGeometryMode _ _ => some .switches
  | .state (.write r _) => some (.register r)
  | .state (.touchMode field) => some (.register (.mode field))
  | .state (.setTile place _) => some (.descriptor place)
  | .state (.setTileSize place _) => some (.rectangle place)
  | .state (.loadBlock t address) => some (.texture address t)
  | _ => none

namespace MaterialState

def subjects (commands : List Command) : List Subject := commands.filterMap Command.subject?

theorem subjects_append (xs ys : List Command) : subjects (xs ++ ys) = subjects xs ++ subjects ys :=
  List.filterMap_append

/-! ### What a transition writes -/

theorem mem_subjects_registerWrites {registers : List Register} {current target : Registers}
    {s : Subject} (h : s ∈ subjects (registerWrites registers current target)) :
    ∃ r, s = .register r ∧ ¬ Agrees (current.get r) (target.get r) := by
  obtain ⟨c, hc, hs⟩ := List.mem_filterMap.mp h
  obtain ⟨r, value, rfl, _, htarget, hmissing⟩ := mem_registerWrites hc
  exact ⟨r, (Option.some.inj hs).symm, fun hagrees => hmissing (hagrees value htarget)⟩

theorem subjects_registerWrites_sublist (registers : List Register) (current target : Registers) :
    (subjects (registerWrites registers current target)).Sublist (registers.map .register) := by
  induction registers with
  | nil => exact List.Sublist.refl _
  | cons r rest ih =>
    cases htarget : target.get r with
    | none =>
      rw [registerWrites_cons_of_none htarget]
      exact ih.cons _
    | some value =>
      rw [registerWrites_cons_of_some htarget]
      split
      · exact ih.cons _
      · exact ih.cons_cons _

theorem mem_subjects_geometryWrites {current target : GeometryRegister} {s : Subject}
    (h : s ∈ subjects (geometryWrites current target)) :
    s = .switches ∧ ∃ i, ¬ Agrees (current.position? i) (target.position? i) := by
  obtain ⟨c, hc, hs⟩ := List.mem_filterMap.mp h
  have hmissing : ¬ ∀ i, Agrees (current.position? i) (target.position? i) := by
    rw [← geometryWrites_eq_nil_iff]
    exact List.ne_nil_of_mem hc
  obtain ⟨off, on, rfl⟩ := mem_geometryWrites hc
  exact ⟨(Option.some.inj hs).symm, not_forall.mp hmissing⟩

theorem subjects_geometryWrites_sublist (current target : GeometryRegister) :
    (subjects (geometryWrites current target)).Sublist [.switches] := by
  unfold geometryWrites
  dsimp only
  split
  · exact List.nil_sublist _
  · exact List.Sublist.refl _

theorem subjects_uploads (inPlace : List Tile) (wanted : Tile) :
    subjects (textureUploads inPlace wanted ++ paletteUploads inPlace wanted) =
      (wanted.textureAsk.toList.filter fun entry =>
        !inPlace.any fun tile => tile.textureAsk = some entry).map Subject.ofLoad := by
  have hload : ∀ c ∈ textureUploads inPlace wanted ++ paletteUploads inPlace wanted,
      c.subject? = c.textureLoad?.map Subject.ofLoad := by
    intro c hc
    obtain ⟨command, rfl, hwrite, htouch, hdescriptor⟩ := mem_uploads hc
    cases command with
    | write r value => exact absurd rfl (hwrite r value)
    | touchMode field => exact absurd rfl (htouch field)
    | setTile place params => simp [Command.isDescriptor] at hdescriptor
    | setTileSize place size => simp [Command.isDescriptor] at hdescriptor
    | _ => rfl
  rw [← textureLoads_uploads, List.map_filterMap]
  exact List.filterMap_congr hload

theorem subjects_descriptorWrites (place : Nat) (current : Option Tile) (wanted : Tile) :
    subjects (descriptorWrites place current wanted) =
      (if current.map (·.params) = some wanted.params then [] else [.descriptor place]) ++
        (if current.map (·.size) = some wanted.size then [] else [.rectangle place]) := by
  rw [descriptorWrites, subjects_append]
  congr 1
  · split <;> rfl
  · split <;> rfl

/-- A thing that is written for a wanted tile, and why. -/
inductive TileSubject (inPlace : List Tile) (place : Nat) (current : Option Tile) (wanted : Tile) :
    Subject → Prop
  | descriptor (h : current.map (·.params) ≠ some wanted.params) :
    TileSubject inPlace place current wanted (.descriptor place)
  | rectangle (h : current.map (·.size) ≠ some wanted.size) :
    TileSubject inPlace place current wanted (.rectangle place)
  | texture {address : UInt16} {t : Texture} (hask : wanted.textureAsk = some (address, t))
    (h : ¬ Asked Tile.textureAsk inPlace address t) :
    TileSubject inPlace place current wanted (.texture address t)

theorem TileSubject.of_append {inPlace more : List Tile} {place : Nat} {current : Option Tile}
    {wanted : Tile} {s : Subject} (h : TileSubject (inPlace ++ more) place current wanted s) :
    TileSubject inPlace place current wanted s := by
  cases h with
  | descriptor h => exact .descriptor h
  | rectangle h => exact .rectangle h
  | texture hask h =>
    refine .texture hask ?_
    rintro ⟨tile, htile, hsame⟩
    exact h ⟨tile, List.mem_append_left more htile, hsame⟩

section Tile

variable (inPlace : List Tile) (place : Nat) (current : Option Tile) (wanted : Tile)

theorem tileSubject_of_mem {s : Subject}
    (h : s ∈ subjects (textureUploads inPlace wanted ++ paletteUploads inPlace wanted ++
      descriptorWrites place current wanted)) : TileSubject inPlace place current wanted s := by
  rw [subjects_append, subjects_uploads, subjects_descriptorWrites] at h
  rcases List.mem_append.mp h with h | h
  · obtain ⟨⟨address, t⟩, hentry, rfl⟩ := List.mem_map.mp h
    obtain ⟨hask, hmissing⟩ := List.mem_filter.mp hentry
    refine .texture (Option.mem_toList.mp hask) ?_
    simpa [Asked] using hmissing
  · rcases List.mem_append.mp h with h | h
    · split at h
      · simp at h
      · rename_i hparams
        obtain rfl := List.mem_singleton.mp h
        exact .descriptor hparams
    · split at h
      · simp at h
      · rename_i hsize
        obtain rfl := List.mem_singleton.mp h
        exact .rectangle hsize

theorem nodup_subjects_tile :
    (subjects (textureUploads inPlace wanted ++ paletteUploads inPlace wanted ++
      descriptorWrites place current wanted)).Nodup := by
  have hoptional : ∀ (p : Prop) [Decidable p] (s : Subject),
      (if p then [] else [s]).Sublist [s] := by
    intro p _ s
    split
    · exact List.nil_sublist _
    · exact List.Sublist.refl _
  have hall : (wanted.textureAsk.toList.map Subject.ofLoad ++
      ([Subject.descriptor place] ++ [Subject.rectangle place])).Nodup := by
    cases wanted.textureAsk <;> simp [Subject.ofLoad]
  rw [subjects_append, subjects_uploads, subjects_descriptorWrites]
  exact hall.sublist
    ((List.filter_sublist.map _).append ((hoptional _ _).append (hoptional _ _)))

end Tile

theorem mem_subjects_tileWritesFrom {inPlace : List Tile} {place : Nat}
    {pairs : List (Option Tile × Option Tile)} {s : Subject}
    (h : s ∈ subjects (tileWritesFrom inPlace place pairs)) :
    ∃ (j : Nat) (current : Option Tile) (wanted : Tile), pairs[j]? = some (current, some wanted) ∧
      TileSubject inPlace (place + j) current wanted s := by
  induction pairs generalizing inPlace place with
  | nil => simp [tileWritesFrom, subjects] at h
  | cons pair rest ih =>
    have hshift : ∀ j, place + 1 + j = place + (j + 1) := by omega
    obtain ⟨current, _ | wanted⟩ := pair
    · obtain ⟨j, c, w, hpair, hs⟩ := ih h
      exact ⟨j + 1, c, w, by simpa using hpair, hshift j ▸ hs⟩
    · rw [tileWritesFrom, subjects_append, List.mem_append] at h
      rcases h with h | h
      · exact ⟨0, current, wanted, rfl, tileSubject_of_mem _ _ _ _ h⟩
      · obtain ⟨j, c, w, hpair, hs⟩ := ih h
        exact ⟨j + 1, c, w, by simpa using hpair, hshift j ▸ hs.of_append⟩

theorem nodup_subjects_tileWritesFrom (inPlace : List Tile) (place : Nat)
    (pairs : List (Option Tile × Option Tile)) :
    (subjects (tileWritesFrom inPlace place pairs)).Nodup := by
  induction pairs generalizing inPlace place with
  | nil => exact List.nodup_nil
  | cons pair rest ih =>
    obtain ⟨current, _ | wanted⟩ := pair
    · exact ih inPlace (place + 1)
    · rw [tileWritesFrom, subjects_append]
      refine List.nodup_append.mpr
        ⟨nodup_subjects_tile inPlace place current wanted, ih _ _, ?_⟩
      rintro s hfirst other hlater rfl
      obtain ⟨j, c, w, _, hlater⟩ := mem_subjects_tileWritesFrom hlater
      cases tileSubject_of_mem _ _ _ _ hfirst with
      | descriptor _ =>
        generalize hplace : place + 1 + j = later at hlater
        cases hlater
        omega
      | rectangle _ =>
        generalize hplace : place + 1 + j = later at hlater
        cases hlater
        omega
      | texture hask _ =>
        -- the first tile counts as in place for all later ones
        cases hlater with
        | texture _ hmissing =>
          exact hmissing ⟨wanted, List.mem_append_right _ List.mem_cons_self, hask⟩

theorem subjects_transition (current target : MaterialState) :
    subjects (transition current target) = subjects (writes current target) := by
  unfold transition
  split
  · rename_i hnone
    rw [hnone]
  · rfl

theorem nodup_subjects_transition (current target : MaterialState) :
    (subjects (transition current target)).Nodup := by
  rw [subjects_transition]
  simp only [writes, subjects_append]
  refine List.nodup_append.mpr ⟨?_, nodup_subjects_tileWritesFrom _ _ _, ?_⟩
  · have hregisters : (Register.leading.map Subject.register ++ [Subject.switches] ++
        Register.trailing.map Subject.register).Nodup := by decide
    exact hregisters.sublist (((subjects_registerWrites_sublist _ _ _).append
      (subjects_geometryWrites_sublist _ _)).append (subjects_registerWrites_sublist _ _ _))
  · rintro s hregister other htile rfl
    obtain ⟨_, _, _, _, htile⟩ := mem_subjects_tileWritesFrom htile
    rcases List.mem_append.mp hregister with hregister | hregister
    · rcases List.mem_append.mp hregister with hregister | hregister
      · obtain ⟨r, rfl, _⟩ := mem_subjects_registerWrites hregister
        cases htile
      · obtain ⟨rfl, _⟩ := mem_subjects_geometryWrites hregister
        cases htile
    · obtain ⟨r, rfl, _⟩ := mem_subjects_registerWrites hregister
      cases htile

/-! ### What only a write changes -/

namespace Machine

variable {m : Machine} {target : MaterialState} {s : Subject} {c : Command}

theorem get_registers_step (m : Machine) {r : Register} (h : c.subject? ≠ some (.register r)) :
    (m.step c).state.registers.get r = m.state.registers.get r := by
  cases c with
  | state command =>
    cases command with
    | write other value =>
      exact Registers.get_write_of_ne _ value fun heq => h (by rw [← heq]; rfl)
    | _ => rfl
  | _ => rfl

theorem geometry_step (m : Machine) (h : c.subject? ≠ some .switches) :
    (m.step c).state.geometry = m.state.geometry := by
  cases c with
  | setGeometryMode off on => exact absurd rfl h
  | state command => cases command <;> rfl
  | _ => rfl

/-- A specified tile stays specified, and each half of its shape is kept but by its own writes. -/
theorem shape_step {place : Nat} {shape : TileParams × TileSize}
    (hshape : m.shape? place = some shape) (c : Command) :
    ∃ shape', (m.step c).shape? place = some shape' ∧
      (c.subject? ≠ some (.descriptor place) → shape'.1 = shape.1) ∧
      (c.subject? ≠ some (.rectangle place) → shape'.2 = shape.2) := by
  obtain ⟨tile, htile, _⟩ := Option.map_eq_some_iff.mp hshape
  have hplace := Tiles.lt_of_tile? htile
  have hkept : (m.step c).shape? place = m.shape? place →
      ∃ shape', (m.step c).shape? place = some shape' ∧
        (c.subject? ≠ some (.descriptor place) → shape'.1 = shape.1) ∧
        (c.subject? ≠ some (.rectangle place) → shape'.2 = shape.2) :=
    fun hsame => ⟨shape, hsame.trans hshape, fun _ => rfl, fun _ => rfl⟩
  cases hdescriptor : c.isDescriptor with
  | false => exact hkept (congrFun (shape?_step m hdescriptor) place)
  | true =>
    cases c with
    | state command =>
      cases command with
      | setTile other params =>
        by_cases hother : place = other
        · subst hother
          refine ⟨_, (shape?_setTile m hplace params place).trans (if_pos rfl), ?_, ?_⟩
          · exact fun h => absurd rfl h
          · simp [hshape]
        · exact hkept (congrArg (Option.map Tile.shape) (Tiles.tile?_modify_of_ne _ _ hother))
      | setTileSize other size =>
        by_cases hother : place = other
        · subst hother
          refine ⟨_, (shape?_setTileSize m hplace size place).trans (if_pos rfl), ?_, ?_⟩
          · simp [hshape]
          · exact fun h => absurd rfl h
        · exact hkept (congrArg (Option.map Tile.shape) (Tiles.tile?_modify_of_ne _ _ hother))
      | _ => simp [Command.isDescriptor] at hdescriptor
    | _ => simp [Command.isDescriptor] at hdescriptor

/-- A texture does not lie at an address, and no tile that is set to the address has it. -/
structure Misses (m : Machine) (address : UInt16) (t : Texture) : Prop where
  memory : m.memory.get? address ≠ some t
  tiles : ∀ i tile, m.state.tiles.tile? i = some tile → tile.textureAsk ≠ some (address, t)

/-- Only its own load brings a texture to an address: another load brings another texture or goes to
another address, and a tile that is moved samples what lies at the new one. -/
theorem Misses.step {address : UInt16} {t : Texture} (h : m.Misses address t)
    (hc : c.subject? ≠ some (.texture address t)) : (m.step c).Misses address t := by
  cases c with
  | state command =>
    cases command with
    | loadBlock texture other =>
      have hne : ¬ (other = address ∧ texture = t) := by
        rintro ⟨rfl, rfl⟩
        exact hc rfl
      constructor
      · change List.lookup address ((other, texture) :: m.memory) ≠ some t
        rw [List.lookup_cons]
        split
        · rename_i heq
          exact fun hsome => hne ⟨(eq_of_beq heq).symm, Option.some.inj hsome⟩
        · exact h.memory
      · intro i tile htile
        simp only [step, stateStep, Tiles.tile?_load, Option.map_eq_some_iff] at htile
        obtain ⟨old, hold, rfl⟩ := htile
        split
        · rename_i haddress
          rw [ne_eq, Tile.textureAsk_eq_some_iff, haddress, Option.some.injEq]
          exact hne
        · exact h.tiles i old hold
    | setTile place params =>
      refine ⟨h.memory, fun i tile htile => ?_⟩
      obtain ⟨-, rfl⟩ | hkept := Tiles.eq_or_of_tile?_modify htile
      · rw [ne_eq, Tile.textureAsk_eq_some_iff]
        rintro ⟨rfl, htexture⟩
        exact h.memory htexture
      · exact h.tiles i tile hkept
    | setTileSize place size =>
      refine ⟨h.memory, fun i tile htile => ?_⟩
      obtain ⟨rfl, rfl⟩ | hkept := Tiles.eq_or_of_tile?_modify htile
      · cases hold : m.state.tiles.tile? i with
        | none => simp [Tile.textureAsk]
        | some old => exact h.tiles i old hold
      · exact h.tiles i tile hkept
    | _ => exact ⟨h.memory, h.tiles⟩
  | _ => exact ⟨h.memory, h.tiles⟩

/-! ### What a machine lacks -/

/-- A thing is not as the target wants it. -/
def Lacks (m : Machine) (target : MaterialState) : Subject → Prop
  | .register r => ¬ Agrees (m.state.registers.get r) (target.registers.get r)
  | .switches => ∃ i, ¬ Agrees (m.state.geometry.position? i) (target.geometry.position? i)
  | .descriptor place => ∃ shape wanted, m.shape? place = some shape ∧
      target.tiles.tile? place = some wanted ∧ shape.1 ≠ wanted.params
  | .rectangle place => ∃ shape wanted, m.shape? place = some shape ∧
      target.tiles.tile? place = some wanted ∧ shape.2 ≠ wanted.size
  | .texture address t => (∃ i wanted, target.tiles.tile? i = some wanted ∧
      wanted.textureAsk = some (address, t)) ∧ m.Misses address t

theorem Lacks.not_satisfies (h : m.Lacks target s) : m.state.satisfies target = false := by
  rw [← Bool.not_eq_true]
  intro hsatisfies
  obtain ⟨htiles, hregisters, hgeometry⟩ := (satisfies_iff m.state target).mp hsatisfies
  cases s with
  | register r => exact h (hregisters r)
  | switches =>
    obtain ⟨i, hi⟩ := h
    exact hi (hgeometry i)
  | descriptor place =>
    obtain ⟨shape, wanted, hshape, hwanted, hne⟩ := h
    obtain ⟨tile, htile, hprovides⟩ := htiles place wanted hwanted
    rw [shape?, htile, Option.map_some, hprovides.shape] at hshape
    exact hne (congrArg Prod.fst (Option.some.inj hshape)).symm
  | rectangle place =>
    obtain ⟨shape, wanted, hshape, hwanted, hne⟩ := h
    obtain ⟨tile, htile, hprovides⟩ := htiles place wanted hwanted
    rw [shape?, htile, Option.map_some, hprovides.shape] at hshape
    exact hne (congrArg Prod.snd (Option.some.inj hshape)).symm
  | texture address t =>
    obtain ⟨⟨i, wanted, hwanted, hask⟩, hmisses⟩ := h
    obtain ⟨tile, htile, hprovides⟩ := htiles i wanted hwanted
    exact hmisses.tiles i tile htile (hprovides.textureAsk hask)

/-- **What is lacking stays lacking** until it is written. -/
theorem Lacks.step (h : m.Lacks target s) (hc : c.subject? ≠ some s) :
    (m.step c).Lacks target s := by
  cases s with
  | register r =>
    rw [Lacks, get_registers_step m hc]
    exact h
  | switches =>
    rw [Lacks, geometry_step m hc]
    exact h
  | descriptor place =>
    obtain ⟨shape, wanted, hshape, hwanted, hne⟩ := h
    obtain ⟨shape', hshape', hparams, _⟩ := shape_step hshape c
    exact ⟨shape', wanted, hshape', hwanted, hparams hc ▸ hne⟩
  | rectangle place =>
    obtain ⟨shape, wanted, hshape, hwanted, hne⟩ := h
    obtain ⟨shape', hshape', _, hsize⟩ := shape_step hshape c
    exact ⟨shape', wanted, hshape', hwanted, hsize hc ▸ hne⟩
  | texture address t =>
    obtain ⟨hwanted, hmisses⟩ := h
    exact ⟨hwanted, hmisses.step hc⟩

theorem Lacks.run {commands : List Command} (h : m.Lacks target s) (hnone : s ∉ subjects commands) :
    (m.run commands).Lacks target s := by
  induction commands generalizing m with
  | nil => exact h
  | cons c rest ih =>
    have hc : c.subject? ≠ some s := by
      intro hs
      exact hnone (List.mem_filterMap.mpr ⟨c, List.mem_cons_self, hs⟩)
    have hrest : s ∉ subjects rest := by
      intro hs
      obtain ⟨d, hd, hsubject⟩ := List.mem_filterMap.mp hs
      exact hnone (List.mem_filterMap.mpr ⟨d, List.mem_cons_of_mem c hd, hsubject⟩)
    exact ih (h.step hc) hrest

theorem misses_ofState {current : MaterialState} {address : UInt16} {t : Texture}
    (h : ¬ Asked Tile.textureAsk current.tiles.specified address t) :
    (ofState current).Misses address t := by
  constructor
  · intro hlookup
    obtain ⟨before, after, hentries, _⟩ := List.lookup_eq_some_iff.mp hlookup
    have hentry : (address, t) ∈ (ofState current).memory :=
      hentries ▸ List.mem_append_right before List.mem_cons_self
    obtain ⟨tile, htile, hask⟩ := List.mem_filterMap.mp hentry
    exact h ⟨tile, List.mem_reverse.mp htile, hask⟩
  · intro i tile htile hask
    exact h ⟨tile, (Tiles.mem_specified _ _).mpr ⟨i, htile⟩, hask⟩

end Machine

/-! ### The theorem -/

variable {current target : MaterialState}

/-- **What is written is lacking.** -/
theorem lacks_of_mem_transition
    (hspecified : ∀ i, (target.tiles.tile? i).isSome → (current.tiles.tile? i).isSome) {s : Subject}
    (h : s ∈ subjects (transition current target)) : (Machine.ofState current).Lacks target s := by
  rw [subjects_transition] at h
  simp only [writes, subjects_append, List.mem_append] at h
  rcases h with ((hregister | hswitches) | hregister) | htile
  · obtain ⟨r, rfl, hopen⟩ := mem_subjects_registerWrites hregister
    exact hopen
  · obtain ⟨rfl, hopen⟩ := mem_subjects_geometryWrites hswitches
    exact hopen
  · obtain ⟨r, rfl, hopen⟩ := mem_subjects_registerWrites hregister
    exact hopen
  · obtain ⟨place, tile, wanted, hpair, hsubject⟩ := mem_subjects_tileWritesFrom htile
    obtain ⟨_, hcurrent, hwanted⟩ := (Tiles.getElem?_zip_eq_some_iff _ _ _ _ _).mp hpair
    rw [Nat.zero_add] at hsubject
    have hsome := hspecified place (by rw [hwanted]; rfl)
    rw [hcurrent] at hsome
    obtain ⟨tile, rfl⟩ := Option.isSome_iff_exists.mp hsome
    have hshape : (Machine.ofState current).shape? place = some tile.shape :=
      congrArg (Option.map Tile.shape) hcurrent
    cases hsubject with
    | descriptor hne => exact ⟨tile.shape, wanted, hshape, hwanted, fun heq => hne (congrArg some heq)⟩
    | rectangle hne => exact ⟨tile.shape, wanted, hshape, hwanted, fun heq => hne (congrArg some heq)⟩
    | texture hask hmissing => exact ⟨⟨place, wanted, hwanted, hask⟩, Machine.misses_ofState hmissing⟩

/-- **No write can be left out.**  Let the current state specify every tile that the target does, and
let one write be taken out of the transition between them. What is left can be executed, and leads to
a state that does not satisfy the target. -/
theorem execute?_without
    (hspecified : ∀ i, (target.tiles.tile? i).isSome → (current.tiles.tile? i).isSome)
    {before after : List Command} {c : Command}
    (hsplit : transition current target = before ++ c :: after) (hwrite : c.subject?.isSome) :
    ∃ reached, current.execute? (before ++ after) = some reached ∧
      reached.satisfies target = false := by
  obtain ⟨s, hs⟩ := Option.isSome_iff_exists.mp hwrite
  have hsubjects : subjects (transition current target) = subjects before ++ s :: subjects after := by
    rw [hsplit, subjects_append, subjects, subjects, List.filterMap_cons_some hs]
    rfl
  have honce : s ∉ subjects (before ++ after) := by
    have hnodup := nodup_subjects_transition current target
    rw [hsubjects, List.nodup_middle, List.nodup_cons] at hnodup
    rw [subjects_append]
    exact hnodup.1
  have hlacks := lacks_of_mem_transition (s := s) hspecified (by rw [hsubjects]; simp)
  have hnames : (before ++ after).any Command.namesMissingTile = false := by
    have hall := namesMissingTile_transition current target
    rw [hsplit, List.any_append, List.any_cons] at hall
    simp_all
  refine ⟨current.execute (before ++ after), ?_, (hlacks.run honce).not_satisfies⟩
  simp [execute?, hnames]

end MaterialState

namespace Mural

/-- The fresco over the plaster, and once more at an address of its own. -/
def repainted : MaterialState where
  registers.environmentColor := some ⟨90, 80, 70, 255⟩
  tiles := #v[some (.ofTexture (image "fresco") 8), none, none,
    some (.ofTexture (image "fresco") 16), none, none, none, none]

end Mural

/-- Without its own load the second tile of the fresco stays empty, although the image is loaded for
the first one. -/
theorem MaterialState.execute?_without_of_mural :
    (∀ i, (Mural.repainted.tiles.tile? i).isSome → (Mural.plaster.tiles.tile? i).isSome) ∧
      ∃ before after,
        transition Mural.plaster Mural.repainted =
          before ++ .state (.loadBlock (Mural.image "fresco") 16) :: after ∧
        .state (.loadBlock (Mural.image "fresco") 8) ∈ before ∧
        (∃ params, .state (.setTile 3 params) ∈ after) ∧
        ∃ reached, Mural.plaster.execute? (before ++ after) = some reached ∧
          reached.satisfies Mural.repainted = false := by
  have hspecified : ∀ i,
      (Mural.repainted.tiles.tile? i).isSome → (Mural.plaster.tiles.tile? i).isSome := by
    intro i hsome
    obtain ⟨tile, htile⟩ := Option.isSome_iff_exists.mp hsome
    have hall : ∀ i < 8,
        (Mural.repainted.tiles.tile? i).isSome → (Mural.plaster.tiles.tile? i).isSome := by decide
    exact hall i (Tiles.lt_of_tile? htile) hsome
  have hsplit : transition Mural.plaster Mural.repainted =
      (transition Mural.plaster Mural.repainted).take 10 ++
        .state (.loadBlock (Mural.image "fresco") 16) ::
          (transition Mural.plaster Mural.repainted).drop 11 := by decide +kernel
  refine ⟨hspecified, _, _, hsplit, by decide +kernel, ?_, execute?_without hspecified hsplit rfl⟩
  exact ⟨(Tile.ofTexture (Mural.image "fresco") 16).params, by decide +kernel⟩

end SceneCompiler
