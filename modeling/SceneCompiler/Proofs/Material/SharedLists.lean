import Mathlib
import SceneCompiler.SharedMaterials

/-!
# Calling shared lists

A unit refers to the list of a shared material by its name. The names of the lists are chosen one by
one, each different from those before it: one of `n + 1` numbered names is free when `n` are taken.
So a name leads to one list only, and what a call stands for is the list of the material that it was
written for (`SharedMaterials.commandsOf_build`).
-/

namespace SceneCompiler

/-- In a list of elements with different keys, each is found by its key. -/
theorem find?_of_mem {α K : Type} [DecidableEq K] {key : α → K} {elements : List α}
    (hkeys : (elements.map key).Nodup) {a : α} (h : a ∈ elements) :
    elements.find? (key · = key a) = some a := by
  cases hfound : elements.find? (key · = key a) with
  | none => simpa using List.find?_eq_none.mp hfound a h
  | some other =>
    have hsame : key other = key a := by simpa using List.find?_some hfound
    rw [List.inj_on_of_nodup_map hkeys (List.mem_of_find?_eq_some hfound) h hsame]

/-- Whether a command calls a list. -/
def Command.isCall : Command → Bool
  | callList _ => true
  | _ => false

namespace SharedMaterials

/-- The commands of the list with a name. -/
def commandsOf (shared : SharedMaterials) (name : String) : List Command :=
  ((shared.lists.find? (·.name = name)).map (·.commands)).getD []

/-- A command, or what it stands for if it is a call. -/
def expand (shared : SharedMaterials) : Command → List Command
  | .callList name => shared.commandsOf name
  | c => [c]

/-- Commands with the shared lists in place of their calls. -/
def inline (shared : SharedMaterials) (commands : List Command) : List Command :=
  commands.flatMap shared.expand

@[simp] theorem inline_append (shared : SharedMaterials) (xs ys : List Command) :
    shared.inline (xs ++ ys) = shared.inline xs ++ shared.inline ys := List.flatMap_append

theorem inline_eq_self (shared : SharedMaterials) {commands : List Command}
    (h : ∀ c ∈ commands, c.isCall = false) : shared.inline commands = commands := by
  induction commands with
  | nil => rfl
  | cons c rest ih =>
    have hc : shared.expand c = [c] := by
      cases c with
      | callList name => simp [Command.isCall] at h
      | _ => rfl
    rw [inline, List.flatMap_cons, hc, ← inline, ih fun d hd => h d (List.mem_cons_of_mem c hd)]
    rfl

/-! ### Names -/

theorem isTaken_eq_true_iff (shared : SharedMaterials) (name : String) :
    shared.isTaken name = true ↔ name ∈ shared.lists.map (·.name) := by
  simp [isTaken]

theorem numbered_injective (name : String) : Function.Injective (numbered name) := by
  intro m n h
  have htext : name ++ "_" ++ Nat.repr m = name ++ "_" ++ Nat.repr n := h
  exact Nat.repr_injective ((String.append_right_inj (name ++ "_")).mp htext)

/-- **The chosen name is free.** -/
theorem isTaken_freeName (shared : SharedMaterials) (wanted : String) :
    shared.isTaken (shared.freeName wanted) = false := by
  unfold freeName
  split
  · dsimp only
    cases hfound : ((List.range' 1 (shared.entries.length + 1)).map (numbered wanted)).find?
        (!shared.isTaken ·) with
    | some name => simpa using List.find?_some hfound
    | none =>
      -- more names than there are lists would be taken
      exfalso
      have htaken : (List.range' 1 (shared.entries.length + 1)).map (numbered wanted) ⊆
          shared.lists.map (·.name) := by
        intro name hname
        have hnot := List.find?_eq_none.mp hfound name hname
        exact (isTaken_eq_true_iff shared name).mp (by simpa using hnot)
      have hnodup : ((List.range' 1 (shared.entries.length + 1)).map (numbered wanted)).Nodup :=
        List.Nodup.map (numbered_injective wanted) List.nodup_range'
      have hlength := (hnodup.subperm htaken).length_le
      simp [lists] at hlength
  · rename_i h
    simpa using h

/-! ### Lists -/

/-- Every list takes the rest state to the material under its key, and no two have one name. -/
structure Faithful (library : MaterialLibrary) (default : MaterialState)
    (shared : SharedMaterials) : Prop where
  distinct : (shared.lists.map (·.name)).Nodup
  commands : ∀ key list, (key, list) ∈ shared.entries →
    ∃ material, library.get? key = some material ∧ list.commands = body default material.state

theorem Faithful.add {library : MaterialLibrary} {default : MaterialState}
    {shared : SharedMaterials} (h : Faithful library default shared) {key : MaterialKey}
    {material : Material} (hkey : library.get? key = some material) :
    Faithful library default (shared.add default (key, material)) := by
  constructor
  · have hfree := isTaken_freeName shared (Text.symbol material.name ++ "_material")
    have hnew : shared.freeName (Text.symbol material.name ++ "_material") ∉
        shared.lists.map (·.name) := by
      intro hmem
      rw [(isTaken_eq_true_iff shared _).mpr hmem] at hfree
      simp at hfree
    have hlists : (shared.add default (key, material)).lists.map (·.name) =
        shared.lists.map (·.name) ++
          [shared.freeName (Text.symbol material.name ++ "_material")] := by
      simp [SharedMaterials.add, lists]
    rw [hlists, ← List.concat_eq_append]
    exact h.distinct.concat hnew
  · intro key' list hmem
    rcases List.mem_append.mp hmem with hmem | hmem
    · exact h.commands key' list hmem
    · obtain ⟨rfl, rfl⟩ := Prod.mk.inj (List.mem_singleton.mp hmem)
      exact ⟨material, hkey, rfl⟩

theorem faithful_build (uses : MaterialUses) (library : MaterialLibrary)
    (default : MaterialState) : Faithful library default (build uses library default) := by
  have hfold : ∀ (keyed : List (MaterialKey × Material)) (shared : SharedMaterials),
      (∀ entry ∈ keyed, library.get? entry.1 = some entry.2) →
      Faithful library default shared →
      Faithful library default (keyed.foldl (SharedMaterials.add default) shared) := by
    intro keyed
    induction keyed with
    | nil => exact fun shared _ h => h
    | cons entry rest ih =>
      intro shared hkeyed h
      exact ih _ (fun e he => hkeyed e (List.mem_cons_of_mem entry he))
        (h.add (hkeyed entry List.mem_cons_self))
  apply hfold
  · intro entry hentry
    obtain ⟨⟨material, key⟩, hmem, rfl⟩ := List.mem_map.mp (List.mem_filter.mp hentry).1
    exact (List.mem_zipIdx_iff_getElem?.mp hmem)
  · exact ⟨by simp [lists], by simp⟩

/-- Every list was named after a material when some lists were there already. -/
theorem exists_freeName_of_mem {uses : MaterialUses} {library : MaterialLibrary}
    {default : MaterialState} {list : DisplayList} (h : list ∈ (build uses library default).lists) :
    ∃ (shared : SharedMaterials) (material : Material),
      list.name = shared.freeName (Text.symbol material.name ++ "_material") := by
  have hfold : ∀ (keyed : List (MaterialKey × Material)) (shared : SharedMaterials),
      list ∈ (keyed.foldl (SharedMaterials.add default) shared).lists → list ∈ shared.lists ∨
        ∃ (shared : SharedMaterials) (material : Material),
          list.name = shared.freeName (Text.symbol material.name ++ "_material") := by
    intro keyed
    induction keyed with
    | nil => exact fun _ hlist => Or.inl hlist
    | cons entry rest ih =>
      intro shared hlist
      rcases ih (shared.add default entry) hlist with hmem | hnamed
      · rw [lists, SharedMaterials.add, List.map_append] at hmem
        rcases List.mem_append.mp hmem with hold | hnew
        · exact Or.inl hold
        · obtain rfl := List.mem_singleton.mp hnew
          exact Or.inr ⟨shared, entry.2, rfl⟩
      · exact Or.inr hnamed
  rcases hfold _ {} h with hnone | hnamed
  · simp [lists] at hnone
  · exact hnamed

/-- **What a call stands for.**  The name of a material's list leads to the commands that take the
rest state to this material. -/
theorem commandsOf_build {uses : MaterialUses} {library : MaterialLibrary}
    {default : MaterialState} {key : MaterialKey} {material : Material} {name : String}
    (hname : (build uses library default).nameOf? key = some name)
    (hmaterial : library.get? key = some material) :
    (build uses library default).commandsOf name = body default material.state := by
  have hfaithful := faithful_build uses library default
  generalize build uses library default = shared at hname hfaithful ⊢
  obtain ⟨list, hlookup, rfl⟩ := Option.map_eq_some_iff.mp hname
  have hentry : (key, list) ∈ shared.entries := by
    obtain ⟨before, after, heq, _⟩ := List.lookup_eq_some_iff.mp hlookup
    rw [heq]
    simp
  have hlist : list ∈ shared.lists := List.mem_map.mpr ⟨(key, list), hentry, rfl⟩
  have hfind : shared.lists.find? (·.name = list.name) = some list :=
    find?_of_mem hfaithful.distinct hlist
  obtain ⟨found, hfound, hcommands⟩ := hfaithful.commands key list hentry
  rw [hmaterial] at hfound
  obtain rfl := Option.some.inj hfound
  rw [commandsOf, hfind, Option.map_some, Option.getD_some, hcommands]

end SharedMaterials

end SceneCompiler
