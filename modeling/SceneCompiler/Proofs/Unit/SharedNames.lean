import SceneCompiler.Proofs.Unit.Symbols

/-!
# Names of shared lists

A call reaches a list by its name alone, whatever the materials are called. The name of a shared
list is a symbol (`Text.IsSymbol`), because the material's name is turned into one and only letters,
digits and underscores are added behind it. Different materials may become one symbol, but the names
of the lists are all different, and each leads to the list of the material that it was made for
(`SharedMaterials.calls_reach`).
-/

namespace SceneCompiler

namespace Text

/-! ### Symbols -/

/-- A letter or a digit of ASCII, or an underscore. -/
def InSymbol (c : Char) : Prop :=
  'a' ≤ c ∧ c ≤ 'z' ∨ 'A' ≤ c ∧ c ≤ 'Z' ∨ '0' ≤ c ∧ c ≤ '9' ∨ c = '_'

/-- A name for the program that is linked. -/
structure IsSymbol (name : String) : Prop where
  nonempty : name ≠ ""
  inside : ∀ c ∈ name.toList, InSymbol c
  front : ∀ c ∈ name.toList.head?, ¬ ('0' ≤ c ∧ c ≤ '9')

theorem isDigit_iff {c : Char} : c.isDigit = true ↔ '0' ≤ c ∧ c ≤ '9' := by
  simp [Char.isDigit, Char.le_def]

theorem inSymbol_of_isSymbolChar {c : Char} (h : isSymbolChar c = true) : InSymbol c := by
  simp only [isSymbolChar, Char.isAlphanum, Char.isAlpha, Bool.or_eq_true] at h
  rcases h with (hupper | hlower) | hdigit
  · exact Or.inr (Or.inl (by simpa [Char.isUpper, Char.le_def] using hupper))
  · exact Or.inl (by simpa [Char.isLower, Char.le_def] using hlower)
  · exact Or.inr (Or.inr (Or.inl (isDigit_iff.mp hdigit)))

theorem inSymbol_of_mem {name : List Char} {c : Char} (h : c ∈ symbolChars name) : InSymbol c := by
  have hunderscore : InSymbol '_' := Or.inr (Or.inr (Or.inr rfl))
  have hkept : ∀ c ∈ name.map fun c => if isSymbolChar c then c else '_', InSymbol c := by
    intro c hc
    obtain ⟨given, _, rfl⟩ := List.mem_map.mp hc
    split
    · rename_i hchar
      exact inSymbol_of_isSymbolChar hchar
    · exact hunderscore
  unfold symbolChars at h
  dsimp only at h
  split at h
  · split at h
    · rcases List.mem_cons.mp h with rfl | h
      · exact hunderscore
      · exact hkept c h
    · exact hkept c h
  · simp at h

theorem head?_symbolChars {name : List Char} {c : Char} (h : c ∈ (symbolChars name).head?) :
    c.isDigit = false := by
  unfold symbolChars at h
  dsimp only at h
  split at h
  · rename_i first rest heq
    split at h
    · obtain rfl := Option.some.inj h
      rfl
    · rename_i hdigit
      rw [heq] at h
      obtain rfl := Option.some.inj h
      exact eq_false_of_ne_true hdigit
  · simp at h

/-- What is made of a name is a symbol as soon as an underscore and symbol characters follow. -/
theorem isSymbol_of_toList {name text : String} {rest : List Char}
    (h : text.toList = (symbol name).toList ++ '_' :: rest) (hrest : ∀ c ∈ rest, InSymbol c) :
    IsSymbol text := by
  rw [symbol, String.toList_ofList] at h
  constructor
  · rintro rfl
    simp at h
  · intro c hc
    rw [h] at hc
    rcases List.mem_append.mp hc with hname | hc
    · exact inSymbol_of_mem hname
    · rcases List.mem_cons.mp hc with rfl | hc
      · exact Or.inr (Or.inr (Or.inr rfl))
      · exact hrest c hc
  · intro c hc
    rw [h, List.head?_append] at hc
    rw [← isDigit_iff, Bool.not_eq_true]
    cases hfirst : (symbolChars name.toList).head? with
    | none =>
      rw [hfirst] at hc
      obtain rfl := Option.some.inj hc
      rfl
    | some first =>
      rw [hfirst] at hc
      obtain rfl := Option.some.inj hc
      exact head?_symbolChars hfirst

end Text

namespace SharedMaterials

open Text (InSymbol IsSymbol)

theorem isSymbol_freeName (shared : SharedMaterials) (name : String) :
    IsSymbol (shared.freeName (Text.symbol name ++ "_material")) := by
  have hword : ∀ c ∈ "material".toList, InSymbol c := by
    have hletters : ∀ c ∈ "material".toList, Text.isSymbolChar c = true := by
      simp [Text.isSymbolChar]
    exact fun c hc => Text.inSymbol_of_isSymbolChar (hletters c hc)
  have hwanted : (Text.symbol name ++ "_material").toList =
      (Text.symbol name).toList ++ '_' :: "material".toList := String.toList_append
  rcases shared.freeName_cases (Text.symbol name ++ "_material") with heq | ⟨n, heq⟩
  · rw [heq]
    exact Text.isSymbol_of_toList hwanted hword
  · have hnumbered : (numbered (Text.symbol name ++ "_material") n).toList =
        (Text.symbol name).toList ++ '_' :: ("material".toList ++ '_' :: Nat.toDigits 10 n) := by
      rw [toList_numbered, hwanted, List.append_assoc, List.cons_append]
    rw [heq]
    refine Text.isSymbol_of_toList hnumbered fun c hc => ?_
    rcases List.mem_append.mp hc with hc | hc
    · exact hword c hc
    · rcases List.mem_cons.mp hc with rfl | hc
      · exact Or.inr (Or.inr (Or.inr rfl))
      · have hdigit := Nat.isDigit_of_mem_toDigits (by decide) (by decide) hc
        exact Or.inr (Or.inr (Or.inl (Text.isDigit_iff.mp hdigit)))

/-! ### Entries -/

theorem keys_foldl_add (default : MaterialState) (keyed : List (MaterialKey × Material))
    (shared : SharedMaterials) :
    (keyed.foldl (SharedMaterials.add default) shared).entries.map Prod.fst =
      shared.entries.map Prod.fst ++ keyed.map Prod.fst := by
  induction keyed generalizing shared with
  | nil => simp
  | cons entry rest ih =>
    rw [List.foldl_cons, ih, SharedMaterials.add]
    simp

variable {uses : MaterialUses} {library : MaterialLibrary} {default : MaterialState}
  {key : MaterialKey} {name : String}

theorem mem_keys_build_iff : key ∈ (build uses library default).entries.map Prod.fst ↔
    key < library.size ∧ uses.isShared key = true := by
  unfold build
  dsimp only
  rw [keys_foldl_add, List.map_nil, List.nil_append, List.mem_map]
  constructor
  · rintro ⟨entry, hentry, rfl⟩
    obtain ⟨hentry, hshared⟩ := List.mem_filter.mp hentry
    obtain ⟨⟨material, place⟩, hplace, rfl⟩ := List.mem_map.mp hentry
    exact ⟨(List.getElem?_eq_some_iff.mp (List.mem_zipIdx_iff_getElem?.mp hplace)).1, hshared⟩
  · rintro ⟨hlt, hshared⟩
    refine ⟨(key, library.materials[key]), List.mem_filter.mpr ⟨?_, hshared⟩, rfl⟩
    exact List.mem_map.mpr ⟨(library.materials[key], key),
      List.mem_zipIdx_iff_getElem?.mpr (List.getElem?_eq_getElem hlt), rfl⟩

theorem exists_entry_of_nameOf? {shared : SharedMaterials} (h : shared.nameOf? key = some name) :
    ∃ list, (key, list) ∈ shared.entries ∧ list.name = name := by
  obtain ⟨list, hlookup, hname⟩ := Option.map_eq_some_iff.mp h
  obtain ⟨before, after, heq, _⟩ := List.lookup_eq_some_iff.mp hlookup
  exact ⟨list, by simp [heq], hname⟩

theorem isSome_nameOf?_iff (shared : SharedMaterials) :
    (shared.nameOf? key).isSome = true ↔ key ∈ shared.entries.map Prod.fst := by
  constructor
  · intro hsome
    obtain ⟨name, hname⟩ := Option.isSome_iff_exists.mp hsome
    obtain ⟨list, hentry, _⟩ := exists_entry_of_nameOf? hname
    exact List.mem_map.mpr ⟨(key, list), hentry, rfl⟩
  · intro hkey
    obtain ⟨entry, hentry, rfl⟩ := List.mem_map.mp hkey
    cases hlookup : shared.entries.lookup entry.1 with
    | none => simpa using List.lookup_eq_none_iff.mp hlookup entry hentry
    | some list => simp [nameOf?, hlookup]

theorem callList_mem_materialCommands_iff (ctx : ExportContext) (registers : MaterialState)
    (material : Material) : .callList name ∈ ctx.materialCommands registers key material ↔
      ctx.shared.nameOf? key = some name := by
  have hnone := @ExportContext.callList_not_mem_transition name registers
  unfold ExportContext.materialCommands
  cases ctx.shared.nameOf? key with
  | none => simp [hnone]
  | some list => simp [hnone, eq_comm]

/-- **A call reaches the right list.**  Whatever the materials are called and whatever was drawn,
the lists have different names, and these are symbols. A material has a list exactly if it is in the
library and is shared. What a unit calls to draw with it is the name of its list; one list has this
name, and it holds what leads from the rest state, as far as the material fixes it, to the
material. -/
theorem calls_reach (library : MaterialLibrary) (units : List (List Batch))
    (default : MaterialState) :
    let uses := MaterialUses.ofUnits units
    let shared := build uses library default
    (shared.lists.map (·.name)).Nodup ∧ (∀ list ∈ shared.lists, IsSymbol list.name) ∧
      (∀ key, (shared.nameOf? key).isSome = true ↔
        key < library.size ∧ uses.isShared key = true) ∧
      (∀ (ctx : ExportContext) (registers : MaterialState) (key : MaterialKey) (material : Material)
        (name : String), .callList name ∈
            ({ ctx with shared } : ExportContext).materialCommands registers key material ↔
          shared.nameOf? key = some name) ∧
      ∀ key material name, library.get? key = some material → shared.nameOf? key = some name →
        ∃ list ∈ shared.lists, list.name = name ∧
          (∀ other ∈ shared.lists, other.name = name → other = list) ∧
          list.commands =
            MaterialState.transition (default.restrictedTo material.state) material.state := by
  intro uses shared
  have hfaithful : Faithful library default shared := faithful_build uses library default
  refine ⟨hfaithful.distinct, fun list hlist => ?_, fun key => ?_,
    fun _ registers _ material _ => callList_mem_materialCommands_iff _ registers material,
    fun key material name hmaterial hname => ?_⟩
  · obtain ⟨before, material, hname⟩ := exists_freeName_of_mem hlist
    rw [hname]
    exact isSymbol_freeName before material.name
  · rw [isSome_nameOf?_iff]
    exact mem_keys_build_iff
  · obtain ⟨list, hentry, rfl⟩ := exists_entry_of_nameOf? hname
    obtain ⟨found, hfound, hcommands⟩ := hfaithful.commands key list hentry
    obtain rfl := Option.some.inj (hmaterial.symm.trans hfound)
    have hlist : list ∈ shared.lists := List.mem_map.mpr ⟨(key, list), hentry, rfl⟩
    refine ⟨list, hlist, rfl, fun other hother hsame => ?_, hcommands⟩
    exact List.inj_on_of_nodup_map hfaithful.distinct hother hlist hsame

/-- Two names that become one symbol, and one with a digit at its front. -/
example : ((build ⟨[0, 1, 2], 2⟩ ⟨[{ name := "red paint" }, { name := "red-paint" },
      { name := "3d" }]⟩ {}).lists.map (·.name)) =
    ["red_paint_material", "red_paint_material_1", "_3d_material"] := rfl

end SharedMaterials

end SceneCompiler
