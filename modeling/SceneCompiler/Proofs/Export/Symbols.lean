import SceneCompiler.Proofs.Export.Failures
import SceneCompiler.Proofs.Unit.Symbols

/-!
# The symbols of an export

The units of an export, its shared lists and its buffers are linked into one program, where each of
them needs a symbol of its own. If meshes and requests are named apart, symbols can still be taken
twice, in three ways (`Scene.nodup_symbols_iff`): a unit has the name of a shared list or of a
buffer, two units have a buffer of one mesh in one layout, or a mesh is named like the bounding box
of a unit. In the first case a unit can call itself (`Scene.self_call_of_echo`).
-/

namespace SceneCompiler

namespace Export

def meshBuffers (e : Export) : List VertexBuffer := e.units.flatMap (·.vertexBuffers)

def boxBuffers (e : Export) : List VertexBuffer := e.units.flatMap (·.cullingBuffer.toList)

/-- The symbols of what the units use. -/
def partSymbols (e : Export) : List String :=
  e.sharedMaterials.map (·.name) ++ (e.meshBuffers.map (·.name) ++ e.boxBuffers.map (·.name))

def symbols (e : Export) : List String := e.units.map (·.displayList.name) ++ e.partSymbols

end Export

theorem nodup_map_congr {α β γ : Type} {f : α → β} {g : α → γ} {elements : List α}
    (h : ∀ a ∈ elements, ∀ b ∈ elements, f a = f b ↔ g a = g b) :
    (elements.map f).Nodup ↔ (elements.map g).Nodup := by
  simp only [List.Nodup, List.pairwise_map]
  constructor
  · exact List.Pairwise.imp_of_mem fun ha hb => mt (h _ ha _ hb).mpr
  · exact List.Pairwise.imp_of_mem fun ha hb => mt (h _ ha _ hb).mp

theorem ExportContext.names_compileAll {ctx : ExportContext} (units : List OrderedUnit)
    (nextBuffer : BufferId) :
    ((ctx.compileAll nextBuffer units).units.map (·.displayList.name)).Sublist
      (units.map (·.name)) := by
  induction units generalizing nextBuffer with
  | nil => exact .slnil
  | cons first rest ih =>
    unfold compileAll
    dsimp only
    split
    · rename_i unit hunit
      obtain ⟨draft, moves, _, hlist, _⟩ := compileUnit_ok hunit
      rw [List.map_cons, List.map_cons, hlist]
      exact (ih _).cons_cons first.name
    · exact (ih _).cons first.name

namespace Scene

variable {scene : Scene} {settings : Settings} {requests : List UnitRequest} {e : Export}
  {unit : CompiledUnit}

theorem names_plan (scene : Scene) (settings : Settings) (requests : List UnitRequest) :
    ((scene.plan settings requests).units.map (·.name)).Sublist (requests.map (·.name)) := by
  rw [units_plan, List.map_map]
  exact List.filter_sublist.map _

theorem compileUnits_ok (h : scene.compileUnits settings requests = .ok e) :
    e.units = ((scene.contextFor settings requests).compileAll 0
        (scene.plan settings requests).units).units ∧
      e.sharedMaterials = (scene.contextFor settings requests).shared.lists := by
  unfold compileUnits at h
  split at h
  · simp at h
  · obtain rfl := Except.ok.inj h
    exact ⟨rfl, rfl⟩

theorem nodup_names_units (hrequests : (requests.map (·.name)).Nodup)
    (h : scene.compileUnits settings requests = .ok e) :
    (e.units.map (·.displayList.name)).Nodup := by
  rw [(compileUnits_ok h).1]
  exact hrequests.sublist ((ExportContext.names_compileAll _ 0).trans (scene.names_plan settings _))

theorem meshName?_prepared (settings : Settings) (buffer : VertexBuffer) :
    buffer.meshName? (scene.prepared settings) = buffer.meshName? scene := by
  unfold VertexBuffer.meshName?
  congr 1
  funext id
  exact scene.prepared_cases settings id rfl fun _ _ => rfl

theorem named_of_mem (h : scene.compileUnits settings requests = .ok e) (hunit : unit ∈ e.units) :
    unit.Named scene (e.sharedMaterials.map (·.name)) := by
  obtain ⟨haccepted, request, _, nextBuffer, _, hcompiled⟩ := mem_units h hunit
  have hsize := (Settings.vertexCacheSize_of_accepted haccepted).2
  obtain ⟨_, hbuffers, hkinds, hculling, hcalls⟩ := ExportContext.named_unit hsize hcompiled
  refine ⟨fun buffer hbuffer => ?_, hkinds, hculling, ?_⟩
  · rw [← meshName?_prepared settings]
    exact hbuffers buffer hbuffer
  · rw [(compileUnits_ok h).2]
    exact hcalls

/-! ### Buffers of meshes -/

/-- Meshes that are named apart are told apart by their names. -/
theorem mesh_eq_of_meshName? (hmeshes : (scene.meshes.map (·.name)).Nodup)
    {buffer other : VertexBuffer} {name : String} (h : buffer.meshName? scene = some name)
    (hother : other.meshName? scene = some name) : buffer.mesh = other.mesh := by
  have hplace : ∀ {buffer : VertexBuffer}, buffer.meshName? scene = some name →
      ∃ id, buffer.mesh = some id ∧ (scene.meshes.map (·.name))[id]? = some name := by
    intro buffer hname
    obtain ⟨id, hid, hmesh⟩ := Option.bind_eq_some_iff.mp hname
    exact ⟨id, hid, by rw [List.getElem?_map]; exact hmesh⟩
  obtain ⟨id, hid, hname⟩ := hplace h
  obtain ⟨otherId, hotherId, hotherName⟩ := hplace hother
  obtain ⟨hlt, hname⟩ := List.getElem?_eq_some_iff.mp hname
  obtain ⟨hotherLt, hotherName⟩ := List.getElem?_eq_some_iff.mp hotherName
  rw [hid, hotherId, hmeshes.getElem_inj_iff.mp (hname.trans hotherName.symm)]

theorem name_eq_iff (hmeshes : (scene.meshes.map (·.name)).Nodup)
    (h : scene.compileUnits settings requests = .ok e) {buffer other : VertexBuffer}
    (hbuffer : buffer ∈ e.meshBuffers) (hother : other ∈ e.meshBuffers) :
    buffer.name = other.name ↔ (buffer.mesh, buffer.layout) = (other.mesh, other.layout) := by
  obtain ⟨unit, hunit, hmem⟩ := List.mem_flatMap.mp hbuffer
  obtain ⟨otherUnit, hotherUnit, hotherMem⟩ := List.mem_flatMap.mp hother
  obtain ⟨mesh, hmesh, hname⟩ := (named_of_mem h hunit).buffers buffer hmem
  obtain ⟨otherMesh, hotherMesh, hotherName⟩ := (named_of_mem h hotherUnit).buffers other hotherMem
  rw [hname, hotherName, VertexBuffer.symbol_inj, Prod.mk.injEq]
  constructor
  · rintro ⟨rfl, hlayout⟩
    exact ⟨mesh_eq_of_meshName? hmeshes hmesh hotherMesh, hlayout⟩
  · rintro ⟨hsame, hlayout⟩
    rw [VertexBuffer.meshName?, hsame] at hmesh
    exact ⟨Option.some.inj (hmesh.symm.trans hotherMesh), hlayout⟩

/-- Buffers of meshes clash when two units have one of the same kind. -/
theorem nodup_names_meshBuffers_iff (hmeshes : (scene.meshes.map (·.name)).Nodup)
    (h : scene.compileUnits settings requests = .ok e) :
    (e.meshBuffers.map (·.name)).Nodup ↔
      e.units.Pairwise fun unit other => ∀ buffer ∈ unit.vertexBuffers,
        ∀ copy ∈ other.vertexBuffers, buffer.mesh = copy.mesh → buffer.layout ≠ copy.layout := by
  rw [nodup_map_congr fun _ hbuffer _ hother => name_eq_iff hmeshes h hbuffer hother,
    Export.meshBuffers, List.map_flatMap, List.nodup_flatMap]
  have hkinds : ∀ unit ∈ e.units,
      (unit.vertexBuffers.map fun buffer => (buffer.mesh, buffer.layout)).Nodup :=
    fun unit hunit => (named_of_mem h hunit).kinds
  rw [and_iff_right hkinds]
  refine List.Pairwise.iff fun unit other => ?_
  constructor
  · intro hdisjoint buffer hbuffer copy hcopy hmesh hlayout
    refine hdisjoint (List.mem_map_of_mem hbuffer) ?_
    rw [hmesh, hlayout]
    exact List.mem_map_of_mem hcopy
  · intro hapart kind hkind hsame
    obtain ⟨buffer, hbuffer, rfl⟩ := List.mem_map.mp hkind
    obtain ⟨copy, hcopy, heq⟩ := List.mem_map.mp hsame
    obtain ⟨hmesh, hlayout⟩ := Prod.mk.inj heq
    exact hapart buffer hbuffer copy hcopy hmesh.symm hlayout.symm

/-! ### Buffers of bounding boxes -/

theorem mem_boxBuffers {buffer : VertexBuffer} :
    buffer ∈ e.boxBuffers ↔ ∃ unit ∈ e.units, unit.cullingBuffer = some buffer := by
  simp [Export.boxBuffers]

/-- Units that are named apart have bounding boxes that are named apart. -/
theorem nodup_names_boxBuffers (hrequests : (requests.map (·.name)).Nodup)
    (h : scene.compileUnits settings requests = .ok e) : (e.boxBuffers.map (·.name)).Nodup := by
  rw [Export.boxBuffers, List.map_flatMap, List.nodup_flatMap]
  constructor
  · intro unit _
    cases unit.cullingBuffer with
    | none => exact List.nodup_nil
    | some buffer => exact List.nodup_singleton _
  · refine (List.pairwise_map.mp (nodup_names_units hrequests h)).imp_of_mem ?_
    intro unit other hunit hother hne name hname hsame
    obtain ⟨buffer, hbuffer, rfl⟩ := List.mem_map.mp hname
    obtain ⟨copy, hcopy, heq⟩ := List.mem_map.mp hsame
    rw [(named_of_mem h hunit).culling buffer (Option.mem_toList.mp hbuffer),
      (named_of_mem h hother).culling copy (Option.mem_toList.mp hcopy),
      VertexBuffer.symbol_inj, String.append_left_inj] at heq
    exact hne heq.1.symm

/-- A mesh clashes with a bounding box when it is lit and named like the box. -/
theorem disjoint_boxBuffers_iff (h : scene.compileUnits settings requests = .ok e) :
    (∀ a ∈ e.meshBuffers.map (·.name), ∀ b ∈ e.boxBuffers.map (·.name), a ≠ b) ↔
      ∀ unit ∈ e.units, unit.cullingBuffer.isSome = true → ∀ buffer ∈ e.meshBuffers,
        buffer.layout = .normal →
          buffer.meshName? scene ≠ some (unit.displayList.name ++ "_cull") := by
  have hbox : ∀ unit ∈ e.units, ∀ box, unit.cullingBuffer = some box → ∀ buffer ∈ e.meshBuffers,
      (buffer.name = box.name ↔ buffer.layout = .normal ∧
        buffer.meshName? scene = some (unit.displayList.name ++ "_cull")) := by
    intro unit hunit box hculling buffer hbuffer
    obtain ⟨drawn, hdrawn, hmem⟩ := List.mem_flatMap.mp hbuffer
    obtain ⟨mesh, hmesh, hname⟩ := (named_of_mem h hdrawn).buffers buffer hmem
    rw [hname, (named_of_mem h hunit).culling box hculling, VertexBuffer.symbol_inj, hmesh,
      Option.some.injEq, and_comm]
  constructor
  · intro hapart unit hunit hsome buffer hbuffer hlayout hname
    obtain ⟨box, hculling⟩ := Option.isSome_iff_exists.mp hsome
    exact hapart buffer.name (List.mem_map_of_mem hbuffer) box.name
      (List.mem_map_of_mem (mem_boxBuffers.mpr ⟨unit, hunit, hculling⟩))
      ((hbox unit hunit box hculling buffer hbuffer).mpr ⟨hlayout, hname⟩)
  · intro hnames a ha b hb heq
    obtain ⟨buffer, hbuffer, rfl⟩ := List.mem_map.mp ha
    obtain ⟨box, hmem, rfl⟩ := List.mem_map.mp hb
    obtain ⟨unit, hunit, hculling⟩ := mem_boxBuffers.mp hmem
    obtain ⟨hlayout, hname⟩ := (hbox unit hunit box hculling buffer hbuffer).mp heq
    exact hnames unit hunit (by rw [hculling]; rfl) buffer hbuffer hlayout hname

/-! ### The export as a whole -/

theorem getLast?_name_buffer (h : scene.compileUnits settings requests = .ok e) {name : String}
    (hname : name ∈ e.meshBuffers.map (·.name) ++ e.boxBuffers.map (·.name)) :
    name.toList.getLast? = some 'x' := by
  rw [← List.map_append] at hname
  obtain ⟨buffer, hbuffer, rfl⟩ := List.mem_map.mp hname
  rcases List.mem_append.mp hbuffer with hbuffer | hbuffer
  · obtain ⟨unit, hunit, hmem⟩ := List.mem_flatMap.mp hbuffer
    obtain ⟨mesh, _, hname⟩ := (named_of_mem h hunit).buffers buffer hmem
    rw [hname]
    exact VertexBuffer.getLast?_symbol _ _
  · obtain ⟨unit, hunit, hculling⟩ := mem_boxBuffers.mp hbuffer
    rw [(named_of_mem h hunit).culling buffer hculling]
    exact VertexBuffer.getLast?_symbol _ _

/-- **When symbols are taken twice.**  Every call in a unit names a shared list. If meshes and
requests are named apart, the symbols of an export are all different exactly if no unit has the name
of a shared list or a buffer, no two units have a buffer of one mesh in one layout, and no mesh with
normals is named like the bounding box of a unit. -/
theorem nodup_symbols_iff (hmeshes : (scene.meshes.map (·.name)).Nodup)
    (hrequests : (requests.map (·.name)).Nodup)
    (h : scene.compileUnits settings requests = .ok e) :
    (∀ unit ∈ e.units, ∀ list, .callList list ∈ unit.displayList.commands →
        list ∈ e.sharedMaterials.map (·.name)) ∧
      (e.symbols.Nodup ↔
        (∀ unit ∈ e.units, unit.displayList.name ∉ e.partSymbols) ∧
        (e.units.Pairwise fun unit other => ∀ buffer ∈ unit.vertexBuffers,
          ∀ copy ∈ other.vertexBuffers, buffer.mesh = copy.mesh → buffer.layout ≠ copy.layout) ∧
        ∀ unit ∈ e.units, unit.cullingBuffer.isSome = true → ∀ buffer ∈ e.meshBuffers,
          buffer.layout = .normal →
            buffer.meshName? scene ≠ some (unit.displayList.name ++ "_cull")) := by
  refine ⟨fun unit hunit => (named_of_mem h hunit).calls, ?_⟩
  have hshared : (e.sharedMaterials.map (·.name)).Nodup := by
    rw [(compileUnits_ok h).2]
    exact (SharedMaterials.faithful_build _ _ _).distinct
  have hlists : ∀ a ∈ e.sharedMaterials.map (·.name),
      ∀ b ∈ e.meshBuffers.map (·.name) ++ e.boxBuffers.map (·.name), a ≠ b := by
    rintro a ha b hb rfl
    obtain ⟨list, hlist, rfl⟩ := List.mem_map.mp ha
    rw [(compileUnits_ok h).2] at hlist
    exact SharedMaterials.getLast?_name hlist (getLast?_name_buffer h hb)
  have hunits : (∀ a ∈ e.units.map (·.displayList.name), ∀ b ∈ e.partSymbols, a ≠ b) ↔
      ∀ unit ∈ e.units, unit.displayList.name ∉ e.partSymbols := by
    rw [List.forall_mem_map]
    constructor
    · intro hapart unit hunit hmem
      exact hapart unit hunit _ hmem rfl
    · rintro hnot unit hunit b hb rfl
      exact hnot unit hunit hb
  rw [← nodup_names_meshBuffers_iff hmeshes h, ← disjoint_boxBuffers_iff h, ← hunits,
    Export.symbols, List.nodup_append]
  rw [and_iff_right (nodup_names_units hrequests h), and_comm]
  refine and_congr_right fun _ => ?_
  rw [Export.partSymbols, List.nodup_append, List.nodup_append]
  have hboxes := nodup_names_boxBuffers hrequests h
  constructor
  · rintro ⟨_, ⟨hbuffers, _, hdisjoint⟩, _⟩
    exact ⟨hbuffers, hdisjoint⟩
  · rintro ⟨hbuffers, hdisjoint⟩
    exact ⟨hshared, ⟨hbuffers, hboxes, hdisjoint⟩, hlists⟩

end Scene

/-! ### An echo

A floor and a wall of moss. When both are drawn by one unit that is asked for under the name that
the list of the moss gets, its call of the list is a call of itself. -/

namespace Echo

def triangle : Surface Float32 where
  positions := [⟨0, 0, 0⟩, ⟨1, 0, 0⟩, ⟨0, 1, 0⟩]
  faces := [⟨0, 1, 2⟩]

def scene : Scene where
  library.materials := [{ name := "default" },
    { name := "moss", state.registers.environmentColor := some ⟨34, 85, 34, 255⟩ }]
  meshes := [.unskinned "floor" triangle none "moss", .unskinned "wall" triangle none "moss"]

def settings : Settings where
  maxIterations := 5
  includeCulling := true

/-- The floor and the wall by one unit. -/
def requests : List UnitRequest := [⟨"moss_material", [0, 1]⟩]

/-- The floor and the wall by units of their own. -/
def apart : List UnitRequest := [⟨"floor_gfx", [0]⟩, ⟨"wall_gfx", [1]⟩]

end Echo

namespace Scene

theorem nodup_symbols_iff_of_echo :
    (Echo.scene.meshes.map (·.name)).Nodup ∧ (Echo.apart.map (·.name)).Nodup ∧
      ∃ e, Echo.scene.compileUnits Echo.settings Echo.apart = .ok e ∧
        e.symbols.length = 7 ∧ e.symbols.Nodup := by
  refine ⟨by decide, by decide, ?_⟩
  have hclear : ((Echo.scene.compileUnits Echo.settings Echo.apart).toOption.any fun e =>
      e.symbols.length = 7 ∧
      (∀ unit ∈ e.units, unit.displayList.name ∉ e.partSymbols) ∧
      (e.units.Pairwise fun unit other => ∀ buffer ∈ unit.vertexBuffers,
        ∀ copy ∈ other.vertexBuffers, buffer.mesh = copy.mesh → buffer.layout ≠ copy.layout) ∧
      ∀ unit ∈ e.units, unit.cullingBuffer.isSome = true → ∀ buffer ∈ e.meshBuffers,
        buffer.layout = .normal →
          buffer.meshName? Echo.scene ≠ some (unit.displayList.name ++ "_cull")) = true := by
    decide +kernel
  cases hexport : Echo.scene.compileUnits Echo.settings Echo.apart with
  | error refusal => simp [hexport, Except.toOption] at hclear
  | ok e =>
    rw [hexport] at hclear
    obtain ⟨hlength, hapart⟩ := of_decide_eq_true hclear
    exact ⟨e, rfl, hlength, (nodup_symbols_iff (by decide) (by decide) hexport).2.mpr hapart⟩

/-- A unit has the symbol of a shared list and calls it. -/
theorem self_call_of_echo :
    (Echo.scene.meshes.map (·.name)).Nodup ∧ (Echo.requests.map (·.name)).Nodup ∧
      Echo.settings.error? = none ∧
      ∃ e unit, Echo.scene.compileUnits Echo.settings Echo.requests = .ok e ∧ unit ∈ e.units ∧
        .callList unit.displayList.name ∈ unit.displayList.commands ∧ ¬ e.symbols.Nodup := by
  refine ⟨by decide, by decide, by decide +kernel, ?_⟩
  have htest : ((Echo.scene.compileUnits Echo.settings Echo.requests).toOption.any fun e =>
      (∃ unit ∈ e.units, .callList unit.displayList.name ∈ unit.displayList.commands) ∧
        ¬ e.symbols.Nodup) = true := by
    decide +kernel
  cases hexport : Echo.scene.compileUnits Echo.settings Echo.requests with
  | error refusal => simp [hexport, Except.toOption] at htest
  | ok e =>
    rw [hexport] at htest
    obtain ⟨⟨unit, hunit, hcall⟩, hclash⟩ := of_decide_eq_true htest
    exact ⟨e, unit, rfl, hunit, hcall, hclash⟩

end Scene

end SceneCompiler
