import Mathlib.Data.List.Basic
import SceneCompiler.VertexBuffer

/-!
# Conversion into sixteen bits

A vertex has three numbers to convert, or five if the mesh has texture coordinates and the size of
the texture is known (`VertexBuffer.number?`). A number that fits into sixteen bits is stored as it
is rounded, and any other one as the end of the range that it is beyond (`VertexBuffer.StoredAs`).

The numbers that do not fit are misfits. Each of them is reported once, in the order of vertices and
components, and nothing else is reported of a mesh whose attributes are complete
(`VertexBuffer.build_ranges`).
-/

namespace SceneCompiler

/-! ### Rounding -/

theorem toFixed_eq_error_iff {value : Float32} {rounded : Int} :
    toFixed value = .error rounded ↔
      roundHalfUp value = rounded ∧ (32767 < rounded ∨ rounded < -32768) := by
  simp only [toFixed, Bool.and_eq_true, decide_eq_true_eq]
  split
  · rename_i hfits
    simp only [reduceCtorEq, false_iff]
    omega
  · rename_i hmisfit
    simp only [Except.error.injEq]
    omega

theorem clampShort_of_lt {value : Int} (h : 32767 < value) : clampShort value = 32767 := by
  rw [clampShort, Int.min_eq_left (by omega)]
  rfl

theorem clampShort_of_gt {value : Int} (h : value < -32768) : clampShort value = -32768 := by
  rw [clampShort, Int.max_eq_left (by omega)]
  rfl

/-- Every attribute that a mesh has is there for each of its vertices. -/
structure SkinnedMesh.Parallel (mesh : SkinnedMesh) : Prop where
  normals : ∀ normals ∈ mesh.surface.normals, normals.length = mesh.surface.vertexCount
  uvs : ∀ uvs ∈ mesh.surface.uvs, uvs.length = mesh.surface.vertexCount
  colors : ∀ colors ∈ mesh.colors, colors.length = mesh.surface.vertexCount

def VertexComponent.rank : VertexComponent → Nat
  | x => 0
  | y => 1
  | z => 2
  | u => 3
  | v => 4

def HardwareVertex.component (stored : HardwareVertex) : VertexComponent → Int16
  | .x => stored.position.x
  | .y => stored.position.y
  | .z => stored.position.z
  | .u => stored.uv.x
  | .v => stored.uv.y

namespace VertexBuffer

/-! ### Numbers and what is stored for them -/

/-- What is stored for a number: what it is rounded to, or the end of the range that it is
beyond. -/
def StoredAs (value : Float32) (stored : Int16) : Prop :=
  match toFixed value with
  | .ok fixed => stored = fixed
  | .error rounded => 32767 < rounded ∧ stored = 32767 ∨ rounded < -32768 ∧ stored = -32768

theorem storedAs_fixedOrClamped (value : Float32) : StoredAs value (fixedOrClamped value) := by
  unfold StoredAs fixedOrClamped
  cases hfixed : toFixed value with
  | ok fixed => rfl
  | error rounded =>
    rcases (toFixed_eq_error_iff.mp hfixed).2 with hover | hunder
    · exact Or.inl ⟨hover, clampShort_of_lt hover⟩
    · exact Or.inr ⟨hunder, clampShort_of_gt hunder⟩

section Numbers

variable (settings : Settings) (mesh : SkinnedMesh) (textureSize : Option (Nat × Nat))

/-- The position of a vertex after it is moved. -/
def movedPosition? (vertex : Nat) : Option (Vec3 Float32) :=
  mesh.surface.positions[vertex]?.map (vertexTransform settings mesh vertex).onPoint

/-- The texture coordinate of a vertex in units of 2⁻⁵ texels. -/
def texelPosition? (vertex : Nat) : Option (Vec2 Float32) := do
  let uvs ← mesh.surface.uvs
  let uv ← uvs[vertex]?
  let (width, height) ← textureSize
  return texelCoordinate uv width height

/-- The number that a component of a vertex is converted from, if there is one. -/
def number? (vertex : Nat) : VertexComponent → Option Float32
  | .x => (movedPosition? settings mesh vertex).map (·.x)
  | .y => (movedPosition? settings mesh vertex).map (·.y)
  | .z => (movedPosition? settings mesh vertex).map (·.z)
  | .u => (texelPosition? mesh textureSize vertex).map (·.x)
  | .v => (texelPosition? mesh textureSize vertex).map (·.y)

variable {settings mesh textureSize} {vertex : Nat} {component : VertexComponent} {value : Float32}

theorem movedPosition?_eq (textureSize : Option (Nat × Nat))
    (hvertex : vertex < mesh.surface.vertexCount) :
    movedPosition? settings mesh vertex =
      some (place settings mesh textureSize vertex).position := by
  rw [movedPosition?, Surface.getElem?_positions hvertex, Option.map_some]
  rfl

theorem texelPosition?_eq (settings : Settings) (h : mesh.Parallel)
    (hvertex : vertex < mesh.surface.vertexCount) :
    texelPosition? mesh textureSize vertex = (place settings mesh textureSize vertex).uv := by
  unfold texelPosition? place
  cases huvs : mesh.surface.uvs with
  | none => rfl
  | some uvs =>
    have hlength : vertex < uvs.length := by rwa [h.uvs uvs huvs]
    cases textureSize with
    | none => simp
    | some size => simp [List.getElem?_eq_getElem hlength]

theorem lt_of_number? (h : mesh.Parallel)
    (hnumber : number? settings mesh textureSize vertex component = some value) :
    vertex < mesh.surface.vertexCount := by
  have hmoved : ∀ {position}, movedPosition? settings mesh vertex = some position →
      vertex < mesh.surface.vertexCount := by
    intro position hposition
    obtain ⟨_, hgiven, _⟩ := Option.map_eq_some_iff.mp hposition
    exact (List.getElem?_eq_some_iff.mp hgiven).1
  have htexel : ∀ {uv}, texelPosition? mesh textureSize vertex = some uv →
      vertex < mesh.surface.vertexCount := by
    intro uv huv
    obtain ⟨uvs, huvs, hrest⟩ := Option.bind_eq_some_iff.mp huv
    obtain ⟨_, hgiven, _⟩ := Option.bind_eq_some_iff.mp hrest
    rw [← h.uvs uvs huvs]
    exact (List.getElem?_eq_some_iff.mp hgiven).1
  cases component with
  | x | y | z =>
    obtain ⟨_, hposition, _⟩ := Option.map_eq_some_iff.mp hnumber
    exact hmoved hposition
  | u | v =>
    obtain ⟨_, huv, _⟩ := Option.map_eq_some_iff.mp hnumber
    exact htexel huv

/-- The numbers of a vertex in order are those that are looked at for it. -/
theorem mem_components_iff (h : mesh.Parallel) (hvertex : vertex < mesh.surface.vertexCount) :
    (component, value) ∈ (place settings mesh textureSize vertex).components ↔
      number? settings mesh textureSize vertex component = some value := by
  unfold Placed.components number?
  rw [movedPosition?_eq textureSize hvertex, texelPosition?_eq settings h hvertex]
  cases (place settings mesh textureSize vertex).uv with
  | none => cases component <;> simp [eq_comm]
  | some uv => cases component <;> simp [eq_comm]

theorem pairwise_components (p : Placed) :
    p.components.Pairwise fun entry later => entry.1.rank < later.1.rank := by
  obtain ⟨position, uv⟩ := p
  cases uv <;> simp [Placed.components, VertexComponent.rank]

theorem component_convert (layout : VertexLayout) (h : mesh.Parallel)
    (hvertex : vertex < mesh.surface.vertexCount) (component : VertexComponent) :
    (convert settings mesh layout textureSize vertex).component component =
      ((number? settings mesh textureSize vertex component).map fixedOrClamped).getD 0 := by
  unfold number?
  rw [movedPosition?_eq textureSize hvertex, texelPosition?_eq settings h hvertex]
  unfold convert
  cases huv : (place settings mesh textureSize vertex).uv with
  | none => cases component <;> simp [HardwareVertex.component, Vec3.map, huv]
  | some uv => cases component <;> simp [HardwareVertex.component, Vec3.map, huv]

/-- A vertex lacks no number but those of a texture coordinate that the mesh does not have, or that
no size is known for. -/
theorem number?_eq_none_iff (h : mesh.Parallel) (hvertex : vertex < mesh.surface.vertexCount) :
    number? settings mesh textureSize vertex component = none ↔
      (component = .u ∨ component = .v) ∧ (mesh.surface.uvs = none ∨ textureSize = none) := by
  have huv : texelPosition? mesh textureSize vertex = none ↔
      mesh.surface.uvs = none ∨ textureSize = none := by
    rw [texelPosition?_eq settings h hvertex]
    unfold place
    cases mesh.surface.uvs <;> cases textureSize <;> simp
  cases component <;>
    simp [number?, movedPosition?_eq textureSize hvertex, huv]

end Numbers

/-! ### Reports -/

/-- A component of a vertex, and what its number was rounded to although that does not fit. -/
structure Misfit where
  vertex : Nat
  component : VertexComponent
  rounded : Int

namespace Misfit

def report (id : BufferId) (misfit : Misfit) : Diagnostic :=
  .valueOutOfRange id misfit.vertex misfit.component misfit.rounded

/-- The order of vertices, and at one vertex that of components. -/
def Precedes (misfit later : Misfit) : Prop :=
  misfit.vertex < later.vertex ∨
    misfit.vertex = later.vertex ∧ misfit.component.rank < later.component.rank

end Misfit

section Build

variable (settings : Settings) (mesh : SkinnedMesh) (textureSize : Option (Nat × Nat))

def misfitOf? (vertex : Nat) (entry : VertexComponent × Float32) : Option Misfit :=
  match toFixed entry.2 with
  | .ok _ => none
  | .error rounded => some ⟨vertex, entry.1, rounded⟩

def misfits : List Misfit :=
  (List.range mesh.surface.vertexCount).flatMap fun vertex =>
    (place settings mesh textureSize vertex).components.filterMap (misfitOf? vertex)

variable {settings mesh textureSize} {vertex : Nat} {entry : VertexComponent × Float32}
  {misfit : Misfit}

theorem misfitOf?_eq_some_iff : misfitOf? vertex entry = some misfit ↔
    misfit.vertex = vertex ∧ misfit.component = entry.1 ∧
      toFixed entry.2 = .error misfit.rounded := by
  obtain ⟨component, value⟩ := entry
  obtain ⟨_, _, rounded⟩ := misfit
  unfold misfitOf?
  cases toFixed value <;> simp [eq_comm]

theorem mem_misfits_iff (h : mesh.Parallel) : misfit ∈ misfits settings mesh textureSize ↔
    ∃ value, number? settings mesh textureSize misfit.vertex misfit.component = some value ∧
      toFixed value = .error misfit.rounded := by
  simp only [misfits, List.mem_flatMap, List.mem_range, List.mem_filterMap, misfitOf?_eq_some_iff]
  constructor
  · rintro ⟨vertex, hvertex, ⟨component, value⟩, hentry, rfl, rfl, herror⟩
    exact ⟨value, (mem_components_iff h hvertex).mp hentry, herror⟩
  · rintro ⟨value, hnumber, herror⟩
    have hvertex := lt_of_number? h hnumber
    exact ⟨_, hvertex, ⟨_, value⟩, (mem_components_iff h hvertex).mpr hnumber, rfl, rfl, herror⟩

theorem pairwise_misfits :
    (misfits settings mesh textureSize).Pairwise Misfit.Precedes := by
  refine List.pairwise_flatMap.mpr ⟨fun vertex _ => ?_, ?_⟩
  · refine List.pairwise_filterMap.mpr ((pairwise_components _).imp ?_)
    intro entry later hrank misfit hmisfit follower hfollower
    obtain ⟨rfl, hcomponent, _⟩ := misfitOf?_eq_some_iff.mp hmisfit
    obtain ⟨hvertex, hlater, _⟩ := misfitOf?_eq_some_iff.mp hfollower
    rw [← hcomponent, ← hlater] at hrank
    exact Or.inr ⟨hvertex.symm, hrank⟩
  · refine List.pairwise_lt_range.imp ?_
    intro vertex later hlt misfit hmisfit follower hfollower
    obtain ⟨_, _, hmisfit⟩ := List.mem_filterMap.mp hmisfit
    obtain ⟨_, _, hfollower⟩ := List.mem_filterMap.mp hfollower
    obtain ⟨rfl, _⟩ := misfitOf?_eq_some_iff.mp hmisfit
    obtain ⟨rfl, _⟩ := misfitOf?_eq_some_iff.mp hfollower
    exact Or.inl hlt

theorem isComplete_of_parallel (h : mesh.Parallel) (layout : VertexLayout) :
    isComplete mesh layout textureSize = true := by
  have hnormals := coversVertices_of_length h.normals (Nat.le_refl _)
  have huvs := coversVertices_of_length h.uvs (Nat.le_refl _)
  have hcolors := coversVertices_of_length h.colors (Nat.le_refl _)
  simp [isComplete, hnormals, huvs, hcolors]

theorem reports_build (h : mesh.Parallel) (id : BufferId) (meshId : Option MeshId)
    (layout : VertexLayout) : (build settings id meshId mesh layout textureSize).2 =
      (misfits settings mesh textureSize).map (Misfit.report id) := by
  rw [build, if_pos (isComplete_of_parallel h layout), List.nil_append, misfits, List.map_flatMap]
  refine List.flatMap_congr fun vertex _ => ?_
  rw [Placed.diagnostics, List.map_filterMap]
  refine List.filterMap_congr ?_
  rintro ⟨component, value⟩ _
  dsimp only [misfitOf?]
  cases toFixed value <;> rfl

/-- **Whatever does not fit is clamped and reported.**  The buffer has a vertex for every position
of the mesh. What is reported is each number that does not fit, once, with what it was rounded to,
in the order of vertices and components. All numbers are stored as they are rounded or as the end of
the range that they are beyond, and a texture coordinate is zero where there is no number for it,
which is so if the mesh has none or no size is known. -/
theorem build_ranges (settings : Settings) (id : BufferId) (meshId : Option MeshId)
    (layout : VertexLayout) (textureSize : Option (Nat × Nat)) (h : mesh.Parallel) :
    ∃ buffer reports, build settings id meshId mesh layout textureSize = (buffer, reports) ∧
      buffer.vertices.length = mesh.surface.positions.length ∧
      (∃ misfits : List Misfit, reports = misfits.map (Misfit.report buffer.id) ∧
        misfits.Pairwise Misfit.Precedes ∧
        ∀ misfit, misfit ∈ misfits ↔ ∃ value,
          number? settings mesh textureSize misfit.vertex misfit.component = some value ∧
            toFixed value = .error misfit.rounded) ∧
      ∀ vertex < mesh.surface.positions.length, ∃ stored, buffer.vertices[vertex]? = some stored ∧
        ∀ component,
          (∀ value, number? settings mesh textureSize vertex component = some value →
            StoredAs value (stored.component component)) ∧
          (number? settings mesh textureSize vertex component = none →
            stored.component component = 0) ∧
          (number? settings mesh textureSize vertex component = none ↔
            (component = .u ∨ component = .v) ∧
              (mesh.surface.uvs = none ∨ textureSize = none)) := by
  refine ⟨_, _, rfl, ?_, ?_, fun vertex hvertex => ?_⟩
  · simp [Surface.vertexCount]
  · exact ⟨_, reports_build h id meshId layout, pairwise_misfits, fun misfit => mem_misfits_iff h⟩
  · refine ⟨convert settings mesh layout textureSize vertex, ?_, fun component => ?_⟩
    · simp [Surface.vertexCount, hvertex]
    · rw [component_convert layout h hvertex]
      refine ⟨fun value hvalue => ?_, fun hnone => ?_, number?_eq_none_iff h hvertex⟩
      · rw [hvalue]
        exact storedAs_fixedOrClamped value
      · rw [hnone]
        rfl

end Build

/-! ### A banner

A banner with normals, texture coordinates and colors, of which one corner is far away. -/

def banner : SkinnedMesh :=
  .unskinned "banner"
    { positions := [⟨0, 0, 0⟩, ⟨0, 2, 0⟩, ⟨300, 1, 0⟩]
      normals := some [⟨0, 0, 1⟩, ⟨0, 0, 1⟩, ⟨0, 0, 1⟩]
      uvs := some [⟨0, 0⟩, ⟨0, 1⟩, ⟨1, 0.5⟩]
      faces := [⟨0, 1, 2⟩] }
    (some [⟨1, 0, 0, 1⟩, ⟨1, 0, 0, 1⟩, ⟨1, 1, 1, 1⟩]) "cloth"

/-- Without a texture, no texture coordinate of the banner is reported, and all of them are zero. -/
theorem build_ranges_of_banner : banner.Parallel ∧
    ∃ buffer reports, build {} 3 (some 0) banner .normal none = (buffer, reports) ∧
      buffer.vertices.length = 3 ∧
      (∀ report ∈ reports, ∃ vertex component rounded,
        report = .valueOutOfRange 3 vertex component rounded ∧ component ≠ .u ∧ component ≠ .v) ∧
      ∀ vertex < 3, ∃ stored, buffer.vertices[vertex]? = some stored ∧ stored.uv = ⟨0, 0⟩ := by
  have hparallel : banner.Parallel := by
    constructor <;> simp [banner, SkinnedMesh.unskinned, Surface.vertexCount]
  have hnone : ∀ vertex, number? {} banner none vertex .u = none ∧
      number? {} banner none vertex .v = none := by
    intro vertex
    have huv : texelPosition? banner none vertex = none := by
      simp [texelPosition?]
    simp [number?, huv]
  obtain ⟨buffer, reports, hbuild, hlength, ⟨misfits, hreports, _, hmisfits⟩, hstored⟩ :=
    build_ranges {} 3 (some 0) .normal none hparallel
  have hid : buffer.id = 3 := (congrArg (·.1.id) hbuild).symm
  refine ⟨hparallel, buffer, reports, hbuild, hlength, ?_, fun vertex hvertex => ?_⟩
  · rw [hreports, hid]
    intro report hreport
    obtain ⟨misfit, hmisfit, rfl⟩ := List.mem_map.mp hreport
    obtain ⟨value, hvalue, _⟩ := (hmisfits misfit).mp hmisfit
    refine ⟨_, _, _, rfl, fun hu => ?_, fun hv => ?_⟩
    · rw [hu, (hnone _).1] at hvalue
      simp at hvalue
    · rw [hv, (hnone _).2] at hvalue
      simp at hvalue
  · obtain ⟨stored, hat, hcomponents⟩ := hstored vertex hvertex
    have hu := (hcomponents .u).2.1 (hnone vertex).1
    have hv := (hcomponents .v).2.1 (hnone vertex).2
    exact ⟨stored, hat, congrArg₂ Vec2.mk hu hv⟩

end VertexBuffer

end SceneCompiler
