import Mathlib.Analysis.Real.Sqrt
import SceneCompiler.Mesh.Projection
import SceneCompiler.Proofs.Mesh.Components

/-!
# Projection by groups

The texture coordinates of all groups of connected faces are written into one list. No two groups
share a vertex (`Surface.pairwise_disjoint_groups`), so whatever was in the list before, a vertex
ends up with what its own group has for it (`Surface.Fits.getElem?_projectedUVs_of_mem`). A group in
turn reads nothing but its own vertices (`Surface.groupUV_congr`).

In single precision differences are rounded. Over exact coordinates a vertex has its distance from
the smallest coordinate of the group, and every group starts at zero in both directions
(`Surface.projected_groups`).
-/

namespace SceneCompiler

/-! ### Exact coordinates -/

namespace Scalar

/-- The largest finite value of single precision. -/
noncomputable def largest : ℝ := (2 - 2⁻¹ ^ 23) * 2 ^ 127

/-- Exact coordinates. The search for a smallest one still starts from the largest value of single
precision, which no finite value of single precision exceeds. -/
noncomputable instance exact : Scalar ℝ where
  toZero := inferInstance
  toOne := inferInstance
  toAdd := inferInstance
  toSub := inferInstance
  toMul := inferInstance
  toDiv := inferInstance
  toNeg := inferInstance
  toOfScientific := inferInstance
  sqrt := Real.sqrt
  less a b := decide (a < b)
  atMost a b := decide (a ≤ b)
  least := min
  greatest := max
  capped := min largest

theorem isLeast_smallest {first : ℝ} {rest : List ℝ} (h : ∀ a ∈ first :: rest, a ≤ largest) :
    IsLeast {a | a ∈ first :: rest} (smallest first rest) := by
  have hmin : (first :: rest).min? = some (rest.foldl min first) := List.min?_cons'
  obtain ⟨hmem, hle⟩ := List.min?_eq_some_iff.mp hmin
  have hcapped : smallest first rest = rest.foldl min first := min_eq_right (h _ hmem)
  rw [hcapped]
  exact ⟨hmem, hle⟩

end Scalar

/-! ### Directions -/

section Directions

variable {α : Type} [Scalar α]

/-- The pairs of directions that a projection chooses from: those of a floor and of two walls. -/
def projectionPlanes : List (Vec3 α × Vec3 α) :=
  [(Vec3.xAxis, Vec3.zAxis), (Vec3.xAxis, Vec3.yAxis), (Vec3.zAxis, Vec3.yAxis)]

theorem projectionAxes_mem (normal : Vec3 α) : projectionAxes normal ∈ projectionPlanes := by
  unfold projectionAxes
  split
  · simp [projectionPlanes]
  · split
    · simp [projectionPlanes]
    · simp [projectionPlanes]

theorem mem_of_projectionPlanes {axes : Vec3 α × Vec3 α} (h : axes ∈ projectionPlanes) :
    axes.1 ∈ [Vec3.xAxis, Vec3.yAxis, Vec3.zAxis] ∧
      axes.2 ∈ [Vec3.xAxis, Vec3.yAxis, Vec3.zAxis] := by
  simp only [projectionPlanes, List.mem_cons, List.not_mem_nil, or_false] at h
  rcases h with rfl | rfl | rfl
  · simp
  · simp
  · simp

end Directions

namespace Vec3

variable (v : Vec3 ℝ)

/-- The coordinate in the direction of an axis is one of the coordinates. -/
theorem dot_mem_toList {direction : Vec3 ℝ} (h : direction ∈ [xAxis, yAxis, zAxis]) :
    v.dot direction ∈ v.toList := by
  have hx : v.dot xAxis = v.x := by
    change v.x * 1 + v.y * 0 + v.z * 0 = v.x
    ring
  have hy : v.dot yAxis = v.y := by
    change v.x * 0 + v.y * 1 + v.z * 0 = v.y
    ring
  have hz : v.dot zAxis = v.z := by
    change v.x * 0 + v.y * 0 + v.z * 1 = v.z
    ring
  simp only [List.mem_cons, List.not_mem_nil, or_false] at h
  rcases h with rfl | rfl | rfl
  · simp [hx, toList]
  · simp [hy, toList]
  · simp [hz, toList]

end Vec3

namespace Surface

/-! ### Groups and their vertices -/

section Groups

variable {α : Type} {s t : Surface α} {group other : List Nat} {vertex : Nat} {face : Face}

def groupFaces (s : Surface α) (group : List Nat) : List Face :=
  group.filterMap fun i => s.faces[i]?

/-- The vertices of the faces with the given numbers. -/
def groupVertices (s : Surface α) (group : List Nat) : List Nat :=
  (s.groupFaces group).flatMap Face.corners

theorem mem_groupVertices : vertex ∈ s.groupVertices group ↔
    ∃ i ∈ group, ∃ face, s.faces[i]? = some face ∧ vertex ∈ face.corners := by
  simp only [groupVertices, groupFaces, List.mem_flatMap, List.mem_filterMap]
  constructor
  · rintro ⟨face, ⟨i, hi, hface⟩, hvertex⟩
    exact ⟨i, hi, face, hface, hvertex⟩
  · rintro ⟨i, hi, face, hface, hvertex⟩
    exact ⟨face, ⟨i, hi, hface⟩, hvertex⟩

theorem exists_face_of_mem_groupVertices (h : vertex ∈ s.groupVertices group) :
    ∃ face ∈ s.faces, vertex ∈ face.corners := by
  obtain ⟨_, _, face, hface, hvertex⟩ := mem_groupVertices.mp h
  exact ⟨face, List.mem_of_getElem? hface, hvertex⟩

theorem groupVertices_ne_nil (h : group ∈ s.connectedFaceGroups) : s.groupVertices group ≠ [] := by
  rw [connectedFaceGroups_eq] at h
  obtain ⟨⟨key, members⟩, hkeyed, rfl⟩ := List.mem_map.mp h
  obtain ⟨hsome, _⟩ := ascending_groupsBy _ _ hkeyed
  obtain ⟨i, hi⟩ := List.exists_mem_of_ne_nil members hsome
  obtain ⟨hlt, _⟩ := (mem_group_iff _ _).mp ⟨members, hkeyed, hi⟩
  have hface : s.faces[i]? = some s.faces[i] := List.getElem?_eq_getElem hlt
  exact List.ne_nil_of_mem (mem_groupVertices.mpr ⟨i, hi, _, hface, first_mem_corners _⟩)

theorem exists_group_of_face (hface : face ∈ s.faces) :
    ∃ group ∈ s.connectedFaceGroups, ∀ vertex ∈ face.corners, vertex ∈ s.groupVertices group := by
  obtain ⟨i, hi⟩ := List.getElem?_of_mem hface
  have hlt : i < s.faces.length := (List.getElem?_eq_some_iff.mp hi).1
  obtain ⟨key, hkey⟩ := Option.isSome_iff_exists.mp (rootOf?_isSome hlt)
  obtain ⟨members, hgroup, hmember⟩ := (mem_group_iff _ _).mpr ⟨hlt, hkey⟩
  refine ⟨members, ?_, fun vertex hvertex => ?_⟩
  · rw [connectedFaceGroups_eq]
    exact List.mem_map.mpr ⟨_, hgroup, rfl⟩
  · exact mem_groupVertices.mpr ⟨i, hmember, face, hi, hvertex⟩

/-- **Groups share no vertex.**  Faces that do are neighbours, so they are in one group. -/
theorem pairwise_disjoint_groups
    (hfaces : ∀ face ∈ s.faces, ∀ vertex ∈ face.corners, vertex < s.vertexCount) :
    s.connectedFaceGroups.Pairwise fun group other =>
      (s.groupVertices group).Disjoint (s.groupVertices other) := by
  have hkeys := List.pairwise_map.mp (keys_groupsBy s.rootOf? s.faces.length)
  rw [connectedFaceGroups_eq, List.pairwise_map]
  refine hkeys.imp_of_mem ?_
  intro ⟨key, members⟩ ⟨key', members'⟩ hgroup hother hne vertex hvertex hvertex'
  obtain ⟨i, hi, a, ha, hcorner⟩ := mem_groupVertices.mp hvertex
  obtain ⟨j, hj, b, hb, hcorner'⟩ := mem_groupVertices.mp hvertex'
  have hconnected : s.Connected i j := .single ⟨a, b, vertex, ha, hb, hcorner, hcorner'⟩
  have hroots := (rootOf?_eq_iff hfaces ha hb).mpr hconnected
  obtain ⟨_, hkey⟩ := (mem_group_iff _ _).mp ⟨members, hgroup, hi⟩
  obtain ⟨_, hkey'⟩ := (mem_group_iff _ _).mp ⟨members', hother, hj⟩
  rw [hkey, hkey'] at hroots
  exact hne (Option.some.inj hroots)

/-- Every face has the vertices that it names, and attributes are there for all vertices or for
none. -/
structure Fits (s : Surface α) : Prop where
  faces : ∀ face ∈ s.faces, ∀ vertex ∈ face.corners, vertex < s.vertexCount
  normals : ∀ normals ∈ s.normals, normals.length = s.vertexCount
  uvs : ∀ uvs ∈ s.uvs, uvs.length = s.vertexCount

theorem Fits.isProjectable (h : s.Fits) : s.isProjectable = true := by
  simp only [Surface.isProjectable, projectsVertex, List.all_eq_true, Bool.and_eq_true,
    decide_eq_true_eq]
  intro face hface vertex hcorner
  have hvertex := h.faces face hface vertex hcorner
  exact ⟨⟨hvertex, coversVertices_of_length h.normals hvertex⟩,
    coversVertices_of_length h.uvs hvertex⟩

end Groups

/-! ### One list for all groups -/

section Writes

variable {α : Type} [Scalar α] {s t : Surface α} {scaleS scaleT : α} {uvs : List (Vec2 α)}
  {groups : List (List Nat)} {group other : List Nat} {vertex : Nat} {face : Face}

/-- The directions that a group is projected along. -/
def groupAxes (s : Surface α) (group : List Nat) : Vec3 α × Vec3 α :=
  projectionAxes (s.groupNormal (s.groupFaces group))

/-- How far a vertex is from the smallest coordinate of some vertices in a direction. -/
def offset (s : Surface α) (vertices : List Nat) (direction : Vec3 α) (vertex : Nat) : α :=
  (s.position vertex).dot direction - s.lowest vertices direction

/-- The texture coordinates that a group has for a vertex. -/
def groupUV (s : Surface α) (scaleS scaleT : α) (group : List Nat) (vertex : Nat) : Vec2 α where
  x := s.offset (s.groupVertices group) (s.groupAxes group).1 vertex * scaleS
  y := s.offset (s.groupVertices group) (s.groupAxes group).2 vertex * scaleT

/-- A group writes its own vertices and no other. -/
theorem getElem?_projectGroup : (s.projectGroup scaleS scaleT uvs group)[vertex]? =
    if vertex ∈ s.groupVertices group then
      uvs[vertex]?.map fun _ => s.groupUV scaleS scaleT group vertex
    else uvs[vertex]? := by
  have hwrites : s.projectGroup scaleS scaleT uvs group = uvs.mapIdx fun vertex uv =>
      if (s.groupVertices group).contains vertex then s.groupUV scaleS scaleT group vertex
      else uv := rfl
  rw [hwrites, List.getElem?_mapIdx]
  simp only [List.contains_iff_mem]
  split
  · rfl
  · exact Option.map_id'

theorem getElem?_foldl_projectGroup_of_notMem
    (h : ∀ group ∈ groups, vertex ∉ s.groupVertices group) :
    (groups.foldl (s.projectGroup scaleS scaleT) uvs)[vertex]? = uvs[vertex]? := by
  induction groups generalizing uvs with
  | nil => rfl
  | cons group rest ih =>
    rw [List.foldl_cons, ih fun other hother => h other (List.mem_cons_of_mem group hother),
      getElem?_projectGroup, if_neg (h group List.mem_cons_self)]

/-- Among groups that share no vertex, the others do not write over what a group has written. -/
theorem getElem?_foldl_projectGroup_of_mem
    (hgroups : groups.Pairwise fun group other =>
      (s.groupVertices group).Disjoint (s.groupVertices other))
    (hgroup : group ∈ groups) (hvertex : vertex ∈ s.groupVertices group) :
    (groups.foldl (s.projectGroup scaleS scaleT) uvs)[vertex]? =
      uvs[vertex]?.map fun _ => s.groupUV scaleS scaleT group vertex := by
  induction groups generalizing uvs with
  | nil => simp at hgroup
  | cons first rest ih =>
    obtain ⟨hfirst, hrest⟩ := List.pairwise_cons.mp hgroups
    rw [List.foldl_cons]
    rcases List.mem_cons.mp hgroup with rfl | hgroup
    · rw [getElem?_foldl_projectGroup_of_notMem fun other hother => hfirst other hother hvertex,
        getElem?_projectGroup, if_pos hvertex]
    · have hnew : vertex ∉ s.groupVertices first := fun hmem => hfirst group hgroup hmem hvertex
      rw [ih hrest hgroup, getElem?_projectGroup, if_neg hnew]

/-- The texture coordinates that the groups are written over. -/
def earlierUVs (s : Surface α) : List (Vec2 α) :=
  s.uvs.getD (List.replicate s.vertexCount ⟨0, 0⟩)

theorem Fits.length_earlierUVs (h : s.Fits) : s.earlierUVs.length = s.vertexCount := by
  unfold earlierUVs
  cases huvs : s.uvs with
  | none => simp
  | some uvs => exact h.uvs uvs huvs

theorem Fits.getElem?_projectedUVs_of_mem (h : s.Fits) (hgroup : group ∈ s.connectedFaceGroups)
    (hvertex : vertex ∈ s.groupVertices group) :
    (s.projectedUVs scaleS scaleT)[vertex]? = some (s.groupUV scaleS scaleT group vertex) := by
  obtain ⟨face, hface, hcorner⟩ := exists_face_of_mem_groupVertices hvertex
  have hlt : vertex < s.earlierUVs.length := by
    rw [h.length_earlierUVs]
    exact h.faces face hface vertex hcorner
  have hwritten : (s.projectedUVs scaleS scaleT)[vertex]? =
      s.earlierUVs[vertex]?.map fun _ => s.groupUV scaleS scaleT group vertex :=
    getElem?_foldl_projectGroup_of_mem (pairwise_disjoint_groups h.faces) hgroup hvertex
  rwa [List.getElem?_eq_getElem hlt] at hwritten

theorem getElem?_projectedUVs_of_notMem (h : ∀ face ∈ s.faces, vertex ∉ face.corners) :
    (s.projectedUVs scaleS scaleT)[vertex]? = s.earlierUVs[vertex]? := by
  apply getElem?_foldl_projectGroup_of_notMem
  intro group _ hmem
  obtain ⟨face, hface, hcorner⟩ := exists_face_of_mem_groupVertices hmem
  exact h face hface hcorner

/-! ### What a group depends on -/

/-- Two surfaces have a vertex in one place, and with one normal if they have normals. -/
structure AgreesAt (s t : Surface α) (vertex : Nat) : Prop where
  positions : s.positions[vertex]? = t.positions[vertex]?
  normals : (s.normals.map fun normals => normals[vertex]?) =
    t.normals.map fun normals => normals[vertex]?

theorem AgreesAt.position (h : s.AgreesAt t vertex) : s.position vertex = t.position vertex :=
  congrArg (·.getD .zero) h.positions

theorem faceNormal_congr (h : ∀ vertex ∈ face.corners, s.AgreesAt t vertex) :
    s.faceNormal face = t.faceNormal face := by
  have hfirst := (h face.a (first_mem_corners face)).normals
  unfold faceNormal
  cases hs : s.normals with
  | none =>
    cases ht : t.normals with
    | none =>
      have hb := h face.b (by simp [Face.corners])
      have hc := h face.c (by simp [Face.corners])
      rw [(h face.a (first_mem_corners face)).position, hb.position, hc.position]
    | some normals => simp [hs, ht] at hfirst
  | some normals =>
    cases ht : t.normals with
    | none => simp [hs, ht] at hfirst
    | some normals' =>
      refine congrArg Vec3.sum (List.map_congr_left ?_)
      intro vertex hvertex
      have hnormals := (h vertex hvertex).normals
      rw [hs, ht] at hnormals
      exact congrArg (·.getD .zero) (Option.some.inj hnormals)

theorem lowest_congr {vertices : List Nat} {direction : Vec3 α}
    (h : ∀ vertex ∈ vertices, s.AgreesAt t vertex) :
    s.lowest vertices direction = t.lowest vertices direction := by
  have hmap : (vertices.map fun vertex => (s.position vertex).dot direction) =
      vertices.map fun vertex => (t.position vertex).dot direction := by
    refine List.map_congr_left ?_
    intro vertex hvertex
    rw [(h vertex hvertex).position]
  rw [lowest, lowest, hmap]

/-- **A group depends on its own vertices only.** -/
theorem groupUV_congr (hfaces : s.groupFaces group = t.groupFaces other)
    (hagree : ∀ vertex ∈ s.groupVertices group, s.AgreesAt t vertex)
    (hvertex : vertex ∈ s.groupVertices group) :
    s.groupUV scaleS scaleT group vertex = t.groupUV scaleS scaleT other vertex := by
  have hvertices : s.groupVertices group = t.groupVertices other :=
    congrArg (·.flatMap Face.corners) hfaces
  have hnormals :
      (s.groupFaces group).map s.faceNormal = (t.groupFaces other).map t.faceNormal := by
    rw [← hfaces]
    refine List.map_congr_left ?_
    intro face hface
    refine faceNormal_congr fun vertex hcorner => hagree vertex ?_
    exact List.mem_flatMap.mpr ⟨face, hface, hcorner⟩
  have haxes : s.groupAxes group = t.groupAxes other := by
    rw [groupAxes, groupAxes, groupNormal, groupNormal, hnormals]
  have hoffset : ∀ direction, s.offset (s.groupVertices group) direction vertex =
      t.offset (t.groupVertices other) direction vertex := by
    intro direction
    rw [offset, offset, ← hvertices, (hagree vertex hvertex).position, lowest_congr hagree]
  rw [groupUV, groupUV, haxes, hoffset, hoffset]

end Writes

/-! ### Exact projections -/

section Exact

variable {s : Surface ℝ} {scaleS scaleT : ℝ} {vertices group : List Nat} {vertex : Nat}

/-- The coordinates of some vertices in a direction. -/
def coordinates (s : Surface ℝ) (vertices : List Nat) (direction : Vec3 ℝ) : Set ℝ :=
  {a | ∃ vertex ∈ vertices, (s.position vertex).dot direction = a}

theorem isLeast_lowest {direction : Vec3 ℝ} (hne : vertices ≠ [])
    (h : ∀ vertex ∈ vertices, (s.position vertex).dot direction ≤ Scalar.largest) :
    IsLeast (s.coordinates vertices direction) (s.lowest vertices direction) := by
  obtain ⟨first, rest, rfl⟩ := List.exists_cons_of_ne_nil hne
  have hset : s.coordinates (first :: rest) direction =
      {a | a ∈ (first :: rest).map fun vertex => (s.position vertex).dot direction} := by
    ext a
    exact List.mem_map.symm
  have hle : ∀ a ∈ (first :: rest).map fun vertex => (s.position vertex).dot direction,
      a ≤ Scalar.largest := List.forall_mem_map.mpr h
  rw [hset]
  exact Scalar.isLeast_smallest hle

/-- Distances from the smallest coordinate start at zero, in any positive scale. -/
theorem isLeast_zero {f : Nat → ℝ} {lowest scale : ℝ} {values : Nat → Option ℝ}
    (h : IsLeast {a | ∃ vertex ∈ vertices, f vertex = a} lowest) (hscale : 0 < scale)
    (hvalues : ∀ vertex ∈ vertices, values vertex = some ((f vertex - lowest) * scale)) :
    IsLeast {u | ∃ vertex ∈ vertices, values vertex = some u} 0 := by
  obtain ⟨⟨vertex, hvertex, heq⟩, hle⟩ := h
  constructor
  · refine ⟨vertex, hvertex, ?_⟩
    rw [hvalues vertex hvertex, heq, sub_self, zero_mul]
  · rintro u ⟨vertex, hvertex, hu⟩
    rw [hvalues vertex hvertex] at hu
    obtain rfl := Option.some.inj hu
    exact mul_nonneg (sub_nonneg.mpr (hle ⟨vertex, hvertex, rfl⟩)) hscale.le

/-- No coordinate is larger than those that single precision has. -/
def InRange (s : Surface ℝ) : Prop :=
  ∀ position ∈ s.positions, ∀ a ∈ position.toList, a ≤ Scalar.largest

theorem InRange.dot_le (h : s.InRange) (hvertex : vertex < s.vertexCount) {direction : Vec3 ℝ}
    (hdirection : direction ∈ [Vec3.xAxis, Vec3.yAxis, Vec3.zAxis]) :
    (s.position vertex).dot direction ≤ Scalar.largest := by
  have hmem : s.position vertex ∈ s.positions := List.mem_of_getElem? (getElem?_positions hvertex)
  exact h _ hmem _ (Vec3.dot_mem_toList _ hdirection)

/-- Vertices have the texture coordinates of a projection along a pair of directions: their
distances from the smallest coordinate of all, to scale, so that both start at zero. -/
structure LaidOut (s : Surface ℝ) (scaleS scaleT : ℝ) (uvs : List (Vec2 ℝ)) (vertices : List Nat)
    (axes : Vec3 ℝ × Vec3 ℝ) : Prop where
  axes_mem : axes ∈ projectionPlanes
  distances : ∃ left up, IsLeast (s.coordinates vertices axes.1) left ∧
    IsLeast (s.coordinates vertices axes.2) up ∧ ∀ vertex ∈ vertices, uvs[vertex]? = some
      { x := ((s.position vertex).dot axes.1 - left) * scaleS
        y := ((s.position vertex).dot axes.2 - up) * scaleT }
  startS : IsLeast {u | ∃ vertex ∈ vertices, uvs[vertex]?.map Vec2.x = some u} 0
  startT : IsLeast {v | ∃ vertex ∈ vertices, uvs[vertex]?.map Vec2.y = some v} 0

theorem Fits.laidOut (h : s.Fits) (hrange : s.InRange) (hscaleS : 0 < scaleS)
    (hscaleT : 0 < scaleT) (hgroup : group ∈ s.connectedFaceGroups) :
    s.LaidOut scaleS scaleT (s.projectedUVs scaleS scaleT) (s.groupVertices group)
      (s.groupAxes group) := by
  have haxes : s.groupAxes group ∈ projectionPlanes := projectionAxes_mem _
  obtain ⟨hleft, hup⟩ := mem_of_projectionPlanes haxes
  have hleast : ∀ direction ∈ [Vec3.xAxis, Vec3.yAxis, Vec3.zAxis],
      IsLeast (s.coordinates (s.groupVertices group) direction)
        (s.lowest (s.groupVertices group) direction) := by
    intro direction hdirection
    refine isLeast_lowest (groupVertices_ne_nil hgroup) fun vertex hvertex => ?_
    obtain ⟨face, hface, hcorner⟩ := exists_face_of_mem_groupVertices hvertex
    exact hrange.dot_le (h.faces face hface vertex hcorner) hdirection
  have huvs : ∀ vertex ∈ s.groupVertices group, (s.projectedUVs scaleS scaleT)[vertex]? =
      some (s.groupUV scaleS scaleT group vertex) :=
    fun vertex hvertex => h.getElem?_projectedUVs_of_mem hgroup hvertex
  refine ⟨haxes, ⟨_, _, hleast _ hleft, hleast _ hup, huvs⟩,
    isLeast_zero (hleast _ hleft) hscaleS ?_, isLeast_zero (hleast _ hup) hscaleT ?_⟩
  · intro vertex hvertex
    rw [huvs vertex hvertex]
    rfl
  · intro vertex hvertex
    rw [huvs vertex hvertex]
    rfl

/-- **A projection lays out every group on its own and from zero.**  It finds all that it needs,
every face is in a group, and each group has a pair of directions that all its vertices are
projected along. Another surface that has the same group with the same vertices gives these the same
texture coordinates, whatever else is on it and whatever texture coordinates there were before. A
vertex of no face keeps its own, or gets zero. -/
theorem projected_groups (h : s.Fits) (hrange : s.InRange) (hscaleS : 0 < scaleS)
    (hscaleT : 0 < scaleT) :
    s.isProjectable = true ∧ ∃ uvs, (s.projected scaleS scaleT).uvs = some uvs ∧
      (∀ face ∈ s.faces, ∃ group ∈ s.connectedFaceGroups,
        ∀ vertex ∈ face.corners, vertex ∈ s.groupVertices group) ∧
      (∀ group ∈ s.connectedFaceGroups,
        s.LaidOut scaleS scaleT uvs (s.groupVertices group) (s.groupAxes group) ∧
        ∀ t : Surface ℝ, t.Fits → ∀ other ∈ t.connectedFaceGroups,
          s.groupFaces group = t.groupFaces other →
          (∀ vertex ∈ s.groupVertices group, s.AgreesAt t vertex) →
          ∀ others, (t.projected scaleS scaleT).uvs = some others →
            ∀ vertex ∈ s.groupVertices group, others[vertex]? = uvs[vertex]?) ∧
      ∀ vertex < s.vertexCount, (∀ face ∈ s.faces, vertex ∉ face.corners) →
        (∀ old, s.uvs = some old → uvs[vertex]? = old[vertex]?) ∧
        (s.uvs = none → uvs[vertex]? = some ⟨0, 0⟩) := by
  refine ⟨h.isProjectable, s.projectedUVs scaleS scaleT, rfl, fun _ => exists_group_of_face, ?_, ?_⟩
  · intro group hgroup
    refine ⟨h.laidOut hrange hscaleS hscaleT hgroup, ?_⟩
    intro t ht other hother hfaces hagree others hothers vertex hvertex
    obtain rfl : t.projectedUVs scaleS scaleT = others := Option.some.inj hothers
    have hvertex' : vertex ∈ t.groupVertices other := by
      rwa [groupVertices, ← hfaces]
    rw [ht.getElem?_projectedUVs_of_mem hother hvertex',
      h.getElem?_projectedUVs_of_mem hgroup hvertex, groupUV_congr hfaces hagree hvertex]
  · intro vertex hlt hvertex
    rw [getElem?_projectedUVs_of_notMem hvertex]
    constructor
    · rintro old hold
      rw [earlierUVs, hold, Option.getD_some]
    · intro hnone
      rw [earlierUVs, hnone, Option.getD_none, List.getElem?_replicate, if_pos hlt]

end Exact

/-! ### A room

A piece of floor and a piece of wall that share no vertex, and a vertex of neither. -/

noncomputable def room : Surface ℝ where
  positions := [⟨1, 0, 1⟩, ⟨3, 0, 1⟩, ⟨3, 0, 4⟩, ⟨0, 2, 5⟩, ⟨2, 2, 5⟩, ⟨2, 4, 5⟩, ⟨0, 0, 0⟩]
  uvs := some (List.replicate 7 ⟨5, 5⟩)
  faces := [⟨0, 2, 1⟩, ⟨3, 4, 5⟩]

theorem projected_groups_of_room :
    room.Fits ∧ room.InRange ∧ (0 : ℝ) < 1 / 2 ∧ (0 : ℝ) < 2 ∧
      ∃ uvs, (room.projected (1 / 2) 2).uvs = some uvs ∧
        room.LaidOut (1 / 2) 2 uvs [0, 2, 1] (room.groupAxes [0]) ∧
        room.LaidOut (1 / 2) 2 uvs [3, 4, 5] (room.groupAxes [1]) ∧ uvs[6]? = some ⟨5, 5⟩ := by
  have hfits : room.Fits := by
    constructor
    · simp [room, Face.corners, vertexCount]
    · simp [room]
    · simp [room, vertexCount]
  have hfive : ∀ position ∈ room.positions, ∀ a ∈ position.toList, a ≤ 5 := by
    norm_num [room, Vec3.toList]
  have hrange : room.InRange := fun position hposition a ha =>
    (hfive position hposition a ha).trans (by norm_num [Scalar.largest])
  have hgroups : room.connectedFaceGroups = [[0], [1]] := by
    have hroots : groupsBy room.rootOf? room.faces.length = [(0, [0]), (3, [1])] := by cbv
    rw [connectedFaceGroups_eq, hroots]
    rfl
  obtain ⟨_, uvs, huvs, _, hlaid, hkept⟩ :=
    projected_groups hfits hrange (show (0 : ℝ) < 1 / 2 by norm_num) (show (0 : ℝ) < 2 by norm_num)
  refine ⟨hfits, hrange, by norm_num, by norm_num, uvs, huvs, ?_, ?_, ?_⟩
  · exact (hlaid [0] (by simp [hgroups])).1
  · exact (hlaid [1] (by simp [hgroups])).1
  · have hunused : ∀ face ∈ room.faces, 6 ∉ face.corners := by
      simp [room, Face.corners]
    rw [(hkept 6 (by simp [room, vertexCount]) hunused).1 _ rfl]
    rfl

end Surface

end SceneCompiler
