import SceneCompiler.Export
import SceneCompiler.Proofs.Tour.Visits
import SceneCompiler.Proofs.Unit.Geometry

/-!
# What an export draws

Every unit of an export draws the meshes that were asked for: each face once for each time its mesh
is listed, group by group, from buffers that hold the vertices of the mesh as it is exported, and
each vertex under the matrix of its owner (`Scene.renders_compileUnits`). The faces of a mesh are
spread over batches, and the batches are reordered; nothing is lost on the way
(`Scene.faces_extractBatches`, `Scene.orderBatches_perm`).
-/

namespace SceneCompiler

/-- A mesh that was made for a skeleton and whose faces are between its vertices. -/
structure SkinnedMesh.WellFormed (skeleton : Skeleton) (mesh : SkinnedMesh) : Prop where
  made : mesh.IsMade skeleton
  faces : ∀ vertex, mesh.HasCorner vertex → vertex < mesh.surface.vertexCount

namespace Scene

/-- The faces of a mesh of the scene, with the mesh. -/
def facesOf (scene : Scene) (id : MeshId) : List (MeshId × Face) :=
  match scene.mesh id with
  | .error _ => []
  | .ok mesh => mesh.surface.faces.map (id, ·)

/-- The batches of some meshes in the order in which they are drawn. -/
def orderedBatches (scene : Scene) (settings : Settings) (request : UnitRequest) : List Batch :=
  (scene.orderUnit settings request (scene.extractBatches settings request.meshes).batches).batches

end Scene

/-- A buffer of a unit with the vertices of a mesh of the scene as it is exported. -/
structure CompiledUnit.Provides (unit : CompiledUnit) (scene : Scene) (settings : Settings)
    (id : MeshId) (mesh : SkinnedMesh) (buffer : VertexBuffer) : Prop where
  number : unit.buffer? buffer.id = some buffer
  source : scene.mesh id = .ok mesh
  made : buffer.IsFor settings id (scene.prepare settings mesh)

/-- A triangle for a face of a mesh: its corners are the vertices of the face in their order, from a
buffer with the vertices of the mesh, and each is moved by its owner. -/
def CompiledUnit.Shows (unit : CompiledUnit) (scene : Scene) (settings : Settings)
    (triangle : DrawnTriangle) (face : MeshId × Face) : Prop :=
  ∃ mesh buffer, unit.Provides scene settings face.1 mesh buffer ∧
    triangle = mesh.drawnFace buffer.id face.2

/-- A load within a buffer of a unit: of the corners of its bounding box with nothing on the stack,
or of vertices of a mesh, each under exactly the chain of its owner, which fits on the stack. -/
def CompiledUnit.Fetches (unit : CompiledUnit) (scene : Scene) (settings : Settings)
    (load : VertexLoad) : Prop :=
  ∃ buffer, unit.buffer? load.buffer = some buffer ∧
    (∀ k < load.count, load.offset + k < buffer.vertices.length) ∧
      ((unit.cullingBuffer = some buffer ∧ load.stack = []) ∨
        ∃ id mesh, unit.Provides scene settings id mesh buffer ∧
          load.stack.length ≤ settings.maxMatrixDepth ∧
          ∀ k < load.count,
            load.stack = scene.skeleton.pathFromRoot (mesh.vertexBone (load.offset + k)))

/-- A unit that, run on a processor at rest, draws what a request asks for. -/
structure CompiledUnit.Renders (unit : CompiledUnit) (scene : Scene) (settings : Settings)
    (request : UnitRequest) : Prop where
  name : unit.displayList.name = request.name
  meshes : ∀ id ∈ request.meshes, ∃ mesh, scene.mesh id = .ok mesh
  run : ∃ proc : Processor, Processor.run? {} unit.displayList.commands = some proc ∧
    List.Forall₂ (unit.Shows scene settings) proc.drawn
      ((scene.orderedBatches settings request).flatMap scene.batchFaces) ∧
    ∀ load ∈ proc.loads, unit.Fetches scene settings load
  faces : ((scene.orderedBatches settings request).flatMap scene.batchFaces).Perm
    (request.meshes.flatMap scene.facesOf)

/-! ### Meshes as they are exported -/

namespace Scene

variable {scene : Scene} {settings : Settings}

theorem mem_meshes {id : MeshId} {mesh : SkinnedMesh} (h : scene.mesh id = .ok mesh) :
    mesh ∈ scene.meshes := by
  unfold Scene.mesh at h
  split at h
  · rename_i found hfound
    obtain rfl := Except.ok.inj h
    exact List.mem_of_getElem? hfound
  · simp at h

/-- A mesh that is ready for export has other texture coordinates at most. -/
theorem exists_prepare (scene : Scene) (settings : Settings) (mesh : SkinnedMesh) :
    ∃ uvs, scene.prepare settings mesh = { mesh with surface.uvs := uvs } := by
  unfold prepare
  split
  · exact ⟨_, rfl⟩
  · exact ⟨mesh.surface.uvs, rfl⟩

/-- What is read off the meshes of a scene and of the one that is ready for export is related, if it is
for a mesh with any texture coordinates in place of its own. -/
@[elab_as_elim]
theorem prepared_cases {motive : Option SkinnedMesh → Option SkinnedMesh → Prop} (scene : Scene)
    (settings : Settings) (id : MeshId) (missing : motive none none)
    (found : ∀ mesh uvs, motive (some { mesh with surface.uvs := uvs }) (some mesh)) :
    motive (scene.prepared settings).meshes[id]? scene.meshes[id]? := by
  rw [prepared, List.getElem?_map]
  cases scene.meshes[id]? with
  | none => exact missing
  | some mesh =>
    obtain ⟨uvs, huvs⟩ := scene.exists_prepare settings mesh
    rw [Option.map_some, huvs]
    exact found mesh uvs

theorem mesh_prepared_eq (settings : Settings) (id : MeshId) :
    (scene.prepared settings).mesh id = (scene.mesh id).map (scene.prepare settings) := by
  unfold Scene.mesh Scene.prepared
  rw [List.getElem?_map]
  cases scene.meshes[id]? with
  | none => rfl
  | some mesh => rfl

theorem mesh_prepared {id : MeshId} {prepared : SkinnedMesh}
    (h : (scene.prepared settings).mesh id = .ok prepared) :
    ∃ mesh uvs, scene.mesh id = .ok mesh ∧ scene.prepare settings mesh = prepared ∧
      prepared = { mesh with surface.uvs := uvs } := by
  rw [mesh_prepared_eq] at h
  cases hmesh : scene.mesh id with
  | error failure => simp [hmesh, Except.map] at h
  | ok mesh =>
    rw [hmesh] at h
    obtain ⟨uvs, huvs⟩ := scene.exists_prepare settings mesh
    obtain rfl := Except.ok.inj h
    exact ⟨mesh, uvs, rfl, rfl, huvs⟩

theorem batchFaces_prepared (batch : Batch) :
    (scene.prepared settings).batchFaces batch = scene.batchFaces batch := by
  unfold batchFaces Scene.mesh
  congr 1
  funext id
  exact scene.prepared_cases settings id rfl fun _ _ => rfl

/-! ### Batches -/

theorem faces_batchesOf {id : MeshId} {mesh : SkinnedMesh} (hmesh : scene.mesh id = .ok mesh)
    (hmade : mesh.IsMade scene.skeleton) :
    ((scene.batchesOf settings id mesh).flatMap scene.batchFaces).Perm (scene.facesOf id) := by
  have hgroups : (scene.batchesOf settings id mesh).flatMap scene.batchFaces =
      ((mesh.drawnPairs.flatMap mesh.facesForPair).filterMap
        fun i => mesh.surface.faces[i]?).map (id, ·) := by
    rw [batchesOf, List.flatMap_map, List.filterMap_flatMap, List.map_flatMap]
    refine List.flatMap_congr fun pair _ => ?_
    simp only [batchFaces, hmesh]
    rfl
  have hfaces : scene.facesOf id = mesh.surface.faces.map (id, ·) := by
    simp only [facesOf, hmesh]
  rw [hgroups, hfaces]
  have hperm := hmade.drawnPairs_perm.filterMap fun i => mesh.surface.faces[i]?
  rw [filterMap_getElem?_range] at hperm
  exact hperm.map _

/-- **No face is lost or doubled when batches are extracted.** -/
theorem faces_extractBatches (hmade : ∀ mesh ∈ scene.meshes, mesh.IsMade scene.skeleton)
    {ids : List MeshId} (h : (scene.extractBatches settings ids).failure = none) :
    (∀ id ∈ ids, ∃ mesh, scene.mesh id = .ok mesh) ∧
      ((scene.extractBatches settings ids).batches.flatMap scene.batchFaces).Perm
        (ids.flatMap scene.facesOf) := by
  induction ids with
  | nil => exact ⟨by simp, .refl _⟩
  | cons id rest ih =>
    unfold extractBatches at h ⊢
    split at h
    · simp at h
    · rename_i mesh hmesh
      obtain ⟨hknown, hperm⟩ := ih h
      refine ⟨fun other hother => ?_, ?_⟩
      · rcases List.mem_cons.mp hother with rfl | hother
        · exact ⟨mesh, hmesh⟩
        · exact hknown other hother
      · rw [List.flatMap_cons, List.flatMap_append]
        exact (faces_batchesOf hmesh (hmade mesh (mem_meshes hmesh))).append hperm

end Scene

/-! ### Units -/

namespace CompiledUnit

variable {unit : CompiledUnit} {scene : Scene} {settings : Settings}

theorem buffer?_of_mem
    (hnumbered : ((unit.vertexBuffers ++ unit.cullingBuffer.toList).map (·.id)).Nodup)
    {buffer : VertexBuffer} (h : buffer ∈ unit.vertexBuffers ++ unit.cullingBuffer.toList) :
    unit.buffer? buffer.id = some buffer := find?_of_mem hnumbered h

/-- What an export context knows of its scene is true of the scene that is exported. -/
theorem provides_of_context {uses : MaterialUses}
    (hnumbered : ((unit.vertexBuffers ++ unit.cullingBuffer.toList).map (·.id)).Nodup)
    {id : MeshId} {prepared : SkinnedMesh} {buffer : VertexBuffer}
    (h : (scene.exportContext settings uses).Provides unit.vertexBuffers id prepared buffer) :
    ∃ mesh uvs, unit.Provides scene settings id mesh buffer ∧
      prepared = { mesh with surface.uvs := uvs } := by
  obtain ⟨mesh, uvs, hmesh, hprepare, hsame⟩ := Scene.mesh_prepared h.scene
  have hmade := h.made
  rw [← hprepare] at hmade
  exact ⟨mesh, uvs, ⟨buffer?_of_mem hnumbered (List.mem_append_left _ h.mem), hmesh, hmade⟩, hsame⟩

/-- **A unit draws what its request asks for.** -/
theorem renders_of_compileUnit (hmeshes : ∀ mesh ∈ scene.meshes, mesh.WellFormed scene.skeleton)
    (hsize : settings.vertexCacheSize ≤ maxVertexCacheSize) {uses : MaterialUses}
    {request : UnitRequest} {nextBuffer : BufferId}
    (hknown : (scene.extractBatches settings request.meshes).failure = none)
    (h : ((scene.exportContext settings uses).compileUnit request.name
      (scene.orderedBatches settings request) nextBuffer).result = .ok unit) :
    unit.Renders scene settings request := by
  obtain ⟨hlisted, hfaces⟩ :=
    Scene.faces_extractBatches (fun mesh hmesh => (hmeshes mesh hmesh).made) hknown
  obtain ⟨hnumbered, proc, hrun, hshows, hfetches⟩ := ExportContext.renders_unit hsize h
  obtain ⟨draft, moves, _, hlist, _⟩ := ExportContext.compileUnit_ok h
  constructor
  · rw [hlist]
  · exact hlisted
  · refine ⟨proc, hrun, ?_, fun load hload => ?_⟩
    · have hbatches : (scene.exportContext settings uses).scene.batchFaces = scene.batchFaces :=
        funext Scene.batchFaces_prepared
      rw [hbatches] at hshows
      refine hshows.imp fun triangle face hshow => ?_
      obtain ⟨prepared, buffer, hprepared, htriangle⟩ := hshow
      obtain ⟨mesh, uvs, hprovides, rfl⟩ := provides_of_context hnumbered hprepared
      exact ⟨mesh, buffer, hprovides, htriangle⟩
    · rcases hfetches load hload with ⟨buffer, hculling, hnumber, hstack, hwithin⟩ |
        ⟨id, prepared, buffer, hprepared, hload⟩
      · refine ⟨buffer, ?_, hwithin, Or.inl ⟨hculling, hstack⟩⟩
        rw [hnumber]
        refine buffer?_of_mem hnumbered (List.mem_append_right _ ?_)
        rw [hculling]
        exact List.mem_singleton_self buffer
      · obtain ⟨mesh, uvs, hprovides, rfl⟩ := provides_of_context hnumbered hprepared
        refine ⟨buffer, ?_, fun k hk => ?_, Or.inr ⟨id, mesh, hprovides, hload.depth, hload.stack⟩⟩
        · rw [hload.buffer]
          exact hprovides.number
        · have hmesh := hmeshes mesh (Scene.mem_meshes hprovides.source)
          rw [hprepared.made.length]
          exact hmesh.faces _ (hload.corners k hk)
  · exact ((Scene.orderBatches_perm _ _ _ _ _).flatMap_right _).trans hfaces

end CompiledUnit

/-! ### Exports -/

namespace Scene

variable {scene : Scene} {settings : Settings}

theorem renders_compileAll (hmeshes : ∀ mesh ∈ scene.meshes, mesh.WellFormed scene.skeleton)
    (hsize : settings.vertexCacheSize ≤ maxVertexCacheSize) (uses : MaterialUses)
    (requests : List UnitRequest) (nextBuffer : BufferId) :
    List.SublistForall₂ (fun unit request => unit.Renders scene settings request)
      ((scene.exportContext settings uses).compileAll nextBuffer
        (scene.plan settings requests).units).units requests := by
  induction requests generalizing nextBuffer with
  | nil => exact .nil
  | cons request rest ih =>
    unfold plan
    dsimp only
    split
    · exact .cons_right (ih nextBuffer)
    · rename_i hknown
      unfold ExportContext.compileAll
      dsimp only
      split
      · rename_i unit hunit
        exact .cons (CompiledUnit.renders_of_compileUnit hmeshes hsize hknown hunit) (ih _)
      · exact .cons_right (ih _)

/-- **An export draws what is asked for.**  The units of an export belong to requests, in the order
of the requests. A unit that is run on a processor at rest draws one triangle for each face of each
mesh that is listed, for each time it is listed, and the faces of a batch in the order of their
group. Each corner is the vertex of the face in its place, from a buffer with the vertices of the
mesh, moved by its owner: every load from such a buffer is done under exactly the chain of the owner
of each vertex that it loads, and it stays within the buffer. The lists that units call neither use
slots nor move the stack. -/
theorem renders_compileUnits (hmeshes : ∀ mesh ∈ scene.meshes, mesh.WellFormed scene.skeleton)
    {requests : List UnitRequest} {e : Export}
    (h : scene.compileUnits settings requests = .ok e) :
    List.SublistForall₂ (fun unit request => unit.Renders scene settings request) e.units
        requests ∧
      ∀ list ∈ e.sharedMaterials, ∀ c ∈ list.commands,
        c.usesSlots = false ∧ c.isMatrix = false := by
  unfold compileUnits at h
  split at h
  · simp at h
  · rename_i haccepted
    have hsize : settings.vertexCacheSize ≤ maxVertexCacheSize := by
      unfold Settings.error? at haccepted
      split at haccepted
      · simp at haccepted
      · rename_i hsize
        simp only [Bool.or_eq_true, decide_eq_true_eq, not_or] at hsize
        omega
    obtain rfl := Except.ok.inj h
    refine ⟨renders_compileAll hmeshes hsize _ requests 0, fun list hlist c hc => ?_⟩
    have htouches := (SharedMaterials.mem_lists_build hlist hc).1
    exact ⟨Command.usesSlots_of_touches htouches, Command.isMatrix_of_touches htouches⟩

end Scene

/-! ### An arm

A strip of three faces on two bones, the one in the middle between the bones. The cache holds three
vertices, so vertices are loaded again and again. -/

namespace Arm

def skeleton : Skeleton where
  bones := [⟨"upper", none, {}⟩, ⟨"lower", some 0, {}⟩]
  parent_lt := by
    intro child parent bone hbone hparent
    have hlt := (List.getElem?_eq_some_iff.mp hbone).1
    match child, hlt with
    | 0, _ =>
      obtain rfl := Option.some.inj hbone
      simp at hparent
    | 1, _ =>
      obtain rfl := Option.some.inj hbone
      obtain rfl := Option.some.inj hparent
      decide

def strip : Surface Float32 where
  positions := [0, 1, 2, 3, 4, 5].map fun x => ⟨x, 0, 0⟩
  faces := [⟨0, 1, 2⟩, ⟨1, 2, 3⟩, ⟨3, 4, 5⟩]

def mesh : SkinnedMesh where
  name := "arm"
  surface := strip
  material := "default"
  owners := [some 0, some 0, some 0, some 1, some 1, some 1]
  boneGroups := [(some 0, [0]), (some 1, [2])]
  spanningGroups := [((some 0, some 1), [1])]

def scene : Scene where
  skeleton
  library.materials := [{ name := "default" }]
  meshes := [mesh]

def settings : Settings where
  vertexCacheSize := 3
  maxIterations := 5
  includeCulling := true

/-- The arm, a mesh that does not exist, and the arm twice. -/
def requests : List UnitRequest := [⟨"arm", [0]⟩, ⟨"leg", [1]⟩, ⟨"arms", [0, 0]⟩]

theorem made : mesh.IsMade skeleton := by
  refine Or.inr ⟨.unskinned "arm" strip none "default", mesh.owners, [], ?_⟩
  rw [SkinnedMesh.withSkin?, if_pos (by decide), SkinnedMesh.withSkin]
  congr 2
  · exact List.mergeSort_of_pairwise (by decide)
  · have hgroups : groupsBy (fun i => strip.faces[i]?.bind fun face =>
        if (SkinnedMesh.faceOwner? mesh.owners face).isSome then none
        else some (SkinnedMesh.facePair skeleton mesh.owners face)) strip.faces.length =
        mesh.spanningGroups := by decide +kernel
    exact (congrArg (List.mergeSort · _) hgroups).trans (List.mergeSort_singleton _)

theorem wellFormed : ∀ mesh ∈ scene.meshes, mesh.WellFormed scene.skeleton := by
  intro mesh hmesh
  obtain rfl := List.mem_singleton.mp hmesh
  refine ⟨made, ?_⟩
  rintro vertex ⟨face, hface, hvertex⟩
  have hwithin : ∀ face ∈ strip.faces, ∀ vertex ∈ face.corners, vertex < 6 := by decide
  exact hwithin face hface vertex hvertex

end Arm

theorem Scene.renders_compileUnits_of_arm :
    ∃ e, Arm.scene.compileUnits Arm.settings Arm.requests = .ok e ∧ e.units.length = 2 ∧
      List.SublistForall₂ (fun unit request => unit.Renders Arm.scene Arm.settings request) e.units
        Arm.requests := by
  have hunits : (Arm.scene.compileUnits Arm.settings Arm.requests).toOption.map
      (·.units.length) = some 2 := by decide +kernel
  cases hexport : Arm.scene.compileUnits Arm.settings Arm.requests with
  | error refusal =>
    rw [hexport] at hunits
    simp [Except.toOption] at hunits
  | ok e =>
    rw [hexport] at hunits
    exact ⟨e, rfl, Option.some.inj hunits, (renders_compileUnits Arm.wellFormed hexport).1⟩

end SceneCompiler
