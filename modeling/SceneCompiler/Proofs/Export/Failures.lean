import SceneCompiler.Proofs.Export.Units
import SceneCompiler.Proofs.Unit.Failures

/-!
# Which units fail

An export fails as a whole just when its settings are refused. Otherwise every request is answered
once, by a unit or by a failure, and which of the two is told by the request alone
(`Scene.failure?`): a request fails for the first mesh that does not exist, or else for a face with a
corner whose bone is out of reach, if there is one. A run of faces always fits into the cache.
-/

namespace SceneCompiler

namespace Scene

/-- The first mesh of a request that does not exist. -/
def missing? (scene : Scene) (request : UnitRequest) : Option MeshId :=
  request.meshes.find? fun id => scene.meshes.length ≤ id

/-- Why a request fails, if it does. -/
def failure? (scene : Scene) (settings : Settings) (request : UnitRequest) : Option CompileError :=
  match scene.missing? request with
  | some id => some (.unknownMesh id)
  | none => (scene.orderedBatches settings request).findSome? (scene.batchFailure? settings)

def failures (scene : Scene) (settings : Settings) (requests : List UnitRequest) :
    List UnitFailure :=
  requests.filterMap fun request =>
    (scene.failure? settings request).map fun error => ⟨request.name, error⟩

/-- A bone that moves a corner of a face that a request draws. -/
def Moves (scene : Scene) (request : UnitRequest) (bone : Option BoneId) : Prop :=
  ∃ id ∈ request.meshes, ∃ mesh, scene.mesh id = .ok mesh ∧
    ∃ vertex, mesh.HasCorner vertex ∧ mesh.vertexBone vertex = bone

variable {scene : Scene} {settings : Settings}

/-! ### Meshes -/

theorem mesh_of_lt {id : MeshId} (h : id < scene.meshes.length) :
    ∃ mesh, scene.mesh id = .ok mesh := by
  refine ⟨scene.meshes[id], ?_⟩
  rw [Scene.mesh, List.getElem?_eq_getElem h]

theorem mesh_of_le {id : MeshId} (h : scene.meshes.length ≤ id) :
    scene.mesh id = .error (.unknownMesh id) := by
  rw [Scene.mesh, List.getElem?_eq_none h]

theorem failure_extractBatches (ids : List MeshId) :
    (scene.extractBatches settings ids).failure =
      (ids.find? fun id => scene.meshes.length ≤ id).map .unknownMesh := by
  induction ids with
  | nil => rfl
  | cons id rest ih =>
    by_cases hlt : id < scene.meshes.length
    · obtain ⟨mesh, hmesh⟩ := mesh_of_lt hlt
      rw [extractBatches, hmesh, List.find?_cons_of_neg (by simpa using hlt)]
      exact ih
    · rw [extractBatches, mesh_of_le (Nat.le_of_not_lt hlt),
        List.find?_cons_of_pos (by simpa using hlt)]
      rfl

theorem failure_extractBatches_eq_none_iff (settings : Settings) {request : UnitRequest} :
    (scene.extractBatches settings request.meshes).failure = none ↔
      scene.missing? request = none := by
  rw [failure_extractBatches, Option.map_eq_none_iff]
  rfl

theorem batchFailure?_prepared (batch : Batch) :
    (scene.prepared settings).batchFailure? settings batch = scene.batchFailure? settings batch := by
  unfold batchFailure? Scene.mesh
  congr 1
  funext id
  exact scene.prepared_cases settings id rfl fun _ _ => rfl

/-! ### Batches -/

/-- What a batch whose mesh exists fails for is the bone of a corner of one of its faces. -/
theorem exists_corner_of_batchFailure? {batch : Batch} {id : MeshId} {mesh : SkinnedMesh}
    (hid : batch.mesh = some id) (hmesh : scene.mesh id = .ok mesh) {error : CompileError}
    (h : scene.batchFailure? settings batch = some error) :
    ∃ face ∈ mesh.pairFaces batch.bones, ∃ vertex ∈ face.corners,
      scene.skeleton.overflow? settings.maxMatrixDepth (mesh.vertexBone vertex) = some error := by
  simp only [batchFailure?, hid, hmesh] at h
  obtain ⟨vertex, hvertex, herror⟩ := List.exists_of_findSome?_eq_some h
  obtain ⟨face, hface, hcorner⟩ := SkinnedMesh.mem_neededVertices.mp hvertex
  exact ⟨face, hface, vertex, hcorner, herror⟩

theorem depth_le_of_batchFailure? {batch : Batch} {id : MeshId} {mesh : SkinnedMesh}
    (hid : batch.mesh = some id) (hmesh : scene.mesh id = .ok mesh)
    (h : scene.batchFailure? settings batch = none) {face : Face}
    (hface : face ∈ mesh.pairFaces batch.bones) {vertex : Nat} (hvertex : vertex ∈ face.corners) :
    scene.skeleton.depth (mesh.vertexBone vertex) ≤ settings.maxMatrixDepth := by
  simp only [batchFailure?, hid, hmesh] at h
  have hneeded : vertex ∈ mesh.neededVertices settings.vertexCacheSize batch.bones :=
    SkinnedMesh.mem_neededVertices.mpr ⟨face, hface, hvertex⟩
  exact Skeleton.overflow?_eq_none_iff.mp (List.findSome?_eq_none_iff.mp h vertex hneeded)

theorem mem_batchFaces {batch : Batch} {face : MeshId × Face} :
    face ∈ scene.batchFaces batch ↔ batch.mesh = some face.1 ∧
      ∃ mesh, scene.mesh face.1 = .ok mesh ∧ face.2 ∈ mesh.pairFaces batch.bones := by
  obtain ⟨id, face⟩ := face
  unfold batchFaces
  cases hid : batch.mesh with
  | none => simp
  | some other =>
    constructor
    · intro h
      cases hmesh : scene.mesh other with
      | error failure => simp [hmesh] at h
      | ok mesh =>
        simp only [hmesh, List.mem_map] at h
        obtain ⟨found, hfound, hsame⟩ := h
        obtain ⟨rfl, rfl⟩ := Prod.mk.inj hsame
        exact ⟨rfl, mesh, hmesh, hfound⟩
    · rintro ⟨hsame, mesh, hmesh, hface⟩
      obtain rfl := Option.some.inj hsame
      simp only at hmesh
      simp only [hmesh]
      exact List.mem_map_of_mem hface

theorem mem_facesOf {id : MeshId} {face : MeshId × Face} :
    face ∈ scene.facesOf id ↔ face.1 = id ∧
      ∃ mesh, scene.mesh id = .ok mesh ∧ face.2 ∈ mesh.surface.faces := by
  obtain ⟨other, face⟩ := face
  unfold facesOf
  cases hmesh : scene.mesh id with
  | error failure => simp
  | ok mesh =>
    simp only [List.mem_map, Prod.mk.injEq, exists_eq_right_right, Except.ok.injEq,
      exists_eq_left']
    constructor
    · rintro ⟨hface, rfl⟩
      exact ⟨rfl, hface⟩
    · rintro ⟨rfl, hface⟩
      exact ⟨hface, rfl⟩

/-- The faces of the batches of a request are the faces of its meshes. -/
theorem mem_faces_orderedBatches (settings : Settings)
    (hmade : ∀ mesh ∈ scene.meshes, mesh.IsMade scene.skeleton)
    {request : UnitRequest} (hknown : scene.missing? request = none) {face : MeshId × Face} :
    (∃ batch ∈ scene.orderedBatches settings request, face ∈ scene.batchFaces batch) ↔
      ∃ id ∈ request.meshes, face ∈ scene.facesOf id := by
  have hfaces := (faces_extractBatches hmade
    ((failure_extractBatches_eq_none_iff settings).mpr hknown)).2
  have hordered : ((scene.orderedBatches settings request).flatMap scene.batchFaces).Perm
      (request.meshes.flatMap scene.facesOf) :=
    ((orderBatches_perm _ _ _ _ _).flatMap_right _).trans hfaces
  rw [← List.mem_flatMap, ← List.mem_flatMap]
  exact hordered.mem_iff

/-! ### Requests -/

/-- **Why a request fails.**  A request whose meshes exist fails if and only if a bone that is needed
is out of reach, and it fails for such a bone. -/
theorem failure?_of_known (settings : Settings)
    (hmade : ∀ mesh ∈ scene.meshes, mesh.IsMade scene.skeleton)
    {request : UnitRequest} (hknown : scene.missing? request = none) :
    (scene.failure? settings request = none ↔
        ∀ bone, scene.Moves request bone → scene.skeleton.depth bone ≤ settings.maxMatrixDepth) ∧
      ∀ error, scene.failure? settings request = some error →
        ∃ bone, scene.Moves request bone ∧
          scene.skeleton.overflow? settings.maxMatrixDepth bone = some error := by
  have hfailure : scene.failure? settings request =
      (scene.orderedBatches settings request).findSome? (scene.batchFailure? settings) := by
    rw [failure?, hknown]
  have hexists : ∀ error, scene.failure? settings request = some error →
      ∃ bone, scene.Moves request bone ∧
        scene.skeleton.overflow? settings.maxMatrixDepth bone = some error := by
    intro error herror
    rw [hfailure] at herror
    obtain ⟨batch, hbatch, herror⟩ := List.exists_of_findSome?_eq_some herror
    obtain ⟨id, mesh, hid, hmesh, _⟩ := mem_orderedBatches hbatch
    obtain ⟨face, hface, vertex, hvertex, hoverflow⟩ :=
      exists_corner_of_batchFailure? hid hmesh herror
    have hdrawn : (id, face) ∈ scene.batchFaces batch := mem_batchFaces.mpr ⟨hid, mesh, hmesh, hface⟩
    obtain ⟨listed, hlisted, hof⟩ :=
      (mem_faces_orderedBatches settings hmade hknown).mp ⟨batch, hbatch, hdrawn⟩
    obtain ⟨rfl, _⟩ := mem_facesOf.mp hof
    exact ⟨mesh.vertexBone vertex, ⟨_, hlisted, mesh, hmesh, vertex,
      ⟨face, SkinnedMesh.mem_of_mem_pairFaces hface, hvertex⟩, rfl⟩, hoverflow⟩
  refine ⟨⟨?_, ?_⟩, hexists⟩
  · rintro hnone bone ⟨id, hid, mesh, hmesh, vertex, ⟨face, hface, hvertex⟩, rfl⟩
    rw [hfailure, List.findSome?_eq_none_iff] at hnone
    have hof : (id, face) ∈ scene.facesOf id := mem_facesOf.mpr ⟨rfl, mesh, hmesh, hface⟩
    obtain ⟨batch, hbatch, hdrawn⟩ :=
      (mem_faces_orderedBatches settings hmade hknown).mpr ⟨id, hid, hof⟩
    obtain ⟨hbatchMesh, found, hfound, hin⟩ := mem_batchFaces.mp hdrawn
    obtain rfl := Except.ok.inj (hmesh.symm.trans hfound)
    exact depth_le_of_batchFailure? hbatchMesh hmesh (hnone batch hbatch) hin hvertex
  · intro hwithin
    cases herror : scene.failure? settings request with
    | none => rfl
    | some error =>
      obtain ⟨bone, hmoves, hoverflow⟩ := hexists error herror
      rw [Skeleton.overflow?_eq_none_iff.mpr (hwithin bone hmoves)] at hoverflow
      simp at hoverflow

theorem filter_failure?_known (requests : List UnitRequest) :
    (requests.filter fun request => (scene.missing? request).isNone).filter
        (fun request => (scene.failure? settings request).isNone) =
      requests.filter fun request => (scene.failure? settings request).isNone := by
  rw [List.filter_filter]
  refine List.filter_congr fun request _ => ?_
  unfold failure?
  cases scene.missing? request <;> simp

/-! ### Exports -/

theorem plan_of_missing {request : UnitRequest} {id : MeshId} (h : scene.missing? request = some id)
    (rest : List UnitRequest) :
    (scene.plan settings (request :: rest)).units = (scene.plan settings rest).units ∧
      (scene.plan settings (request :: rest)).failed =
        ⟨request.name, .unknownMesh id⟩ :: (scene.plan settings rest).failed := by
  have hfailure : (scene.extractBatches settings request.meshes).failure =
      some (.unknownMesh id) := by
    rw [failure_extractBatches, ← missing?, h, Option.map_some]
  simp only [plan, hfailure, and_self]

theorem plan_of_known {request : UnitRequest} (h : scene.missing? request = none)
    (rest : List UnitRequest) :
    (scene.plan settings (request :: rest)).units =
        ⟨request.name, scene.orderedBatches settings request⟩ ::
          (scene.plan settings rest).units ∧
      (scene.plan settings (request :: rest)).failed = (scene.plan settings rest).failed := by
  have hfailure := (failure_extractBatches_eq_none_iff settings).mpr h
  simp only [plan, hfailure, and_true]
  rfl

theorem units_plan (requests : List UnitRequest) :
    (scene.plan settings requests).units =
      (requests.filter fun request => (scene.missing? request).isNone).map fun request =>
        ⟨request.name, scene.orderedBatches settings request⟩ := by
  induction requests with
  | nil => rfl
  | cons request rest ih =>
    cases hmissing : scene.missing? request with
    | some id =>
      rw [(plan_of_missing hmissing rest).1, List.filter_cons_of_neg (by simp [hmissing])]
      exact ih
    | none =>
      rw [(plan_of_known hmissing rest).1, List.filter_cons_of_pos (by simp [hmissing]),
        List.map_cons, ih]

theorem failed_plan (requests : List UnitRequest) :
    (scene.plan settings requests).failed =
      scene.failures settings (requests.filter fun request => (scene.missing? request).isSome) := by
  induction requests with
  | nil => rfl
  | cons request rest ih =>
    cases hmissing : scene.missing? request with
    | some id =>
      have hfailure : scene.failure? settings request = some (.unknownMesh id) := by
        rw [failure?, hmissing]
      rw [(plan_of_missing hmissing rest).2, List.filter_cons_of_pos (by simp [hmissing]), ih,
        failures, failures, List.filterMap_cons, hfailure, Option.map_some]
    | none =>
      rw [(plan_of_known hmissing rest).2, List.filter_cons_of_neg (by simp [hmissing])]
      exact ih

theorem written_compileAll (hmeshes : ∀ mesh ∈ scene.meshes, mesh.WellFormed scene.skeleton)
    (haccepted : settings.error? = none) (uses : MaterialUses) {requests : List UnitRequest}
    (hknown : ∀ request ∈ requests, scene.missing? request = none) (nextBuffer : BufferId) :
    List.Forall₂ (fun unit request => CompiledUnit.Renders unit scene settings request)
        ((scene.exportContext settings uses).compileAll nextBuffer (requests.map fun request =>
          ⟨request.name, scene.orderedBatches settings request⟩)).units
        (requests.filter fun request => (scene.failure? settings request).isNone) ∧
      ((scene.exportContext settings uses).compileAll nextBuffer (requests.map fun request =>
          ⟨request.name, scene.orderedBatches settings request⟩)).failed =
        scene.failures settings requests := by
  obtain ⟨hcapacity, hsize⟩ := Settings.vertexCacheSize_of_accepted haccepted
  induction requests generalizing nextBuffer with
  | nil => exact ⟨.nil, rfl⟩
  | cons request rest ih =>
    have hlisted : scene.missing? request = none := hknown request List.mem_cons_self
    generalize houtcome : (scene.exportContext settings uses).compileUnit request.name
      (scene.orderedBatches settings request) nextBuffer = outcome
    obtain ⟨hunits, hfailed⟩ :=
      ih (fun other hother => hknown other (List.mem_cons_of_mem request hother)) outcome.nextBuffer
    have hfailure : outcome.failure? = scene.failure? settings request := by
      rw [← houtcome, ExportContext.failure?_compileUnit hcapacity, failure?, hlisted]
      · exact congrArg (List.findSome? · _) (funext batchFailure?_prepared)
      · intro batch hbatch id hid
        obtain ⟨other, mesh, hother, hmesh, _⟩ := mem_orderedBatches hbatch
        obtain rfl := Option.some.inj (hid.symm.trans hother)
        have hprepared : (scene.prepared settings).mesh id =
            (scene.mesh id).map (scene.prepare settings) := mesh_prepared_eq settings id
        rw [hmesh] at hprepared
        exact ⟨scene.prepare settings mesh, hprepared⟩
    have hrenders : ∀ unit, outcome.result = .ok unit → unit.Renders scene settings request := by
      intro unit hunit
      rw [← houtcome] at hunit
      exact CompiledUnit.renders_of_compileUnit hmeshes hsize
        ((failure_extractBatches_eq_none_iff settings).mpr hlisted) hunit
    rw [List.map_cons, ExportContext.compileAll, houtcome, List.filter_cons, failures,
      List.filterMap_cons, ← hfailure]
    unfold UnitOutcome.failure?
    cases hresult : outcome.result with
    | ok unit => exact ⟨.cons (hrenders unit hresult) hunits, hfailed⟩
    | error error => exact ⟨hunits, congrArg (List.cons _) hfailed⟩

/-- **Which units fail.**  An export is refused if and only if its settings are. Otherwise each request
that does not fail is answered by a unit, in the order of the requests, and the others are reported,
first those that list a mesh that does not exist; and whether a request fails, and how, is the same
in every export. A request fails for the first mesh that does not exist; or else exactly if a bone
that moves a corner of its faces has a longer chain than the matrix stack, and for such a bone. -/
theorem failures_compileUnits (hmeshes : ∀ mesh ∈ scene.meshes, mesh.WellFormed scene.skeleton)
    (settings : Settings) (requests : List UnitRequest) :
    (∀ refusal, scene.compileUnits settings requests = .error refusal ↔
        settings.error? = some refusal) ∧
      (∀ e, scene.compileUnits settings requests = .ok e →
        List.Forall₂ (fun unit request => unit.Renders scene settings request) e.units
            (requests.filter fun request => (scene.failure? settings request).isNone) ∧
          e.failedUnits =
            scene.failures settings
                (requests.filter fun request => (scene.missing? request).isSome) ++
              scene.failures settings
                (requests.filter fun request => (scene.missing? request).isNone)) ∧
      ∀ request,
        (∀ id, scene.missing? request = some id →
          scene.failure? settings request = some (.unknownMesh id)) ∧
        (scene.missing? request = none →
          (scene.failure? settings request = none ↔ ∀ bone, scene.Moves request bone →
              scene.skeleton.depth bone ≤ settings.maxMatrixDepth) ∧
            ∀ error, scene.failure? settings request = some error →
              ∃ bone, scene.Moves request bone ∧
                settings.maxMatrixDepth < scene.skeleton.depth bone ∧
                error = .matrixStackOverflow
                  ((scene.skeleton.pathFromRoot bone).map fun link =>
                    scene.skeleton.nameOf (some link)) settings.maxMatrixDepth) := by
  refine ⟨fun refusal => ?_, fun e h => ?_, fun request => ⟨fun id hid => ?_, fun hknown => ?_⟩⟩
  · unfold compileUnits
    cases settings.error? with
    | none => simp
    | some other => simp
  · unfold compileUnits at h
    split at h
    · simp at h
    · rename_i haccepted
      obtain rfl := Except.ok.inj h
      have hknown : ∀ request ∈ requests.filter fun request => (scene.missing? request).isNone,
          scene.missing? request = none := by
        intro request hrequest
        simpa using (List.mem_filter.mp hrequest).2
      obtain ⟨hunits, hfailed⟩ := written_compileAll hmeshes haccepted
        (.ofUnits ((scene.plan settings requests).units.map (·.batches))) hknown 0
      rw [← units_plan] at hunits hfailed
      rw [filter_failure?_known] at hunits
      refine ⟨hunits, ?_⟩
      rw [← failed_plan, ← hfailed]
  · rw [failure?, hid]
  · obtain ⟨hnone, hsome⟩ :=
      failure?_of_known settings (fun mesh hmesh => (hmeshes mesh hmesh).made) hknown
    refine ⟨hnone, fun error herror => ?_⟩
    obtain ⟨bone, hmoves, hoverflow⟩ := hsome error herror
    unfold Skeleton.overflow? at hoverflow
    split at hoverflow
    · rename_i hlong
      exact ⟨bone, hmoves, hlong, (Option.some.inj hoverflow).symm⟩
    · simp at hoverflow

end Scene

/-! ### A crowd

An arm that needs a deeper stack than there is, and a stone that needs none. -/

namespace Crowd

def stone : Surface Float32 where
  positions := [0, 1, 2].map fun x => ⟨x, 0, 0⟩
  faces := [⟨0, 1, 2⟩]

def scene : Scene :=
  { Arm.scene with meshes := [Arm.mesh, .unskinned "stone" stone none "default"] }

def settings : Settings where
  vertexCacheSize := 3
  maxMatrixDepth := 1
  maxIterations := 5
  includeCulling := true

/-- Of these only the second and the last can be drawn. -/
def requests : List UnitRequest :=
  [⟨"both", [1, 0]⟩, ⟨"stone", [1]⟩, ⟨"leg", [0, 7, 8]⟩, ⟨"arm", [0]⟩, ⟨"stones", [1, 1]⟩]

theorem wellFormed : ∀ mesh ∈ scene.meshes, mesh.WellFormed scene.skeleton := by
  intro mesh hmesh
  rcases List.mem_cons.mp hmesh with rfl | hmesh
  · exact Arm.wellFormed _ List.mem_cons_self
  · obtain rfl := List.mem_singleton.mp hmesh
    refine ⟨Or.inl ⟨_, _, _, _, rfl⟩, ?_⟩
    rintro vertex ⟨face, hface, hvertex⟩
    have hwithin : ∀ face ∈ stone.faces, ∀ vertex ∈ face.corners, vertex < 3 := by decide
    exact hwithin face hface vertex hvertex

end Crowd

theorem Scene.failures_compileUnits_of_crowd :
    (∀ mesh ∈ Crowd.scene.meshes, mesh.WellFormed Crowd.scene.skeleton) ∧
      ∃ e, Crowd.scene.compileUnits Crowd.settings Crowd.requests = .ok e ∧
        List.Forall₂ (fun unit name => unit.displayList.name = name) e.units ["stone", "stones"] ∧
        e.failedUnits.map (fun failed => (failed.name, failed.error)) =
          [("leg", .unknownMesh 7), ("both", .matrixStackOverflow ["upper", "lower"] 1),
            ("arm", .matrixStackOverflow ["upper", "lower"] 1)] := by
  refine ⟨Crowd.wellFormed, ?_⟩
  obtain ⟨hrefused, hanswered, _⟩ :=
    failures_compileUnits Crowd.wellFormed Crowd.settings Crowd.requests
  have haccepted : Crowd.settings.error?.isNone = true := by decide +kernel
  cases hexport : Crowd.scene.compileUnits Crowd.settings Crowd.requests with
  | error refusal => simp [(hrefused refusal).mp hexport] at haccepted
  | ok e =>
    obtain ⟨hunits, hfailed⟩ := hanswered e hexport
    have hnames : (Crowd.requests.filter fun request =>
        (Crowd.scene.failure? Crowd.settings request).isNone).map (·.name) =
          ["stone", "stones"] := by decide +kernel
    refine ⟨e, rfl, ?_, ?_⟩
    · rw [← hnames, List.forall₂_map_right_iff]
      exact hunits.imp fun unit request h => h.name
    · rw [hfailed]
      decide +kernel

end SceneCompiler
