import SceneCompiler.Proofs.Drawing.Frame
import SceneCompiler.Proofs.Drawing.Runs
import SceneCompiler.Proofs.Mesh.Groups

/-!
# What drawing a batch draws

On a processor that matches the pipeline, the commands of a batch draw the faces of its group, one
triangle each and in order, and every corner is the vertex that it should be, moved by the matrix of
its owner (`Canvas.draws_drawBatch`). This holds whatever the slots held before: a vertex that is not
loaded again is one that the cache tells of, and the processor agrees with the cache.

The vertices of a group are loaded under the chain of their owner, which fits on the stack.
-/

namespace SceneCompiler

/-- A vertex of a mesh as it stands in a slot, from a buffer. -/
def SkinnedMesh.vertexKey (mesh : SkinnedMesh) (buffer : BufferId) (vertex : Nat) : VertexKey where
  buffer
  index := vertex
  bone := mesh.vertexBone vertex

/-- A face of a mesh as it is drawn from a buffer. -/
def SkinnedMesh.drawnFace (mesh : SkinnedMesh) (buffer : BufferId) (face : Face) :
    DrawnTriangle where
  a := some (mesh.vertexKey buffer face.a)
  b := some (mesh.vertexKey buffer face.b)
  c := some (mesh.vertexKey buffer face.c)

def SkinnedMesh.HasCorner (mesh : SkinnedMesh) (vertex : Nat) : Prop :=
  ∃ face ∈ mesh.surface.faces, vertex ∈ face.corners

/-- The faces of a mesh that are drawn for a pair of bones. -/
def SkinnedMesh.pairFaces (mesh : SkinnedMesh) (pair : BonePair) : List Face :=
  (mesh.facesForPair pair).filterMap fun i => mesh.surface.faces[i]?

theorem SkinnedMesh.mem_of_mem_pairFaces {mesh : SkinnedMesh} {pair : BonePair} {face : Face}
    (h : face ∈ mesh.pairFaces pair) : face ∈ mesh.surface.faces := by
  obtain ⟨i, _, hi⟩ := List.mem_filterMap.mp h
  exact List.mem_of_getElem? hi

/-- A load of vertices of a mesh from a buffer. Each is a corner of a face and comes under exactly
the chain of its owner. -/
structure Canvas.Loads (canvas : Canvas) (mesh : SkinnedMesh) (buffer : BufferId)
    (load : VertexLoad) : Prop where
  buffer : load.buffer = buffer
  corners : ∀ k < load.count, mesh.HasCorner (load.offset + k)
  stack : ∀ k < load.count,
    load.stack = canvas.skeleton.pathFromRoot (mesh.vertexBone (load.offset + k))
  depth : load.stack.length ≤ canvas.limits.depth

/-- Commands that take a processor from one pipeline to another, on the way draw some triangles, and
load only as some condition allows. -/
def Pipeline.Draws (allowed : VertexLoad → Prop) (p : Pipeline) (commands : List Command)
    (triangles : List DrawnTriangle) (reached : Pipeline) : Prop :=
  ∀ proc : Processor, proc.Matches p → ∃ after loads, proc.run? commands = some after ∧
    after.Matches reached ∧ after.drawn = proc.drawn ++ triangles ∧
    after.loads = proc.loads ++ loads ∧ ∀ load ∈ loads, allowed load

namespace Pipeline.Draws

variable {allowed : VertexLoad → Prop} {p q r : Pipeline} {xs ys : List Command}
  {triangles others : List DrawnTriangle}

theorem nil (p : Pipeline) : p.Draws allowed [] [] p := by
  intro proc hproc
  exact ⟨proc, [], rfl, hproc, by simp, by simp, by simp⟩

theorem append (hpq : p.Draws allowed xs triangles q) (hqr : q.Draws allowed ys others r) :
    p.Draws allowed (xs ++ ys) (triangles ++ others) r := by
  intro proc hproc
  obtain ⟨middle, loads, hrun, hmatches, hdrawn, hloads, hallowed⟩ := hpq proc hproc
  obtain ⟨after, loads', hrun', hmatches', hdrawn', hloads', hallowed'⟩ := hqr middle hmatches
  refine ⟨after, loads ++ loads', ?_, hmatches', ?_, ?_, ?_⟩
  · rw [Processor.run?_append, hrun]
    exact hrun'
  · rw [hdrawn', hdrawn, List.append_assoc]
  · rw [hloads', hloads, List.append_assoc]
  · intro load hload
    rcases List.mem_append.mp hload with hload | hload
    · exact hallowed load hload
    · exact hallowed' load hload

end Pipeline.Draws

/-! ### Moves -/

theorem Skeleton.top?_pathFromRoot (s : Skeleton) (bone : Option BoneId) :
    BoneStack.top? (s.pathFromRoot bone) = bone := by
  unfold BoneStack.top? pathFromRoot
  rw [List.getLast?_reverse]
  cases bone with
  | none => rfl
  | some id => rw [ancestors_some, List.head?_cons]

theorem Pipeline.draws_moveTo {skeleton : Skeleton} {limits : StackLimits} {p : Pipeline}
    {target : Option BoneId} {allowed : VertexLoad → Prop}
    (h : (p.moveTo skeleton limits target).failure = none) :
    p.Draws allowed (p.moveTo skeleton limits target).commands []
      (p.moveTo skeleton limits target).state := by
  intro proc hproc
  obtain ⟨hstate, _, hcommands⟩ := moveTo_ok h
  have hslots : ∀ c ∈ (p.moveTo skeleton limits target).commands, c.usesSlots = false := by
    intro c hc
    rw [hcommands] at hc
    exact Command.usesSlots_of_move (BoneStack.mem_moves hc)
  refine ⟨{ proc with stack := skeleton.pathFromRoot target }, [], ?_, ?_, by simp, by simp, by simp⟩
  · rw [Processor.run?_of_not_usesSlots proc hslots, hcommands, hproc.stack, BoneStack.run?_moves]
    rfl
  · rw [hstate]
    exact ⟨rfl, hproc.slots⟩

namespace Canvas

variable {canvas : Canvas} {buffer : BufferId} {mesh : SkinnedMesh} {p : Pipeline}

/-! ### Loads -/

/-- A group of vertices of a mesh that one command can load. -/
structure LoadGroup (mesh : SkinnedMesh) (buffer : BufferId) (group : List (VertexKey × Nat)) :
    Prop where
  chain : group.IsChain fun x y => followsInLoad x y = true
  vertex : ∀ load ∈ group, load.1 = mesh.vertexKey buffer load.1.index
  corner : ∀ load ∈ group, mesh.HasCorner load.1.index

theorem cache_load {group : List (VertexKey × Nat)}
    (h : (canvas.load buffer p group).failure = none) :
    (canvas.load buffer p group).state.cache = p.cache.storeAll group := by
  cases group with
  | nil => rfl
  | cons first rest =>
    obtain ⟨hmove, _⟩ := Emission.andThen_failure h
    rw [load, Emission.andThen_state hmove, (Pipeline.moveTo_ok hmove).1]

/-- What the cache tells of a slot after a group is loaded: the vertex that has the slot's place in
the group, or what it told before. -/
theorem get?_after_group {cache : VertexCache} {first : VertexKey × Nat}
    {rest : List (VertexKey × Nat)}
    (hchain : (first :: rest).IsChain fun x y => followsInLoad x y = true)
    (hbuffer : ∀ load ∈ first :: rest, load.1.buffer = buffer) {slot : Nat} {key : VertexKey}
    (h : (cache.storeAll (first :: rest)).get? slot = some key) :
    if first.2 ≤ slot ∧ slot < first.2 + (first :: rest).length then
      key = ⟨buffer, first.1.index + (slot - first.2), first.1.bone⟩
    else cache.get? slot = some key := by
  have hslots := slots_of_contiguous hchain hbuffer
  split
  · rename_i hin
    have hlt : slot - first.2 < (first :: rest).length := by omega
    have hload := eq_of_contiguous hchain hbuffer (List.getElem?_eq_getElem hlt)
    have hmem := List.getElem_mem hlt
    rw [hload, Nat.add_sub_cancel' hin.1] at hmem
    have hcapacity := VertexCache.lt_of_get? h
    rw [VertexCache.capacity_storeAll] at hcapacity
    have hnodup : ((first :: rest).map Prod.snd).Nodup := by
      rw [hslots]
      exact List.nodup_range'
    have hstored := VertexCache.get?_storeAll_of_mem hnodup hmem hcapacity
    rw [hstored] at h
    exact (Option.some.inj h).symm
  · rename_i hout
    have hnot : slot ∉ (first :: rest).map Prod.snd := by
      rw [hslots, List.mem_range'_1]
      exact hout
    rw [← VertexCache.get?_storeAll_of_not_mem hnot]
    exact h

/-- Loading a group fills the slots of the processor as it fills those of the cache. -/
theorem draws_load {group : List (VertexKey × Nat)} (hgroup : LoadGroup mesh buffer group)
    (h : (canvas.load buffer p group).failure = none) :
    p.Draws (canvas.Loads mesh buffer) (canvas.load buffer p group).commands []
      (canvas.load buffer p group).state := by
  cases group with
  | nil => exact .nil p
  | cons first rest =>
    obtain ⟨hmove, _⟩ := Emission.andThen_failure h
    obtain ⟨hstate, hdepth, _⟩ := Pipeline.moveTo_ok hmove
    rw [load, Emission.andThen_commands hmove, Emission.andThen_state hmove]
    have hbuffer : ∀ load ∈ first :: rest, load.1.buffer = buffer := by
      intro load hload
      rw [hgroup.vertex load hload]
      rfl
    have hplace : ∀ (k : Nat) load, (first :: rest)[k]? = some load →
        load = (⟨buffer, first.1.index + k, first.1.bone⟩, first.2 + k) :=
      fun k load => eq_of_contiguous hgroup.chain hbuffer
    refine (Pipeline.draws_moveTo hmove).append ?_
    rw [hstate]
    intro proc hproc
    have htop : proc.stack.top? = first.1.bone := by
      rw [hproc.stack, Skeleton.top?_pathFromRoot]
    refine ⟨_, [_], rfl, ⟨hproc.stack, fun slot key hslot => ?_⟩, by simp, rfl, ?_⟩
    · have hafter := get?_after_group hgroup.chain hbuffer hslot
      simp only [Processor.fill, htop]
      split at hafter
      · rename_i hin
        rw [if_pos hin, hafter]
      · rename_i hout
        rw [if_neg hout]
        exact hproc.slots slot key hafter
    · intro load hload
      obtain rfl := List.mem_singleton.mp hload
      constructor
      · rfl
      · intro k hk
        have hk' : k < (first :: rest).length := hk
        have hcorner := hgroup.corner _ (List.getElem_mem hk')
        rw [hplace _ _ (List.getElem?_eq_getElem hk')] at hcorner
        exact hcorner
      · intro k hk
        have hk' : k < (first :: rest).length := hk
        have hvertex := hgroup.vertex _ (List.getElem_mem hk')
        rw [hplace _ _ (List.getElem?_eq_getElem hk')] at hvertex
        have hbone : first.1.bone = mesh.vertexBone (first.1.index + k) :=
          congrArg VertexKey.bone hvertex
        rw [← hbone]
        exact hproc.stack
      · rw [hproc.stack]
        exact hdepth

theorem draws_loads {groups : List (List (VertexKey × Nat))}
    (hgroups : ∀ group ∈ groups, LoadGroup mesh buffer group)
    (h : (Emission.forEach (canvas.load buffer) p groups).failure = none) :
    (Emission.forEach (canvas.load buffer) p groups).state.cache =
        p.cache.storeAll groups.flatten ∧
      p.Draws (canvas.Loads mesh buffer)
        (Emission.forEach (canvas.load buffer) p groups).commands []
        (Emission.forEach (canvas.load buffer) p groups).state := by
  revert hgroups
  refine Emission.forEach_induction
    (R := fun p groups commands reached => (∀ group ∈ groups, LoadGroup mesh buffer group) →
      reached.cache = p.cache.storeAll groups.flatten ∧
        p.Draws (canvas.Loads mesh buffer) commands [] reached) ?_ ?_ h
  · exact fun p _ => ⟨rfl, .nil p⟩
  · intro p group rest commands reached hfirst hrest hgroups
    obtain ⟨hcache, hdraws⟩ := hrest fun g hg => hgroups g (List.mem_cons_of_mem group hg)
    refine ⟨?_, ?_⟩
    · rw [hcache, cache_load hfirst, List.flatten_cons, VertexCache.storeAll_append]
    · exact (draws_load (hgroups group List.mem_cons_self) hfirst).append hdraws

/-! ### Triangles -/

theorem run?_drawPairs (triangles : List SlotTriangle) (proc : Processor) :
    proc.run? (drawPairs triangles) =
      some { proc with drawn := proc.drawn ++ triangles.map proc.read } := by
  induction triangles using drawPairs.induct generalizing proc with
  | case1 => simp [drawPairs]
  | case2 single => rfl
  | case3 first second rest ih =>
    rw [drawPairs, Processor.run?_cons, Processor.step?, Option.bind_some, ih]
    simp only [List.append_assoc]
    rfl

theorem run?_map_triangle (triangles : List SlotTriangle) (proc : Processor) :
    proc.run? (triangles.map .triangle) =
      some { proc with drawn := proc.drawn ++ triangles.map proc.read } := by
  induction triangles generalizing proc with
  | nil => simp
  | cons first rest ih =>
    rw [List.map_cons, Processor.run?_cons, Processor.step?, Option.bind_some, ih]
    simp only [List.append_assoc]
    rfl

/-- Triangles are read from the slots, whether they are drawn two by two or not. -/
theorem draws_draw (canvas : Canvas) {allowed : VertexLoad → Prop} (p : Pipeline)
    (triangles : List SlotTriangle) {drawn : List DrawnTriangle}
    (h : ∀ proc : Processor, proc.Matches p → triangles.map proc.read = drawn) :
    p.Draws allowed (canvas.draw triangles) drawn p := by
  intro proc hproc
  refine ⟨{ proc with drawn := proc.drawn ++ triangles.map proc.read }, [], ?_,
    ⟨hproc.stack, hproc.slots⟩, by rw [h proc hproc], by simp, by simp⟩
  unfold draw
  split
  · exact run?_drawPairs triangles proc
  · exact run?_map_triangle triangles proc

/-! ### Runs -/

/-- After what is pending has been loaded, every vertex of a run is in its slot. -/
theorem get?_after_pending {cache : VertexCache} {keys : List VertexKey} {slots : List Nat}
    (hlength : slots.length = keys.length) (hnodup : slots.Nodup)
    (hlt : ∀ slot ∈ slots, slot < cache.capacity) {key : VertexKey} {slot : Nat}
    (h : (key, slot) ∈ keys.zip slots) :
    (cache.storeAll ((keys.zip slots).filter fun load =>
      !cache.isResident load.2 load.1)).get? slot = some key := by
  have hsnd : (keys.zip slots).map Prod.snd = slots := List.map_snd_zip (by omega)
  have hslots : ((keys.zip slots).map Prod.snd).Nodup := by
    rw [hsnd]
    exact hnodup
  have hslot : slot ∈ slots := by
    rw [← hsnd]
    exact List.mem_map_of_mem h
  by_cases hresident : cache.isResident slot key = true
  · -- the vertex stays where it is, and nothing else is loaded there
    have hnot : slot ∉ ((keys.zip slots).filter fun load =>
        !cache.isResident load.2 load.1).map Prod.snd := by
      intro hmem
      obtain ⟨⟨other, same⟩, hpending, rfl⟩ := List.mem_map.mp hmem
      obtain ⟨hin, hnotResident⟩ := List.mem_filter.mp hpending
      obtain ⟨rfl, _⟩ := Prod.mk.inj (List.inj_on_of_nodup_map hslots hin h rfl)
      rw [hresident] at hnotResident
      simp at hnotResident
    rw [VertexCache.get?_storeAll_of_not_mem hnot]
    simpa [VertexCache.isResident] using hresident
  · have hpending : (key, slot) ∈ (keys.zip slots).filter fun load =>
        !cache.isResident load.2 load.1 := List.mem_filter.mpr ⟨h, by simpa using hresident⟩
    have hpendingNodup : (((keys.zip slots).filter fun load =>
        !cache.isResident load.2 load.1).map Prod.snd).Nodup :=
      hslots.sublist (List.filter_sublist.map Prod.snd)
    exact VertexCache.get?_storeAll_of_mem hpendingNodup hpending (hlt slot hslot)

theorem slots_corner {proc : Processor} (hproc : proc.Matches p) (hcapacity : p.cache.capacity ≤ 256)
    {vertices slots : List Nat} (hvertices : vertices.Nodup)
    (hlength : slots.length = vertices.length) (hlt : ∀ slot ∈ slots, slot < p.cache.capacity)
    (hstored : ∀ key slot, (key, slot) ∈ (vertices.map (mesh.vertexKey buffer)).zip slots →
      p.cache.get? slot = some key) {vertex : Nat} (h : vertex ∈ vertices) :
    proc.slots (UInt8.ofNat (((vertices.zip slots).lookup vertex).getD 0)).toNat =
      some (mesh.vertexKey buffer vertex) := by
  have hfst : (vertices.zip slots).map Prod.fst = vertices := List.map_fst_zip (by omega)
  have hmem : vertex ∈ (vertices.zip slots).map Prod.fst := by
    rw [hfst]
    exact h
  obtain ⟨⟨same, slot⟩, hpair, rfl⟩ := List.mem_map.mp hmem
  have hlookup : (vertices.zip slots).lookup same = some slot :=
    lookup_of_mem (by rw [hfst]; exact hvertices) hpair
  have hslot := hlt slot (List.of_mem_zip hpair).2
  have hkey : (mesh.vertexKey buffer same, slot) ∈
      (vertices.map (mesh.vertexKey buffer)).zip slots := by
    rw [List.zip_map_left]
    exact List.mem_map.mpr ⟨(same, slot), hpair, rfl⟩
  have hbyte : (UInt8.ofNat slot).toNat = slot := by
    rw [UInt8.toNat_ofNat']
    exact Nat.mod_eq_of_lt (by omega)
  simp only [hlookup, Option.getD_some, hbyte]
  exact hproc.slots slot _ (hstored _ _ hkey)

/-- Vertices with corners in faces are loaded in groups. -/
theorem loadGroup_of_mem {vertices slots : List Nat} {pending group : List (VertexKey × Nat)}
    (hcorner : ∀ vertex ∈ vertices, mesh.HasCorner vertex)
    (hpending : ∀ load ∈ pending, load ∈ (vertices.map (mesh.vertexKey buffer)).zip slots)
    (hgroup : group ∈ contiguousLoads pending) : LoadGroup mesh buffer group := by
  have hload : ∀ load ∈ group, ∃ vertex ∈ vertices, mesh.vertexKey buffer vertex = load.1 := by
    intro load hload
    have hmem : load ∈ pending := by
      rw [← flatten_contiguousLoads pending]
      exact List.mem_flatten_of_mem hgroup hload
    exact List.mem_map.mp (List.of_mem_zip (hpending load hmem)).1
  constructor
  · exact chain_contiguousLoads hgroup
  · intro load hmem
    obtain ⟨vertex, _, hkey⟩ := hload load hmem
    rw [← hkey]
    rfl
  · intro load hmem
    obtain ⟨vertex, hvertex, hkey⟩ := hload load hmem
    rw [← hkey]
    exact hcorner vertex hvertex

/-- What drawing a run does: slots are assigned, what is pending is loaded, and the faces are
drawn. -/
theorem drawRun_ok {bone : Option BoneId} {run : Run}
    (h : (canvas.drawRun mesh bone buffer p run).failure = none) :
    ∃ slots pending,
      p.cache.assign ((run.loadOrder mesh bone).map (mesh.vertexKey buffer)) = .ok slots ∧
      pending = (((run.loadOrder mesh bone).map (mesh.vertexKey buffer)).zip slots).filter
        (fun load => !p.cache.isResident load.2 load.1) ∧
      (Emission.forEach (canvas.load buffer) p (contiguousLoads pending)).failure = none ∧
      (canvas.drawRun mesh bone buffer p run).state =
        (Emission.forEach (canvas.load buffer) p (contiguousLoads pending)).state ∧
      (canvas.drawRun mesh bone buffer p run).commands =
        (Emission.forEach (canvas.load buffer) p (contiguousLoads pending)).commands ++
          canvas.draw (run.faces.map (slotTriangle ((run.loadOrder mesh bone).zip slots))) := by
  unfold drawRun at h ⊢
  dsimp only at h ⊢
  split at h
  · simp at h
  · rename_i slots hassign
    obtain ⟨hloads, _⟩ := Emission.andThen_failure h
    exact ⟨slots, _, hassign, rfl, hloads, Emission.andThen_state hloads,
      Emission.andThen_commands hloads⟩

/-- **A run draws its faces.** -/
theorem draws_drawRun {bone : Option BoneId} {run : Run} (hrun : run.Closed)
    (hfaces : ∀ face ∈ run.faces, face ∈ mesh.surface.faces) (hcapacity : p.cache.capacity ≤ 256)
    (h : (canvas.drawRun mesh bone buffer p run).failure = none) :
    (canvas.drawRun mesh bone buffer p run).state.cache.capacity = p.cache.capacity ∧
      p.Draws (canvas.Loads mesh buffer) (canvas.drawRun mesh bone buffer p run).commands
        (run.faces.map (mesh.drawnFace buffer)) (canvas.drawRun mesh bone buffer p run).state := by
  obtain ⟨slots, pending, hassign, hpending, hloads, hstate, hcommands⟩ := drawRun_ok h
  have hvertices := hrun.nodup_loadOrder mesh bone
  have hcorner : ∀ vertex, vertex ∈ run.loadOrder mesh bone ↔
      ∃ face ∈ run.faces, vertex ∈ face.corners := fun vertex =>
    (Run.loadOrder_perm run mesh bone).mem_iff.trans (hrun.vertices vertex)
  rw [hstate, hcommands]
  generalize run.loadOrder mesh bone = vertices at hassign hpending hvertices hcorner ⊢
  have hkeys : (vertices.map (mesh.vertexKey buffer)).Nodup :=
    hvertices.map fun _ _ hsame => congrArg VertexKey.index hsame
  obtain ⟨hlength, hslots, hlt⟩ := VertexCache.assign_ok hkeys hassign
  have hmesh : ∀ vertex ∈ vertices, mesh.HasCorner vertex := by
    intro vertex hvertex
    obtain ⟨face, hface, hmem⟩ := (hcorner vertex).mp hvertex
    exact ⟨face, hfaces face hface, hmem⟩
  have hpairs : ∀ load ∈ pending, load ∈ (vertices.map (mesh.vertexKey buffer)).zip slots := by
    intro load hload
    rw [hpending] at hload
    exact (List.mem_filter.mp hload).1
  have hgroups : ∀ group ∈ contiguousLoads pending, LoadGroup mesh buffer group :=
    fun group hgroup => loadGroup_of_mem hmesh hpairs hgroup
  obtain ⟨hcache, hdraws⟩ := draws_loads hgroups hloads
  rw [flatten_contiguousLoads] at hcache
  generalize Emission.forEach (canvas.load buffer) p (contiguousLoads pending) = loaded
    at hcache hdraws ⊢
  have hafter : loaded.state.cache.capacity = p.cache.capacity := by
    rw [hcache, VertexCache.capacity_storeAll]
  refine ⟨hafter, ?_⟩
  refine hdraws.append (draws_draw canvas _ (run.faces.map (slotTriangle (vertices.zip slots)))
    fun proc hproc => ?_)
  have hread : ∀ face ∈ run.faces, ∀ vertex ∈ face.corners,
      proc.slots (UInt8.ofNat (((vertices.zip slots).lookup vertex).getD 0)).toNat =
        some (mesh.vertexKey buffer vertex) := by
    intro face hface vertex hvertex
    refine slots_corner hproc (by omega) hvertices (by simpa using hlength)
      (fun slot hslot => by rw [hafter]; exact hlt slot hslot) ?_ ((hcorner vertex).mpr ⟨face, hface, hvertex⟩)
    intro key slot hpair
    rw [hcache, hpending]
    exact get?_after_pending hlength hslots hlt hpair
  rw [List.map_map]
  refine List.map_congr_left fun face hface => ?_
  have hface' := hread face hface
  simp only [Face.corners, List.mem_cons, List.not_mem_nil, or_false, forall_eq_or_imp,
    forall_eq] at hface'
  obtain ⟨ha, hb, hc⟩ := hface'
  simp only [Function.comp_apply, slotTriangle, Processor.read, SkinnedMesh.drawnFace, ha, hb, hc]

/-! ### Batches -/

/-- **A batch draws the faces of its group**, in their order. -/
theorem draws_drawBatch {pair : BonePair} (hcapacity : p.cache.capacity ≤ 256)
    (h : (canvas.drawBatch mesh pair buffer p).failure = none) :
    (canvas.drawBatch mesh pair buffer p).state.cache.capacity = p.cache.capacity ∧
      p.Draws (canvas.Loads mesh buffer) (canvas.drawBatch mesh pair buffer p).commands
        ((mesh.pairFaces pair).map (mesh.drawnFace buffer))
        (canvas.drawBatch mesh pair buffer p).state := by
  have hfaces := Run.flatMap_pack p.cache.capacity {} (mesh.pairFaces pair)
  have hknown : ∀ run ∈ Run.pack p.cache.capacity {} (mesh.pairFaces pair),
      run.Closed ∧ ∀ face ∈ run.faces, face ∈ mesh.surface.faces := by
    intro run hrun
    refine ⟨Run.pack_closed Run.closed_empty _ run hrun, fun face hface => ?_⟩
    have hmem := List.mem_flatMap_of_mem hrun hface
    rw [hfaces] at hmem
    exact SkinnedMesh.mem_of_mem_pairFaces hmem
  have hruns := Emission.forEach_induction
    (R := fun p runs commands reached => p.cache.capacity ≤ 256 →
      (∀ run ∈ runs, run.Closed ∧ ∀ face ∈ run.faces, face ∈ mesh.surface.faces) →
        reached.cache.capacity = p.cache.capacity ∧
          p.Draws (canvas.Loads mesh buffer) commands
            ((runs.flatMap Run.faces).map (mesh.drawnFace buffer)) reached) ?_ ?_ h
  · rw [← List.nil_append (mesh.pairFaces pair), ← hfaces]
    exact hruns hcapacity hknown
  · exact fun p _ _ => ⟨rfl, .nil p⟩
  · intro p run rest commands reached hfirst hrest hcapacity hknown
    obtain ⟨hclosed, hfaces⟩ := hknown run List.mem_cons_self
    obtain ⟨hsame, hdraws⟩ := draws_drawRun hclosed hfaces hcapacity hfirst
    obtain ⟨hcapacity', hdraws'⟩ := hrest (by omega)
      fun other hother => hknown other (List.mem_cons_of_mem run hother)
    refine ⟨by omega, ?_⟩
    rw [List.flatMap_cons, List.map_append]
    exact hdraws.append hdraws'

end Canvas

end SceneCompiler
