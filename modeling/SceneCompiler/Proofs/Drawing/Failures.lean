import SceneCompiler.Proofs.Drawing.Geometry

/-!
# When drawing fails

Only the matrix stack can be too small for a batch: runs are made to fit into the cache, which holds
a face at least (`Run.length_pack`). A bone whose chain is longer than the stack is refused when
its first vertex is to be loaded. It must be loaded then, since none of its vertices was loaded
before; so whether a batch fails, and at which bone, is told by the vertices of its runs in the
order in which they are needed, whatever was drawn before (`Canvas.failure_drawBatch`).
-/

namespace SceneCompiler

/-! ### The first failure of many -/

theorem findSome?_flatMap {α β γ : Type} (f : α → List β) (g : β → Option γ) (xs : List α) :
    (xs.flatMap f).findSome? g = xs.findSome? fun x => (f x).findSome? g := by
  induction xs with
  | nil => rfl
  | cons x rest ih =>
    rw [List.flatMap_cons, List.findSome?_append, List.findSome?_cons, ih]
    cases (f x).findSome? g <;> rfl

theorem findSome?_flatten {α β : Type} (f : α → Option β) (xss : List (List α)) :
    xss.flatten.findSome? f = xss.findSome? fun xs => xs.findSome? f := by
  rw [← List.flatMap_id, findSome?_flatMap]
  rfl

theorem findSome?_filter {α β : Type} {f : α → Option β} {keep : α → Bool} {xs : List α}
    (h : ∀ x ∈ xs, keep x = false → f x = none) : (xs.filter keep).findSome? f = xs.findSome? f := by
  induction xs with
  | nil => rfl
  | cons x rest ih =>
    have hrest := ih fun y hy => h y (List.mem_cons_of_mem x hy)
    rw [List.filter_cons]
    split
    · rw [List.findSome?_cons, List.findSome?_cons, hrest]
    · rename_i hout
      rw [hrest, List.findSome?_cons, h x List.mem_cons_self (by simpa using hout)]

namespace Emission

variable {σ α : Type}

theorem failure_andThen (first : Emission σ) (next : σ → Emission σ) :
    (first.andThen next).failure = first.failure.or (next first.state).failure := by
  unfold andThen
  cases hfirst : first.failure with
  | some failure => simp [hfirst]
  | none => rfl

/-- If each emission fails as its element tells, in every state of some kind, and otherwise leads to
such a state again, then the first element that tells of a failure decides. -/
theorem failure_forEach {emit : σ → α → Emission σ} {refusal? : α → Option CompileError}
    {I : σ → Prop} {list : List α}
    (hfails : ∀ s, I s → ∀ a ∈ list, (emit s a).failure = refusal? a)
    (hkeeps : ∀ s, I s → ∀ a ∈ list, (emit s a).failure = none → I (emit s a).state) {s : σ}
    (hs : I s) :
    (forEach emit s list).failure = list.findSome? refusal? ∧
      ((forEach emit s list).failure = none → I (forEach emit s list).state) := by
  induction list generalizing s with
  | nil => exact ⟨rfl, fun _ => hs⟩
  | cons a rest ih =>
    have hfirst := hfails s hs a List.mem_cons_self
    rw [forEach, failure_andThen, List.findSome?_cons, ← hfirst]
    cases hfailure : (emit s a).failure with
    | some failure => simp
    | none =>
      obtain ⟨hrest, hend⟩ := ih (fun t ht b hb => hfails t ht b (List.mem_cons_of_mem a hb))
        (fun t ht b hb => hkeeps t ht b (List.mem_cons_of_mem a hb))
        (hkeeps s hs a List.mem_cons_self hfailure)
      rw [andThen_state hfailure]
      exact ⟨hrest, hend⟩

end Emission

/-! ### Chains -/

theorem Skeleton.length_pathFromRoot (s : Skeleton) (bone : Option BoneId) :
    (s.pathFromRoot bone).length = s.depth bone := List.length_reverse

/-- Why a bone cannot be brought onto a stack, if its chain is too long. -/
def Skeleton.overflow? (s : Skeleton) (limit : Nat) (bone : Option BoneId) : Option CompileError :=
  if limit < s.depth bone then
    some (.matrixStackOverflow ((s.pathFromRoot bone).map fun link => s.nameOf (some link)) limit)
  else none

theorem Skeleton.overflow?_eq_none_iff {s : Skeleton} {limit : Nat} {bone : Option BoneId} :
    s.overflow? limit bone = none ↔ s.depth bone ≤ limit := by
  simp [overflow?]

theorem Pipeline.failure_moveTo (skeleton : Skeleton) (limits : StackLimits) (p : Pipeline)
    (target : Option BoneId) :
    (p.moveTo skeleton limits target).failure = skeleton.overflow? limits.depth target := by
  simp only [moveTo, BoneStack.moveTo, Skeleton.overflow?, Skeleton.length_pathFromRoot]
  by_cases hlong : limits.depth < skeleton.depth target <;> simp [hlong]

/-! ### Runs -/

theorem length_insertAscending (n : Nat) (list : List Nat) :
    (insertAscending n list).length ≤ list.length + 1 := by
  induction list with
  | nil => simp [insertAscending]
  | cons first rest ih =>
    unfold insertAscending
    split
    · simp
    · split
      · simp
      · simpa using ih

namespace Run

theorem length_add_empty (face : Face) : (add {} face).vertices.length ≤ 3 := by
  have ha := length_insertAscending face.a []
  have hb := length_insertAscending face.b (insertAscending face.a [])
  have hc := length_insertAscending face.c (insertAscending face.b (insertAscending face.a []))
  simp only [List.length_nil] at ha
  simp only [add, Face.corners, List.foldl_cons, List.foldl_nil]
  omega

/-- **Runs fit into the cache** if a face does. -/
theorem length_pack {capacity : Nat} (hcapacity : 3 ≤ capacity) {current : Run}
    (hcurrent : current.vertices.length ≤ capacity) (hempty : current.faces = [] → current = {})
    (faces : List Face) : ∀ run ∈ pack capacity current faces, run.vertices.length ≤ capacity := by
  induction faces generalizing current with
  | nil =>
    intro run hrun
    unfold pack at hrun
    split at hrun
    · simp at hrun
    · obtain rfl := List.mem_singleton.mp hrun
      exact hcurrent
  | cons face rest ih =>
    have hnew : ∀ start : Run, (start.add face).faces = [] → start.add face = {} := by
      intro start hnone
      simp [add] at hnone
    have hsingle := Nat.le_trans (length_add_empty face) hcapacity
    intro run hrun
    unfold pack at hrun
    dsimp only at hrun
    split at hrun
    · rename_i hjoins
      refine ih ?_ (hnew current) run hrun
      simp only [Bool.or_eq_true, List.isEmpty_iff, decide_eq_true_eq] at hjoins
      rcases hjoins with hnone | hfits
      · rw [hempty hnone]
        exact hsingle
      · exact hfits
    · rcases List.mem_cons.mp hrun with rfl | hrun
      · exact hcurrent
      · exact ih hsingle (hnew {}) run hrun

end Run

/-! ### The cache -/

theorem VertexCache.exists_assign {c : VertexCache} {keys : List VertexKey}
    (h : keys.length ≤ c.capacity) : ∃ slots, c.assign keys = .ok slots :=
  ⟨_, if_neg (Nat.not_lt_of_le h)⟩

theorem VertexCache.get?_storeAll_eq_some {c : VertexCache} {loads : List (VertexKey × Nat)}
    {slot : Nat} {key : VertexKey} (h : (c.storeAll loads).get? slot = some key) :
    key ∈ loads.map Prod.fst ∨ c.get? slot = some key := by
  induction loads generalizing c with
  | nil => exact Or.inr h
  | cons load rest ih =>
    rcases ih h with hmem | hstored
    · exact Or.inl (List.mem_cons_of_mem load.1 hmem)
    · by_cases hslot : load.2 = slot
      · have hlt := lt_of_get? hstored
        rw [capacity_store] at hlt
        rw [← hslot] at hstored hlt
        rw [get?_store_self hlt] at hstored
        obtain rfl := Option.some.inj hstored
        exact Or.inl List.mem_cons_self
      · rw [get?_store_of_ne hslot] at hstored
        exact Or.inr hstored

/-- A cache that holds vertices of bones within reach only. -/
def VertexCache.WithinReach (c : VertexCache) (skeleton : Skeleton) (limit : Nat) : Prop :=
  ∀ slot key, c.get? slot = some key → skeleton.depth key.bone ≤ limit

theorem VertexCache.WithinReach.storeAll {c : VertexCache} {skeleton : Skeleton} {limit : Nat}
    (h : c.WithinReach skeleton limit) {loads : List (VertexKey × Nat)}
    (hloads : ∀ load ∈ loads, skeleton.depth load.1.bone ≤ limit) :
    (c.storeAll loads).WithinReach skeleton limit := by
  intro slot key hslot
  rcases get?_storeAll_eq_some hslot with hmem | hheld
  · obtain ⟨load, hload, rfl⟩ := List.mem_map.mp hmem
    exact hloads load hload
  · exact h slot key hheld

/-- The vertices of a group in the order in which they are needed, run by run. -/
def SkinnedMesh.neededVertices (mesh : SkinnedMesh) (capacity : Nat) (pair : BonePair) : List Nat :=
  (Run.pack capacity {} (mesh.pairFaces pair)).flatMap fun run => run.loadOrder mesh pair.1

theorem SkinnedMesh.mem_neededVertices {mesh : SkinnedMesh} {capacity : Nat} {pair : BonePair}
    {vertex : Nat} : vertex ∈ mesh.neededVertices capacity pair ↔
      ∃ face ∈ mesh.pairFaces pair, vertex ∈ face.corners := by
  have hfaces := Run.flatMap_pack capacity {} (mesh.pairFaces pair)
  have hcorner : ∀ run ∈ Run.pack capacity {} (mesh.pairFaces pair),
      (vertex ∈ run.loadOrder mesh pair.1 ↔ ∃ face ∈ run.faces, vertex ∈ face.corners) := by
    intro run hrun
    exact (Run.loadOrder_perm run mesh pair.1).mem_iff.trans
      ((Run.pack_closed Run.closed_empty _ run hrun).vertices vertex)
  rw [List.nil_append] at hfaces
  rw [neededVertices, List.mem_flatMap]
  constructor
  · rintro ⟨run, hrun, hvertex⟩
    obtain ⟨face, hface, hmem⟩ := (hcorner run hrun).mp hvertex
    refine ⟨face, ?_, hmem⟩
    rw [← hfaces]
    exact List.mem_flatMap_of_mem hrun hface
  · rintro ⟨face, hface, hmem⟩
    rw [← hfaces] at hface
    obtain ⟨run, hrun, hface⟩ := List.mem_flatMap.mp hface
    exact ⟨run, hrun, (hcorner run hrun).mpr ⟨face, hface, hmem⟩⟩

namespace Canvas

variable {canvas : Canvas} {buffer : BufferId} {mesh : SkinnedMesh} {p : Pipeline}

/-! ### Loads -/

theorem bone_of_contiguous {first : VertexKey × Nat} {rest : List (VertexKey × Nat)}
    (hchain : (first :: rest).IsChain fun x y => followsInLoad x y = true) :
    ∀ load ∈ first :: rest, load.1.bone = first.1.bone := by
  induction rest generalizing first with
  | nil => simp
  | cons second rest ih =>
    obtain ⟨hfollows, htail⟩ := List.isChain_cons_cons.mp hchain
    obtain ⟨_, _, hbone⟩ := followsInLoad_iff.mp hfollows
    intro load hload
    rcases List.mem_cons.mp hload with rfl | hload
    · rfl
    · rw [ih htail load hload, hbone]

theorem failure_load {group : List (VertexKey × Nat)}
    (hchain : group.IsChain fun x y => followsInLoad x y = true) :
    (canvas.load buffer p group).failure =
      group.findSome? fun load => canvas.skeleton.overflow? canvas.limits.depth load.1.bone := by
  cases group with
  | nil => rfl
  | cons first rest =>
    have hbones := bone_of_contiguous hchain
    rw [load, Emission.failure_andThen, Pipeline.failure_moveTo, Option.or_none,
      List.findSome?_cons]
    cases hfirst : canvas.skeleton.overflow? canvas.limits.depth first.1.bone with
    | some failure => rfl
    | none =>
      refine (List.findSome?_eq_none_iff.mpr fun load hload => ?_).symm
      rw [hbones load (List.mem_cons_of_mem first hload)]
      exact hfirst

/-- A cache of a capacity that holds vertices of bones within reach only. -/
def Reaches (canvas : Canvas) (capacity : Nat) (p : Pipeline) : Prop :=
  p.cache.WithinReach canvas.skeleton canvas.limits.depth ∧ p.cache.capacity = capacity

theorem Reaches.load {capacity : Nat} (h : canvas.Reaches capacity p)
    {group : List (VertexKey × Nat)}
    (hchain : group.IsChain fun x y => followsInLoad x y = true)
    (hdone : (canvas.load buffer p group).failure = none) :
    canvas.Reaches capacity (canvas.load buffer p group).state := by
  have hcache := cache_load hdone
  rw [failure_load hchain, List.findSome?_eq_none_iff] at hdone
  constructor
  · rw [hcache]
    exact h.1.storeAll fun load hload => Skeleton.overflow?_eq_none_iff.mp (hdone load hload)
  · rw [hcache, VertexCache.capacity_storeAll]
    exact h.2

theorem failure_loads (buffer : BufferId) {capacity : Nat} (h : canvas.Reaches capacity p)
    (pending : List (VertexKey × Nat)) :
    (Emission.forEach (canvas.load buffer) p (contiguousLoads pending)).failure =
        pending.findSome? (fun load =>
          canvas.skeleton.overflow? canvas.limits.depth load.1.bone) ∧
      ((Emission.forEach (canvas.load buffer) p (contiguousLoads pending)).failure = none →
        canvas.Reaches capacity
          (Emission.forEach (canvas.load buffer) p (contiguousLoads pending)).state) := by
  have hfails : ∀ q, canvas.Reaches capacity q → ∀ group ∈ contiguousLoads pending,
      (canvas.load buffer q group).failure = group.findSome? fun load =>
        canvas.skeleton.overflow? canvas.limits.depth load.1.bone :=
    fun q _ group hgroup => failure_load (chain_contiguousLoads hgroup)
  have hkeeps : ∀ q, canvas.Reaches capacity q → ∀ group ∈ contiguousLoads pending,
      (canvas.load buffer q group).failure = none →
        canvas.Reaches capacity (canvas.load buffer q group).state :=
    fun q hq group hgroup => hq.load (chain_contiguousLoads hgroup)
  obtain ⟨hfailure, hend⟩ := Emission.failure_forEach hfails hkeeps h
  refine ⟨hfailure.trans ?_, hend⟩
  rw [← findSome?_flatten, flatten_contiguousLoads]

/-! ### Batches -/

/-- The loads of a run, given the slots of its vertices. -/
def pendingLoads (mesh : SkinnedMesh) (buffer : BufferId) (p : Pipeline) (vertices slots : List Nat) :
    List (VertexKey × Nat) :=
  ((vertices.map (mesh.vertexKey buffer)).zip slots).filter fun load =>
    !p.cache.isResident load.2 load.1

/-- The vertices that are in the cache already are within reach, so those that are pending tell of
the same failure as all that are needed. -/
theorem findSome?_pendingLoads {capacity : Nat} (h : canvas.Reaches capacity p)
    {vertices slots : List Nat} (hlength : vertices.length = slots.length) :
    (pendingLoads mesh buffer p vertices slots).findSome? (fun load =>
        canvas.skeleton.overflow? canvas.limits.depth load.1.bone) =
      vertices.findSome? fun v =>
        canvas.skeleton.overflow? canvas.limits.depth (mesh.vertexBone v) := by
  have hkeys : ((vertices.map (mesh.vertexKey buffer)).zip slots).map Prod.fst =
      vertices.map (mesh.vertexKey buffer) := by
    apply List.map_fst_zip
    rw [List.length_map]
    exact Nat.le_of_eq hlength
  have hall : vertices.findSome? (fun v =>
      canvas.skeleton.overflow? canvas.limits.depth (mesh.vertexBone v)) =
        ((vertices.map (mesh.vertexKey buffer)).zip slots).findSome? fun load =>
          canvas.skeleton.overflow? canvas.limits.depth load.1.bone := by
    have hmap := congrArg (List.findSome? fun key : VertexKey =>
      canvas.skeleton.overflow? canvas.limits.depth key.bone) hkeys
    rw [List.findSome?_map, List.findSome?_map] at hmap
    exact hmap.symm
  rw [hall]
  apply findSome?_filter
  rintro ⟨key, slot⟩ _ hresident
  have hheld : p.cache.get? slot = some key := by
    simpa [VertexCache.isResident] using hresident
  exact Skeleton.overflow?_eq_none_iff.mpr (h.1 slot key hheld)

theorem drawRun_of_assign {run : Run} {bone : Option BoneId} {slots : List Nat}
    (h : p.cache.assign ((run.loadOrder mesh bone).map (mesh.vertexKey buffer)) = .ok slots) :
    canvas.drawRun mesh bone buffer p run =
      (Emission.forEach (canvas.load buffer) p (contiguousLoads
        (pendingLoads mesh buffer p (run.loadOrder mesh bone) slots))).andThen fun loaded =>
          { state := loaded
            commands :=
              canvas.draw (run.faces.map (slotTriangle ((run.loadOrder mesh bone).zip slots))) } := by
  unfold drawRun
  dsimp only
  split
  · rename_i failure herror
    exact absurd (h.symm.trans herror) (by simp)
  · rename_i assigned hassigned
    obtain rfl := Except.ok.inj (h.symm.trans hassigned)
    rfl

theorem failure_drawRun {capacity : Nat} (h : canvas.Reaches capacity p) {run : Run}
    (hrun : run.Closed) (hfits : run.vertices.length ≤ capacity) (bone : Option BoneId) :
    (canvas.drawRun mesh bone buffer p run).failure = (run.loadOrder mesh bone).findSome? (fun v =>
        canvas.skeleton.overflow? canvas.limits.depth (mesh.vertexBone v)) ∧
      ((canvas.drawRun mesh bone buffer p run).failure = none →
        canvas.Reaches capacity (canvas.drawRun mesh bone buffer p run).state) := by
  have hkeys : ((run.loadOrder mesh bone).map (mesh.vertexKey buffer)).Nodup :=
    (hrun.nodup_loadOrder mesh bone).map fun _ _ hsame => congrArg VertexKey.index hsame
  have hroom : ((run.loadOrder mesh bone).map (mesh.vertexKey buffer)).length ≤
      p.cache.capacity := by
    rw [List.length_map, (Run.loadOrder_perm run mesh bone).length_eq, h.2]
    exact hfits
  obtain ⟨slots, hassign⟩ := VertexCache.exists_assign hroom
  have hlength := (VertexCache.assign_ok hkeys hassign).1
  rw [List.length_map] at hlength
  obtain ⟨hloads, hreaches⟩ :=
    failure_loads buffer h (pendingLoads mesh buffer p (run.loadOrder mesh bone) slots)
  rw [drawRun_of_assign hassign, Emission.failure_andThen, Option.or_none,
    ← findSome?_pendingLoads h hlength.symm]
  refine ⟨hloads, fun hdone => ?_⟩
  rw [Emission.andThen_state hdone]
  exact hreaches hdone

/-- **When a batch fails.**  It fails at the first vertex that it needs whose bone is out of reach,
whatever was drawn before. -/
theorem failure_drawBatch {capacity : Nat} (hcapacity : 3 ≤ capacity)
    (h : canvas.Reaches capacity p) (pair : BonePair) :
    (canvas.drawBatch mesh pair buffer p).failure =
        (mesh.neededVertices capacity pair).findSome? (fun v =>
          canvas.skeleton.overflow? canvas.limits.depth (mesh.vertexBone v)) ∧
      ((canvas.drawBatch mesh pair buffer p).failure = none →
        canvas.Reaches capacity (canvas.drawBatch mesh pair buffer p).state) := by
  have hstart : ({} : Run).vertices.length ≤ capacity := Nat.zero_le capacity
  have hruns : ∀ run ∈ Run.pack capacity {} (mesh.pairFaces pair),
      run.Closed ∧ run.vertices.length ≤ capacity := fun run hrun =>
    ⟨Run.pack_closed Run.closed_empty _ run hrun,
      Run.length_pack hcapacity hstart (fun _ => rfl) _ run hrun⟩
  have hfails : ∀ q, canvas.Reaches capacity q → ∀ run ∈ Run.pack capacity {} (mesh.pairFaces pair),
      (canvas.drawRun mesh pair.1 buffer q run).failure = (run.loadOrder mesh pair.1).findSome?
        fun v => canvas.skeleton.overflow? canvas.limits.depth (mesh.vertexBone v) :=
    fun q hq run hrun => (failure_drawRun hq (hruns run hrun).1 (hruns run hrun).2 pair.1).1
  have hkeeps : ∀ q, canvas.Reaches capacity q → ∀ run ∈ Run.pack capacity {} (mesh.pairFaces pair),
      (canvas.drawRun mesh pair.1 buffer q run).failure = none →
        canvas.Reaches capacity (canvas.drawRun mesh pair.1 buffer q run).state :=
    fun q hq run hrun => (failure_drawRun hq (hruns run hrun).1 (hruns run hrun).2 pair.1).2
  obtain ⟨hfailure, hend⟩ := Emission.failure_forEach hfails hkeeps h
  rw [SkinnedMesh.neededVertices, findSome?_flatMap, ← hfailure, drawBatch, h.2]
  exact ⟨rfl, hend⟩

end Canvas

end SceneCompiler
