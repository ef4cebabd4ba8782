import SceneCompiler.Proofs.Drawing.Geometry

/-!
# Drawing within the vertex cache

Slots come from several hands: they are assigned to the vertices of a run, loads are grouped by
them, and triangles name them in a byte each. All of them are slots of the cache that they were
assigned in, so what is drawn for a batch stays within the cache (`Canvas.stays_drawBatch`): a group
of loads ends within it since its last vertex has a slot of its own there.

A unit can come to its end early where the test of a bounding box stands. No such test is drawn.
-/

namespace SceneCompiler

def SlotTriangle.StaysWithin (capacity : Nat) (face : SlotTriangle) : Prop :=
  face.a.toNat < capacity ∧ face.b.toNat < capacity ∧ face.c.toNat < capacity

namespace Command

/-- A command that loads into the slots of a cache of some capacity, draws from them, or tests
vertices in them, if it uses slots at all. -/
def StaysWithin (capacity : Nat) : Command → Prop
  | loadVertices _ _ count slot => slot + count ≤ capacity
  | triangle face => face.StaysWithin capacity
  | trianglePair first second => first.StaysWithin capacity ∧ second.StaysWithin capacity
  | cullList count => count ≤ capacity
  | _ => True

/-- Whether the list can end at the command. -/
def canEnd : Command → Bool
  | cullList _ => true
  | _ => false

/-- A command that stays within a cache of some capacity, and after which the list goes on. -/
structure IsConfined (capacity : Nat) (c : Command) : Prop where
  within : c.StaysWithin capacity
  goesOn : c.canEnd = false

variable {capacity : Nat} {c : Command}

theorem isConfined_of_touches (h : c.touchesRegisters = true) : c.IsConfined capacity := by
  cases c <;> first | exact ⟨trivial, rfl⟩ | simp [touchesRegisters] at h

theorem isConfined_of_move (h : c.isMatrix = true ∨ ∃ text, c = .comment text) :
    c.IsConfined capacity := by
  rcases h with hmatrix | ⟨text, rfl⟩
  · cases c <;> first | exact ⟨trivial, rfl⟩ | simp [isMatrix] at hmatrix
  · exact ⟨trivial, rfl⟩

end Command

/-- Commands that lead from one pipeline to another whose cache has as many slots, and that stay
within these slots. -/
structure Pipeline.Stays (p : Pipeline) (commands : List Command) (reached : Pipeline) : Prop where
  capacity : reached.cache.capacity = p.cache.capacity
  confined : ∀ c ∈ commands, c.IsConfined p.cache.capacity

namespace Pipeline.Stays

variable {p q r : Pipeline} {xs ys : List Command}

theorem nil (p : Pipeline) : p.Stays [] p := ⟨rfl, by simp⟩

theorem append (hpq : p.Stays xs q) (hqr : q.Stays ys r) : p.Stays (xs ++ ys) r where
  capacity := hqr.capacity.trans hpq.capacity
  confined c hc := by
    rcases List.mem_append.mp hc with hc | hc
    · exact hpq.confined c hc
    · rw [← hpq.capacity]
      exact hqr.confined c hc

theorem forEach {α : Type} {emit : Pipeline → α → Emission Pipeline} {list : List α}
    {capacity : Nat}
    (hemit : ∀ q, q.cache.capacity = capacity → ∀ a ∈ list, (emit q a).failure = none →
      q.Stays (emit q a).commands (emit q a).state)
    (hp : p.cache.capacity = capacity) (h : (Emission.forEach emit p list).failure = none) :
    p.Stays (Emission.forEach emit p list).commands (Emission.forEach emit p list).state := by
  revert hemit hp
  refine Emission.forEach_induction
    (R := fun p list commands reached =>
      (∀ q, q.cache.capacity = capacity → ∀ a ∈ list, (emit q a).failure = none →
        q.Stays (emit q a).commands (emit q a).state) →
      p.cache.capacity = capacity → p.Stays commands reached) ?_ ?_ h
  · exact fun p _ _ => nil p
  · intro p a rest commands reached hfirst hrest hemit hp
    have hstep := hemit p hp a List.mem_cons_self hfirst
    exact hstep.append (hrest (fun q hq b hb => hemit q hq b (List.mem_cons_of_mem a hb))
      (hstep.capacity.trans hp))

end Pipeline.Stays

theorem Pipeline.stays_moveTo {skeleton : Skeleton} {limits : StackLimits} {p : Pipeline}
    {target : Option BoneId} (h : (p.moveTo skeleton limits target).failure = none) :
    p.Stays (p.moveTo skeleton limits target).commands
      (p.moveTo skeleton limits target).state := by
  obtain ⟨hstate, _, hcommands⟩ := moveTo_ok h
  rw [hstate, hcommands]
  exact ⟨rfl, fun c hc => Command.isConfined_of_move (BoneStack.mem_moves hc)⟩

namespace Canvas

variable {canvas : Canvas} {buffer : BufferId} {mesh : SkinnedMesh} {p : Pipeline}

/-! ### Loads -/

/-- A group of loads ends where the slot of its last vertex does. -/
theorem end_le_of_contiguous {first : VertexKey × Nat} {rest : List (VertexKey × Nat)}
    {capacity : Nat} (hchain : (first :: rest).IsChain fun x y => followsInLoad x y = true)
    (hbuffer : ∀ load ∈ first :: rest, load.1.buffer = buffer)
    (hslots : ∀ load ∈ first :: rest, load.2 < capacity) :
    first.2 + (first :: rest).length ≤ capacity := by
  have hlast : first.2 + rest.length ∈ (first :: rest).map Prod.snd := by
    rw [slots_of_contiguous hchain hbuffer, List.mem_range'_1, List.length_cons]
    omega
  obtain ⟨load, hload, hslot⟩ := List.mem_map.mp hlast
  have hlt := hslots load hload
  rw [List.length_cons]
  omega

theorem stays_load {group : List (VertexKey × Nat)}
    (hchain : group.IsChain fun x y => followsInLoad x y = true)
    (hbuffer : ∀ load ∈ group, load.1.buffer = buffer)
    (hslots : ∀ load ∈ group, load.2 < p.cache.capacity)
    (h : (canvas.load buffer p group).failure = none) :
    p.Stays (canvas.load buffer p group).commands (canvas.load buffer p group).state := by
  cases group with
  | nil => exact .nil p
  | cons first rest =>
    obtain ⟨hmove, _⟩ := Emission.andThen_failure h
    have hmoved := Pipeline.stays_moveTo hmove
    rw [load, Emission.andThen_commands hmove, Emission.andThen_state hmove]
    refine hmoved.append ⟨VertexCache.capacity_storeAll _, fun c hc => ?_⟩
    obtain rfl := List.mem_singleton.mp hc
    rw [hmoved.capacity]
    exact ⟨end_le_of_contiguous hchain hbuffer hslots, rfl⟩

/-! ### Triangles -/

/-- Whatever vertex is looked up, its slot is one of the list, or the first. -/
theorem staysWithin_slotTriangle {slots : List (Nat × Nat)} {capacity : Nat}
    (hslots : ∀ entry ∈ slots, entry.2 < capacity) (hcapacity : 0 < capacity) (face : Face) :
    (slotTriangle slots face).StaysWithin capacity := by
  have hslot : ∀ vertex, (UInt8.ofNat ((slots.lookup vertex).getD 0)).toNat < capacity := by
    intro vertex
    refine Nat.lt_of_le_of_lt (UInt8.toNat_ofNat' ▸ Nat.mod_le _ _) ?_
    cases hlookup : slots.lookup vertex with
    | none => exact hcapacity
    | some slot =>
      obtain ⟨before, after, hsplit, _⟩ := List.lookup_eq_some_iff.mp hlookup
      exact hslots (vertex, slot) (by rw [hsplit]; simp)
  exact ⟨hslot face.a, hslot face.b, hslot face.c⟩

theorem stays_draw {triangles : List SlotTriangle}
    (hwithin : ∀ t ∈ triangles, t.StaysWithin p.cache.capacity) :
    p.Stays (canvas.draw triangles) p := by
  refine ⟨rfl, fun c hc => ?_⟩
  rcases mem_draw hc with ⟨t, ht, rfl⟩ | ⟨t, ht, u, hu, rfl⟩
  · exact ⟨hwithin t ht, rfl⟩
  · exact ⟨⟨hwithin t ht, hwithin u hu⟩, rfl⟩

/-! ### Batches -/

theorem stays_drawRun {bone : Option BoneId} {run : Run} (hrun : run.Closed)
    (hcapacity : 0 < p.cache.capacity)
    (h : (canvas.drawRun mesh bone buffer p run).failure = none) :
    p.Stays (canvas.drawRun mesh bone buffer p run).commands
      (canvas.drawRun mesh bone buffer p run).state := by
  obtain ⟨slots, pending, hassign, hpending, hloads, hstate, hcommands⟩ := drawRun_ok h
  have hkeys : ((run.loadOrder mesh bone).map (mesh.vertexKey buffer)).Nodup :=
    (hrun.nodup_loadOrder mesh bone).map fun _ _ hsame => congrArg VertexKey.index hsame
  obtain ⟨_, _, hslots⟩ := VertexCache.assign_ok hkeys hassign
  have hload : ∀ group ∈ contiguousLoads pending, ∀ load ∈ group,
      load.1.buffer = buffer ∧ load.2 < p.cache.capacity := by
    intro group hgroup load hload
    have hmem := List.mem_flatten_of_mem hgroup hload
    rw [flatten_contiguousLoads, hpending] at hmem
    obtain ⟨hkey, hslot⟩ := List.of_mem_zip (List.mem_filter.mp hmem).1
    obtain ⟨vertex, _, hvertex⟩ := List.mem_map.mp hkey
    exact ⟨hvertex ▸ rfl, hslots _ hslot⟩
  have hloaded : p.Stays
      (Emission.forEach (canvas.load buffer) p (contiguousLoads pending)).commands
      (Emission.forEach (canvas.load buffer) p (contiguousLoads pending)).state := by
    refine Pipeline.Stays.forEach (fun q hq group hgroup hdone => ?_) rfl hloads
    exact stays_load (chain_contiguousLoads hgroup) (fun load hl => (hload group hgroup load hl).1)
      (fun load hl => hq ▸ (hload group hgroup load hl).2) hdone
  rw [hstate, hcommands]
  refine hloaded.append (stays_draw fun t ht => ?_)
  obtain ⟨face, _, rfl⟩ := List.mem_map.mp ht
  rw [hloaded.capacity]
  exact staysWithin_slotTriangle (fun entry he => hslots _ (List.of_mem_zip he).2) hcapacity face

/-- **What is drawn for a batch stays within the cache.** -/
theorem stays_drawBatch {pair : BonePair} (hcapacity : 0 < p.cache.capacity)
    (h : (canvas.drawBatch mesh pair buffer p).failure = none) :
    p.Stays (canvas.drawBatch mesh pair buffer p).commands
      (canvas.drawBatch mesh pair buffer p).state := by
  refine Pipeline.Stays.forEach (fun q hq run hrun hdrawn => ?_) rfl h
  exact stays_drawRun (Run.pack_closed Run.closed_empty _ run hrun) (hq ▸ hcapacity) hdrawn

end Canvas

end SceneCompiler
