import SceneCompiler.Hardware.Pipeline

/-!
# Drawing faces

The faces of a batch are packed into runs whose vertices fit into the cache together. For each run
the vertices that are not in the cache yet are loaded, each under the matrix of its bone, and then
the faces are drawn from the slots. Vertices of the batch's first bone are loaded before the others.

One command loads several vertices when they follow one another in the buffer and in the slots and
belong to one bone.
-/

namespace SceneCompiler

/-! ### Runs -/

/-- Faces with all their vertices, which are in ascending order. -/
structure Run where
  vertices : List Nat := []
  faces : List Face := []

/-- A number put into an ascending list, unless it is there. -/
def insertAscending (n : Nat) : List Nat → List Nat
  | [] => [n]
  | m :: rest =>
    if n < m then n :: m :: rest
    else if n = m then m :: rest
    else m :: insertAscending n rest

namespace Run

def add (run : Run) (face : Face) : Run where
  vertices := face.corners.foldl (fun vertices n => insertAscending n vertices) run.vertices
  faces := run.faces ++ [face]

/-- The runs of some faces, of which the first ones join a run that is under way. A face that would
not fit starts a run of its own. -/
def pack (capacity : Nat) (current : Run) : List Face → List Run
  | [] => if current.faces.isEmpty then [] else [current]
  | face :: rest =>
    let grown := current.add face
    if current.faces.isEmpty || grown.vertices.length ≤ capacity then pack capacity grown rest
    else current :: pack capacity (Run.add {} face) rest

/-- The vertices in the order in which they are loaded: those of one bone, then the others. -/
def loadOrder (run : Run) (mesh : SkinnedMesh) (bone : Option BoneId) : List Nat :=
  run.vertices.filter (fun vertex => mesh.vertexBone vertex = bone) ++
    run.vertices.filter fun vertex => mesh.vertexBone vertex ≠ bone

end Run

/-! ### Loads -/

/-- Whether two loads can be done by one command, the second right after the first. -/
def followsInLoad (first second : VertexKey × Nat) : Bool :=
  second.1.index = first.1.index + 1 && second.2 = first.2 + 1 && second.1.bone = first.1.bone

/-- Whether a group of loads ends before a place: at the end of the loads, or where a load does not
follow the one before it. -/
def groupEnds (pending : List (VertexKey × Nat)) (place : Nat) : Bool :=
  match pending[place - 1]?, pending[place]? with
  | some previous, some next => !followsInLoad previous next
  | _, _ => true

/-- The groups that are complete, and the place where the next one starts. -/
structure LoadGroups where
  complete : List (List (VertexKey × Nat)) := []
  start : Nat := 0

namespace LoadGroups

/-- The group that is under way before a place. -/
def current (pending : List (VertexKey × Nat)) (groups : LoadGroups) (place : Nat) :
    List (VertexKey × Nat) :=
  (pending.take place).drop groups.start

/-- Completes the group that is under way if it ends before a place. -/
def step (pending : List (VertexKey × Nat)) (groups : LoadGroups) (place : Nat) : LoadGroups :=
  if groupEnds pending place && groups.start < place then
    { complete := groups.complete ++ [groups.current pending place], start := place }
  else groups

end LoadGroups

/-- Loads in groups that one command can do, as few as possible. -/
def contiguousLoads (pending : List (VertexKey × Nat)) : List (List (VertexKey × Nat)) :=
  ((List.range' 1 pending.length).foldl (LoadGroups.step pending) {}).complete

/-- What the drawing of a batch needs to know of the export. -/
structure Canvas where
  skeleton : Skeleton
  limits : StackLimits
  drawsPairs : Bool

namespace Canvas

/-- Loads a group of vertices under the matrix of their bone. -/
def load (canvas : Canvas) (buffer : BufferId) (p : Pipeline) (group : List (VertexKey × Nat)) :
    Emission Pipeline :=
  match group with
  | [] => { state := p }
  | (key, slot) :: _ =>
    (p.moveTo canvas.skeleton canvas.limits key.bone).andThen fun moved =>
      { state := { moved with cache := moved.cache.storeAll group }
        commands := [.loadVertices buffer key.index group.length slot] }

/-! ### Triangles -/

/-- A face by the slots of its vertices. A slot is written in one byte. -/
def slotTriangle (slots : List (Nat × Nat)) (face : Face) : SlotTriangle :=
  let slot (vertex : Nat) : UInt8 := UInt8.ofNat ((slots.lookup vertex).getD 0)
  ⟨slot face.a, slot face.b, slot face.c⟩

def drawPairs : List SlotTriangle → List Command
  | [] => []
  | [single] => [.triangle single]
  | first :: second :: rest => .trianglePair first second :: drawPairs rest

def draw (canvas : Canvas) (triangles : List SlotTriangle) : List Command :=
  if canvas.drawsPairs then drawPairs triangles else triangles.map .triangle

/-! ### Batches -/

def drawRun (canvas : Canvas) (mesh : SkinnedMesh) (bone : Option BoneId) (buffer : BufferId)
    (p : Pipeline) (run : Run) : Emission Pipeline :=
  let vertices := run.loadOrder mesh bone
  let keys : List VertexKey :=
    vertices.map fun index => { buffer, index, bone := mesh.vertexBone index }
  match p.cache.assign keys with
  | .error failure => { state := p, failure := some failure }
  | .ok slots =>
    let pending := (keys.zip slots).filter fun load => !p.cache.isResident load.2 load.1
    (Emission.forEach (canvas.load buffer) p (contiguousLoads pending)).andThen fun loaded =>
      { state := loaded
        commands := canvas.draw (run.faces.map (slotTriangle (vertices.zip slots))) }

def drawBatch (canvas : Canvas) (mesh : SkinnedMesh) (pair : BonePair) (buffer : BufferId)
    (p : Pipeline) : Emission Pipeline :=
  let faces := (mesh.facesForPair pair).filterMap fun i => mesh.surface.faces[i]?
  Emission.forEach (canvas.drawRun mesh pair.1 buffer) p (Run.pack p.cache.capacity {} faces)

end Canvas

/-- What drawing needs to know of an export. -/
def Settings.canvas (settings : Settings) (skeleton : Skeleton) : Canvas where
  skeleton
  limits := settings.stackLimits
  drawsPairs := settings.drawsPairs

end SceneCompiler
