import SceneCompiler.Mesh.Surface
import SceneCompiler.Skeleton.Ancestry

/-!
# Skinned meshes

A mesh is a surface with colors and a material whose vertices are owned by bones, each by at most
one. Its faces are drawn in groups: the faces of one bone together, and the faces stretched between
bones by the pair of bones at which they part.
-/

namespace SceneCompiler

/-- A mesh by its place in the scene. -/
abbrev MeshId := Nat

/-- A color with alpha, each from zero to one. -/
structure FloatColor where
  r : Float32
  g : Float32
  b : Float32
  a : Float32

/-- A surface with its looks, the owners of its vertices and the groups of its faces. -/
structure SkinnedMesh where
  name : String
  surface : Surface Float32
  colors : Option (List FloatColor) := none
  /-- The name of the mesh's material. -/
  material : String
  /-- The bone that owns each vertex. -/
  owners : List (Option BoneId)
  /-- The matrices from the space of the model to the spaces of bones. -/
  offsets : List (BoneId × Matrix) := []
  /-- The faces with all vertices owned by one bone, or by none. -/
  boneGroups : List (Option BoneId × List Nat)
  /-- The other faces. -/
  spanningGroups : List (BonePair × List Nat)

/-- The place of a bone in the order of groups: the root of the model comes first. -/
def boneRank (bone : Option BoneId) : Nat :=
  match bone with
  | none => 0
  | some id => id + 1

/-- The order of pairs of bones, by the first one and then by the second. -/
def pairAtMost (p q : BonePair) : Bool :=
  boneRank p.1 < boneRank q.1 || (boneRank p.1 = boneRank q.1 && boneRank p.2 ≤ boneRank q.2)

namespace SkinnedMesh

/-- A mesh whose vertices no bone owns. All faces are in one group. -/
def unskinned (name : String) (surface : Surface Float32) (colors : Option (List FloatColor))
    (material : String) : SkinnedMesh where
  name
  surface
  colors
  material
  owners := List.replicate surface.vertexCount none
  boneGroups := [(none, List.range surface.faces.length)]
  spanningGroups := []

def ownerOf (owners : List (Option BoneId)) (vertex : Nat) : Option BoneId :=
  (owners[vertex]?).getD none

def faceOwner? (owners : List (Option BoneId)) (face : Face) : Option (Option BoneId) :=
  let owner := ownerOf owners face.a
  if ownerOf owners face.b = owner && ownerOf owners face.c = owner then some owner else none

/-- The pair of bones at which the owners of a face part: the lowest bone above all of them, and its
child towards the first owner that is not that bone. -/
def facePair (skeleton : Skeleton) (owners : List (Option BoneId)) (face : Face) : BonePair :=
  let a := ownerOf owners face.a
  let b := ownerOf owners face.b
  let c := ownerOf owners face.c
  let ancestor := skeleton.commonAncestor (skeleton.commonAncestor a b) c
  match [a, b, c].find? (· ≠ ancestor) with
  | some owner => (ancestor, skeleton.stepDownTowards ancestor owner)
  | none => (ancestor, ancestor)

def withSkin (mesh : SkinnedMesh) (skeleton : Skeleton) (owners : List (Option BoneId))
    (offsets : List (BoneId × Matrix)) : SkinnedMesh :=
  let faces := mesh.surface.faces
  let ownerKey (i : Nat) := faces[i]?.bind (faceOwner? owners)
  let pairKey (i : Nat) := faces[i]?.bind fun face =>
    if (faceOwner? owners face).isSome then none else some (facePair skeleton owners face)
  { mesh with
    owners
    offsets
    boneGroups :=
      (groupsBy ownerKey faces.length).mergeSort fun g h => boneRank g.1 ≤ boneRank h.1
    spanningGroups :=
      (groupsBy pairKey faces.length).mergeSort fun g h => pairAtMost g.1 h.1 }

/-- The mesh with its vertices owned by bones of a skeleton, if the owners are as many as the
vertices. -/
def withSkin? (mesh : SkinnedMesh) (skeleton : Skeleton) (owners : List (Option BoneId))
    (offsets : List (BoneId × Matrix)) : Option SkinnedMesh :=
  if owners.length = mesh.surface.vertexCount then some (mesh.withSkin skeleton owners offsets)
  else none

def vertexBone (mesh : SkinnedMesh) (vertex : Nat) : Option BoneId := ownerOf mesh.owners vertex

/-- The matrix from the space of the model to the space of a bone; the last one given counts. -/
def offset? (mesh : SkinnedMesh) (bone : BoneId) : Option Matrix :=
  (mesh.offsets.findRev? (·.1 = bone)).map (·.2)

def isSkinned (mesh : SkinnedMesh) : Bool := mesh.owners.any Option.isSome

def facesForPair (mesh : SkinnedMesh) (pair : BonePair) : List Nat :=
  if pair.1 = pair.2 then (mesh.boneGroups.lookup pair.1).getD []
  else (mesh.spanningGroups.lookup pair).getD []

/-- The pairs of bones for which faces are drawn, single bones first. -/
def drawnPairs (mesh : SkinnedMesh) : List BonePair :=
  (mesh.boneGroups.filter (!·.2.isEmpty)).map (fun group => (group.1, group.1)) ++
    (mesh.spanningGroups.filter (!·.2.isEmpty)).map (·.1)

/-- The mesh with its positions and normals mapped by a matrix. -/
def transformed (mesh : SkinnedMesh) (matrix : Matrix) : SkinnedMesh :=
  { mesh with
    surface.positions := mesh.surface.positions.map matrix.onPoint
    surface.normals := mesh.surface.normals.map (·.map matrix.onNormal) }

end SkinnedMesh

end SceneCompiler
