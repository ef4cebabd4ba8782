import SceneCompiler.Batch.Basic
import SceneCompiler.Material.Transition
import SceneCompiler.Text.Symbol

/-!
# Shared material lists

A material that is drawn with more than once, or in an export of several units, is written once as a
list of its own that the units call. The list takes the registers from the rest state to the
material, as far as the material fixes them; the caller has to bring these to the rest state first.

The name of a list is made from the material's name, and a number is added if another list has it.
-/

namespace SceneCompiler

/-- How often materials are drawn with. -/
structure MaterialUses where
  /-- The material of each batch that has one. -/
  drawn : List MaterialKey := []
  /-- The number of units. -/
  units : Nat := 0

namespace MaterialUses

def collect (uses : MaterialUses) (batches : List Batch) : MaterialUses where
  drawn := uses.drawn ++ batches.filterMap (·.material)
  units := uses.units + 1

def ofUnits (units : List (List Batch)) : MaterialUses := units.foldl collect {}

/-- The number of batches drawn with a material. -/
def count (uses : MaterialUses) (material : MaterialKey) : Nat := uses.drawn.count material

/-- Whether a material gets a list of its own. -/
def isShared (uses : MaterialUses) (material : MaterialKey) : Bool :=
  1 < uses.count material || (0 < uses.count material && 1 < uses.units)

end MaterialUses

/-- The lists of shared materials, in the order of the library. -/
structure SharedMaterials where
  entries : List (MaterialKey × DisplayList) := []

namespace SharedMaterials

def lists (shared : SharedMaterials) : List DisplayList := shared.entries.map (·.2)

def nameOf? (shared : SharedMaterials) (material : MaterialKey) : Option String :=
  (shared.entries.lookup material).map (·.name)

def isTaken (shared : SharedMaterials) (name : String) : Bool :=
  shared.lists.any (·.name = name)

def numbered (name : String) (n : Nat) : String := s!"{name}_{n}"

/-- The wanted name if no list has it, or else the first free one with a number. One of the numbers
up to the number of lists plus one is free. -/
def freeName (shared : SharedMaterials) (wanted : String) : String :=
  if shared.isTaken wanted then
    let candidates := (List.range' 1 (shared.entries.length + 1)).map (numbered wanted)
    (candidates.find? (!shared.isTaken ·)).getD wanted
  else wanted

/-- The commands from the rest state to a material, as far as the material fixes registers. -/
def body (default material : MaterialState) : List Command :=
  MaterialState.transition (default.restrictedTo material) material

/-- The lists with the one of a further material. -/
def add (default : MaterialState) (shared : SharedMaterials) (entry : MaterialKey × Material) :
    SharedMaterials :=
  let list : DisplayList :=
    { name := shared.freeName (Text.symbol entry.2.name ++ "_material")
      commands := body default entry.2.state }
  { entries := shared.entries ++ [(entry.1, list)] }

/-- The lists for the materials of a library that are shared. -/
def build (uses : MaterialUses) (library : MaterialLibrary) (default : MaterialState) :
    SharedMaterials :=
  let keyed := library.materials.zipIdx.map fun entry => (entry.2, entry.1)
  (keyed.filter fun entry => uses.isShared entry.1).foldl (add default) {}

end SharedMaterials

end SceneCompiler
