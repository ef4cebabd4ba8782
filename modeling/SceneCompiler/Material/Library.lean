import SceneCompiler.Material.State
import SceneCompiler.Number.Numeral
import SceneCompiler.Text.Blank

/-!
# Material libraries

A library holds the materials of a scene, each under its name. Putting in a material of a known name
replaces the old one in its place, so a material can be referred to by its place.
-/

namespace SceneCompiler

/-- A material by its place in the library. -/
abbrev MaterialKey := Nat

/-- A material: its name, what it asks of the registers, and further properties in the order in
which they were set. -/
structure Material where
  name : String
  state : MaterialState := {}
  properties : List (String × String) := []

namespace Material

/-- The value of a property; the last one set counts. -/
def property? (m : Material) (key : String) : Option String :=
  (m.properties.findRev? (·.1 = key)).map (·.2)

/-- A property that gives a size: a positive finite number between blanks. -/
def size? (m : Material) (key : String) : Option Float32 :=
  ((m.property? key).bind fun text => readFloat32? (Text.trim text.toList)).filter
    fun size => size.isFinite && 0 < size

/-- The size of one repetition of the texture in units of the model, if texture coordinates are to
be made by projection. The second size is the first one unless it is given. -/
def tileSize? (m : Material) : Option (Float32 × Float32) :=
  (m.size? "tile_size_s").map fun s => (s, (m.size? "tile_size_t").getD s)

end Material

/-- The materials of a scene in the order in which their names first appeared. -/
structure MaterialLibrary where
  materials : List Material := []

namespace MaterialLibrary

def get? (library : MaterialLibrary) (key : MaterialKey) : Option Material :=
  library.materials[key]?

def find? (library : MaterialLibrary) (name : String) : Option MaterialKey :=
  library.materials.findIdx? (·.name = name)

def size (library : MaterialLibrary) : Nat := library.materials.length

/-- The library with a material put in, in the place of the one with the same name if there is
one. -/
def insert (library : MaterialLibrary) (material : Material) : MaterialLibrary :=
  match library.find? material.name with
  | some key => { materials := library.materials.set key material }
  | none => { materials := library.materials ++ [material] }

/-- The material for a name, unless one material is forced on everything. -/
def resolve? (library : MaterialLibrary) (name : String) (force : Option String) :
    Option MaterialKey :=
  library.find? (force.getD name)

/-- What a material asks of the registers; a missing one asks nothing. -/
def stateOf (library : MaterialLibrary) (key : Option MaterialKey) : MaterialState :=
  ((key.bind library.get?).map (·.state)).getD {}

/-- The library with some materials put in in order. -/
def ofList (materials : List Material) : MaterialLibrary := materials.foldl insert {}

end MaterialLibrary

end SceneCompiler
