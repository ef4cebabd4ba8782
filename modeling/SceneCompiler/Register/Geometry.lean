/-!
# Geometry modes

The geometry processor has one register of twelve switches. A material may fix some of them and
leave the others open, so a state of this register is a pair of bit sets: which switches are known,
and which are on. Bits that are on without being known mean nothing.
-/

namespace SceneCompiler

/-- A set of geometry mode switches. -/
abbrev GeometryModes := BitVec 12

/-- The switches of the geometry processor, in the order of their bits. -/
inductive GeometryMode
  | zBuffer | shade | textureEnable | shadingSmooth | cullFront | cullBack | fog | lighting
  | textureGen | textureGenLinear | lod | clipping
  deriving DecidableEq, Repr

namespace GeometryMode

/-- All switches in the order of their bits. -/
def all : List GeometryMode :=
  [zBuffer, shade, textureEnable, shadingSmooth, cullFront, cullBack, fog, lighting, textureGen,
    textureGenLinear, lod, clipping]

def place (mode : GeometryMode) : Nat := mode.ctorIdx

def bit (mode : GeometryMode) : GeometryModes := 1#12 <<< mode.place

end GeometryMode

/-- What is known of the geometry mode register. -/
structure GeometryRegister where
  /-- The switches that are on. -/
  on : GeometryModes := 0
  /-- The switches whose position is known. -/
  known : GeometryModes := 0
  deriving DecidableEq, Repr

namespace GeometryRegister

/-- The register with some switches put in one position. -/
def set (r : GeometryRegister) (modes : GeometryModes) (enabled : Bool) : GeometryRegister where
  on := if enabled then r.on ||| modes else r.on &&& ~~~modes
  known := r.known ||| modes

/-- Whether some switches are all on, if they are all known. -/
def get? (r : GeometryRegister) (modes : GeometryModes) : Option Bool :=
  if r.known &&& modes = modes then some (r.on &&& modes = modes) else none

/-- The switches that `target` fixes and that do not hold yet. -/
def missing (current target : GeometryRegister) : GeometryModes :=
  target.known &&& (~~~current.known ||| (current.on ^^^ target.on))

/-- The register after every switch that `update` fixes is put in its position. -/
def apply (current update : GeometryRegister) : GeometryRegister where
  on := (current.on &&& ~~~update.known) ||| (update.on &&& update.known)
  known := current.known ||| update.known

/-- Whether every switch that `target` fixes is known to be in its position. -/
def satisfies (current target : GeometryRegister) : Bool :=
  current.known &&& target.known = target.known && (current.on ^^^ target.on) &&& target.known = 0

/-- What is known of the switches that `mask` fixes. -/
def restrictedTo (r mask : GeometryRegister) : GeometryRegister where
  on := r.on &&& mask.known
  known := r.known &&& mask.known

/-- The register after the hardware turns some switches off and then some on. -/
def write (r : GeometryRegister) (off on : GeometryModes) : GeometryRegister where
  on := (r.on &&& ~~~off) ||| on
  known := r.known ||| (off ||| on)

def lit (r : GeometryRegister) : Bool := r.get? GeometryMode.lighting.bit = some true

end GeometryRegister

end SceneCompiler
