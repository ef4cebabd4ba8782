import SceneCompiler.Register.Geometry
import SceneCompiler.Register.Mode
import SceneCompiler.Register.Value

/-!
# Registers

The registers that a single command sets to a single value: the thirteen mode fields and eight
others. All of them are treated alike. A state may leave a register open; to apply a state is to
take over what it fixes, and a state satisfies another when it agrees with it wherever the other
fixes something.

`Registers` is read through `get` and built through `ofRegisters`. The geometry modes, of which one
command sets many, and the tiles, which share memory, are not among these registers.
-/

namespace SceneCompiler

/-- A register that one command sets. -/
inductive Register
  | mode (field : ModeField)
  | combine | renderMode | primitiveColor | environmentColor | fillColor | fogColor | blendColor
  | texture
  deriving DecidableEq, Repr

namespace Register

/-- The registers written before the geometry modes. -/
def leading : List Register := ModeField.all.map mode

/-- The registers written after the geometry modes. -/
def trailing : List Register :=
  [combine, renderMode, primitiveColor, environmentColor, fillColor, fogColor, blendColor, texture]

def all : List Register := leading ++ trailing

theorem mem_all (r : Register) : r ∈ all := by
  cases r with
  | mode field => simp [all, leading, ModeField.mem_all]
  | _ => simp [all, trailing]

/-- What a register holds. -/
abbrev Value : Register → Type
  | mode field => field.Setting
  | combine => CombineCycles
  | renderMode => RenderMode
  | primitiveColor => PrimitiveColor
  | environmentColor => Color
  | fillColor => Color
  | fogColor => Color
  | blendColor => Color
  | texture => TextureState

/-- Values of one register can be told apart. -/
def decideValue : (r : Register) → DecidableEq r.Value
  | mode field => inferInstanceAs (DecidableEq field.Setting)
  | combine => inferInstanceAs (DecidableEq CombineCycles)
  | renderMode => inferInstanceAs (DecidableEq RenderMode)
  | primitiveColor => inferInstanceAs (DecidableEq PrimitiveColor)
  | environmentColor => inferInstanceAs (DecidableEq Color)
  | fillColor => inferInstanceAs (DecidableEq Color)
  | fogColor => inferInstanceAs (DecidableEq Color)
  | blendColor => inferInstanceAs (DecidableEq Color)
  | texture => inferInstanceAs (DecidableEq TextureState)

instance (r : Register) : DecidableEq r.Value := decideValue r

end Register

/-- A value for each register, or none where it is open. -/
structure Registers where
  modes : Modes := {}
  combine : Option CombineCycles := none
  renderMode : Option RenderMode := none
  primitiveColor : Option PrimitiveColor := none
  environmentColor : Option Color := none
  fillColor : Option Color := none
  fogColor : Option Color := none
  blendColor : Option Color := none
  texture : Option TextureState := none
  deriving DecidableEq, Repr

namespace Registers

def get (s : Registers) : (r : Register) → Option r.Value
  | .mode field => s.modes.get field
  | .combine => s.combine
  | .renderMode => s.renderMode
  | .primitiveColor => s.primitiveColor
  | .environmentColor => s.environmentColor
  | .fillColor => s.fillColor
  | .fogColor => s.fogColor
  | .blendColor => s.blendColor
  | .texture => s.texture

def ofRegisters (values : (r : Register) → Option r.Value) : Registers where
  modes := .ofFields fun field => values (.mode field)
  combine := values .combine
  renderMode := values .renderMode
  primitiveColor := values .primitiveColor
  environmentColor := values .environmentColor
  fillColor := values .fillColor
  fogColor := values .fogColor
  blendColor := values .blendColor
  texture := values .texture

@[simp] theorem get_ofRegisters (values : (r : Register) → Option r.Value) (r : Register) :
    (ofRegisters values).get r = values r := by
  cases r <;> simp [get, ofRegisters]

theorem ext_get {s t : Registers} (h : ∀ r, s.get r = t.get r) : s = t := by
  have hs : s = ofRegisters s.get := rfl
  have ht : t = ofRegisters t.get := rfl
  rw [hs, ht, funext h]

def write (s : Registers) (r : Register) (value : r.Value) : Registers :=
  ofRegisters fun other => if h : r = other then some (h ▸ value) else s.get other

/-- The registers after taking over everything that `update` fixes. -/
def apply (current update : Registers) : Registers :=
  ofRegisters fun r => (update.get r).or (current.get r)

/-- Whether the registers agree with `target` on one register, if `target` fixes it. -/
def agreesOn (current target : Registers) (r : Register) : Bool :=
  (target.get r).isNone || current.get r = target.get r

/-- Whether the registers agree with `target` wherever it fixes one. -/
def satisfies (current target : Registers) : Bool := Register.all.all (current.agreesOn target)

/-- The registers with all of them open that `mask` leaves open. -/
def restrictedTo (s mask : Registers) : Registers :=
  ofRegisters fun r => if (mask.get r).isSome then s.get r else none

end Registers

end SceneCompiler
