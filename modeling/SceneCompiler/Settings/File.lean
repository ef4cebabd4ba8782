import SceneCompiler.Settings.RonReader
import SceneCompiler.Settings.RonWriter
import SceneCompiler.Settings.TomlReader
import SceneCompiler.Settings.TomlWriter

/-!
# Settings files

Settings, or the timing estimates alone, are kept in files. The ending of the file's name tells the
format. A file that is not there is noticed before its name is looked at.
-/

namespace SceneCompiler

/-- A format of settings files. -/
inductive FileFormat | toml | ron

/-- Why a settings file cannot be read or written. -/
inductive FileError
  | missing
  | unsupportedFormat
  | malformed
  | unwritable

namespace FileFormat

/-- The ending of a file's name: what follows its last point, unless the name starts with that. -/
def ending? (name : String) : Option String :=
  match name.splitOn "." with
  | [] | [_] | ["", _] => none
  | parts => parts.getLast?

def ofName? (name : String) : Option FileFormat :=
  match ending? name with
  | some "toml" => some toml
  | some "ron" => some ron
  | _ => none

end FileFormat

/-- Something that can be kept in a settings file. -/
structure Stored (α : Type) where
  /-- The group of its fields. -/
  group : FieldGroup
  fromFields : {V : Type} → ValueReader V → List (String × V) → Option α
  toToml : α → Option String
  toRon : α → String

namespace Stored

variable {α : Type}

def parse? (stored : Stored α) (text : String) : FileFormat → Option α
  | .toml => (Toml.read? text).bind (stored.fromFields Toml.reader)
  | .ron => do
    let found ← Ron.read? stored.group text
    stored.fromFields Ron.reader (← Ron.reader.fields? stored.group found)

/-- What the file of a name holds, given its text if the file is there. -/
def load (stored : Stored α) (name : String) (text : Option String) : Except FileError α :=
  match text, FileFormat.ofName? name with
  | none, _ => .error .missing
  | some _, none => .error .unsupportedFormat
  | some text, some format =>
    match stored.parse? text format with
    | some found => .ok found
    | none => .error .malformed

def save (stored : Stored α) (name : String) (a : α) : Except FileError String :=
  match FileFormat.ofName? name with
  | none => .error .unsupportedFormat
  | some .toml =>
    match stored.toToml a with
    | some text => .ok text
    | none => .error .unwritable
  | some .ron => .ok (stored.toRon a)

end Stored

def Settings.stored : Stored Settings where
  group := settingsGroup
  fromFields := ValueReader.settings?
  toToml := Toml.render?
  toRon := Ron.render

def Timing.stored : Stored (Timing Cost) where
  group := timingGroup
  fromFields := ValueReader.timing?
  toToml := fun timing => some (Toml.renderTiming timing)
  toRon := Ron.renderTiming 0

end SceneCompiler
