import SceneCompiler.Number.Shortest
import SceneCompiler.Settings.Fields
import SceneCompiler.Text.Printable

/-!
# Writing RON

Settings are written as a group without a name, one to a line with a comma behind it, and the timing
estimates as a group within. A vector is a tuple on one line. Numbers always have a point, and in
texts every character that is no plain sign is written by its code point.
-/

namespace SceneCompiler.Ron

def numberNotation : FloatNotation := ⟨"NaN", "inf", ".0"⟩

def quotedChar (c : Char) : List Char :=
  match c with
  | '\x00' => ['\\', '0']
  | '\t' => ['\\', 't']
  | '\r' => ['\\', 'r']
  | '\n' => ['\\', 'n']
  | '"' => ['\\', '"']
  | '\'' => ['\\', '\'']
  | '\\' => ['\\', '\\']
  | c =>
    if Text.isPrintable c then [c]
    else ['\\', 'u', '{'] ++ Nat.toDigits 16 c.toNat ++ ['}']

def renderText (s : String) : String :=
  "\"" ++ String.ofList (s.toList.flatMap quotedChar) ++ "\""

def renderSingle (value : Float32) : String := numberNotation.render (.ofFloat32 value)

def renderDouble (value : Float) : String := numberNotation.render (.ofFloat value)

def renderSetting : SettingValue → String
  | .boolean value => if value then "true" else "false"
  | .natural value => toString value
  | .single value => renderSingle value
  | .triple value => "(" ++ ", ".intercalate (value.toList.map renderSingle) ++ ")"
  | .text value => renderText value
  | .optionalText none => "None"
  | .optionalText (some value) => "Some(" ++ renderText value ++ ")"

def renderGroup (depth : Nat) (fields : List (String × String)) : String :=
  let indent (n : Nat) := String.ofList (List.replicate (4 * n) ' ')
  let line (field : String × String) :=
    indent (depth + 1) ++ field.1 ++ ": " ++ field.2 ++ ",\n"
  "(\n" ++ String.join (fields.map line) ++ indent depth ++ ")"

def renderTiming (depth : Nat) (timing : Timing Cost) : String :=
  renderGroup depth (timing.namedFields.map fun (name, cost) => (name, renderDouble cost.value))

def render (s : Settings) : String :=
  renderGroup 0 ((s.namedFields.map fun (name, value) => (name, renderSetting value)) ++
    [("timing", renderTiming 1 s.timing)])

end SceneCompiler.Ron
