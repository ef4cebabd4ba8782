import SceneCompiler.Number.Shortest
import SceneCompiler.Settings.Fields

/-!
# Writing TOML

Settings are written one to a line, vectors with one number to a line, and the timing estimates in a
table of their own at the end. A setting without a value is left out. Numbers always have a point.

A text stands between quotes, between apostrophes, or between three of either. The first of these
is taken in which nothing in the text needs a backslash.
-/

namespace SceneCompiler.Toml

def numberNotation : FloatNotation := ⟨"nan", "inf", ".0"⟩

/-- The digits of a code point, four at least. -/
def escapedCode (c : Char) : List Char :=
  let digits := (Nat.toDigits 16 c.toNat).map Char.toUpper
  List.replicate (4 - digits.length) '0' ++ digits

/-- Whether a character is a control character other than a tab or an end of line. -/
def isControl (c : Char) : Bool := (c < ' ' && c ≠ '\t' && c ≠ '\n') || c = '\x7f'

/-- How a text is marked off. -/
inductive TextStyle
  /-- Between quotes on one line. -/
  | quoted
  /-- Between apostrophes on one line, where a backslash means nothing. -/
  | literal
  /-- Between three quotes. -/
  | quotedLines
  /-- Between three apostrophes. -/
  | literalLines
  deriving DecidableEq

def longestRun (mark : Char) (text : List Char) : Nat :=
  (text.foldl (fun (longest, current) c =>
    if c = mark then (max longest (current + 1), current + 1) else (longest, 0)) (0, 0)).1

/-- The first style in which nothing needs a backslash, or else one between quotes. -/
def textStyle (text : List Char) : TextStyle :=
  let control := text.any isControl
  let backslash := text.contains '\\'
  let lines := text.contains '\n'
  if !control && !backslash && longestRun '"' text = 0 && !lines then .quoted
  else if !control && longestRun '\'' text = 0 && !lines then .literal
  else if !control && !backslash && longestRun '"' text ≤ 2 then .quotedLines
  else if !control && longestRun '\'' text ≤ 2 then .literalLines
  else if lines then .quotedLines
  else .quoted

/-- A character other than a quote between quotes, or between three quotes if `lines` says so. -/
def quotedChar (lines : Bool) (c : Char) : List Char :=
  match c with
  | '\x08' => ['\\', 'b']
  | '\t' => ['\\', 't']
  | '\n' => if lines then ['\n'] else ['\\', 'n']
  | '\x0c' => ['\\', 'f']
  | '\r' => ['\\', 'r']
  | '\\' => ['\\', '\\']
  | c => if isControl c then ['\\', 'u'] ++ escapedCode c else [c]

/-- A text between quotes after `run` quotes in a row. Between three quotes two may stand in a
row. -/
def quotedFrom (lines : Bool) (run : Nat) : List Char → List Char
  | [] => []
  | '"' :: rest =>
    if lines && run < 2 then '"' :: quotedFrom lines (run + 1) rest
    else ['\\', '"'] ++ quotedFrom lines 0 rest
  | c :: rest => quotedChar lines c ++ quotedFrom lines 0 rest

/-- A text in the style that suits it. The first of several lines is a line of its own. -/
def renderText (s : String) : String :=
  let text := s.toList
  let start := if text.contains '\n' then "\n" else ""
  match textStyle text with
  | .quoted => "\"" ++ String.ofList (quotedFrom false 0 text) ++ "\""
  | .literal => "'" ++ s ++ "'"
  | .quotedLines => "\"\"\"" ++ start ++ String.ofList (quotedFrom true 0 text) ++ "\"\"\""
  | .literalLines => "'''" ++ start ++ s ++ "'''"

def renderFloat (value : Float) : String := numberNotation.render (.ofFloat value)

def renderBool (value : Bool) : String := if value then "true" else "false"

def line (name value : String) : String := name ++ " = " ++ value ++ "\n"

/-- A setting, on no line or on one or more. A count beyond 63 bits cannot be written. -/
def renderSetting (name : String) : SettingValue → Option String
  | .boolean value => some (line name (renderBool value))
  | .natural value => if value < Nat.pow 2 63 then some (line name (toString value)) else none
  | .single value => some (line name (renderFloat value.toFloat))
  | .triple value =>
    let numbers := value.toList.map fun x => "    " ++ renderFloat x.toFloat ++ ",\n"
    some (line name ("[\n" ++ String.join numbers ++ "]"))
  | .text value => some (line name (renderText value))
  | .optionalText none => some ""
  | .optionalText (some value) => some (line name (renderText value))

def renderTiming (timing : Timing Cost) : String :=
  String.join (timing.namedFields.map fun (name, cost) => line name (renderFloat cost.value))

def render? (s : Settings) : Option String := do
  let settings ← s.namedFields.mapM fun (name, value) => renderSetting name value
  return String.join settings ++ "\n[timing]\n" ++ renderTiming s.timing

end SceneCompiler.Toml
