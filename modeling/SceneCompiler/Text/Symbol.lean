/-!
# Symbols

Lists and buffers are named by symbols of the program that is linked with the output: letters and
digits of ASCII and underscores, with no digit at the front. A model's own names can be anything,
so a name is turned into a symbol character by character. Different names can become one symbol.
-/

namespace SceneCompiler.Text

/-- Whether a character may stand in a symbol under its own shape. -/
def isSymbolChar (c : Char) : Bool := c.isAlphanum

/-- A name with an underscore for every character that no symbol can hold, and one in front of a
leading digit. -/
def symbolChars (name : List Char) : List Char :=
  let kept := name.map fun c => if isSymbolChar c then c else '_'
  match kept with
  | c :: _ => if c.isDigit then '_' :: kept else kept
  | [] => []

def symbol (name : String) : String := String.ofList (symbolChars name.toList)

end SceneCompiler.Text
