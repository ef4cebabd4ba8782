import SceneCompiler.Settings.RonValue

/-!
# Reading RON

A text is a group of settings, after lines that switch extensions on. Blanks and comments may stand
between any two signs; comments between slashes and stars can hold such comments. Values that no
setting is called for are read as well, since the text around them has to make sense, but only so
many can be inside each other. Readers that call each other are bounded by the length of the text.
-/

namespace SceneCompiler.Ron

open SceneCompiler.Text

/-! ### Blanks and comments -/

/-- Drops the rest of a comment that is `depth + 1` comments deep. -/
def skipBlock : Nat → List Char → Option (List Char)
  | _, [] => none
  | 0, '*' :: '/' :: rest => some rest
  | depth + 1, '*' :: '/' :: rest => skipBlock depth rest
  | depth, '/' :: '*' :: rest => skipBlock (depth + 1) rest
  | depth, _ :: rest => skipBlock depth rest

def skip? : Nat → List Char → Option (List Char)
  | 0, text => some text
  | fuel + 1, text =>
    match text with
    | '/' :: '/' :: rest => skip? fuel (rest.dropWhile (· ≠ '\n'))
    | '/' :: '*' :: rest => (skipBlock 0 rest).bind (skip? fuel)
    | c :: rest =>
      if c = ' ' || c = '\t' || c = '\n' || c = '\r' then skip? fuel rest else some text
    | [] => some []

def skipBlanks? (text : List Char) : Option (List Char) := skip? text.length text

/-! ### Words and texts -/

def startsWord (c : Char) : Bool := c.isAlpha || c = '_'

/-- Whether a character may go on in a word. -/
def isWordChar (c : Char) : Bool := c.isAlphanum || c = '_'

/-- Whether a character may stand in a word that is marked as one, or in a number. -/
def isMarkedChar (c : Char) : Bool := isWordChar c || c = '.' || c = '+' || c = '-'

/-- The longest run of characters of a class, if there are any. -/
def run? (p : Char → Bool) (text : List Char) : Option (List Char × List Char) :=
  let (front, rest) := Numeral.run p text
  if front.isEmpty then none else some (front, rest)

/-- A name, which may be marked as one and can then hold more than letters, digits and underscores.
Otherwise nothing of that kind may follow it. -/
def name? : Reader String
  | 'r' :: '"' :: _ => none
  | 'r' :: '#' :: rest =>
    (run? isMarkedChar rest).map fun (name, rest) => (String.ofList name, rest)
  | text => do
    let (name, rest) ← run? isWordChar text
    if name.head?.any startsWord && !rest.head?.any isMarkedChar then
      return (String.ofList name, rest)
    else none

def escape : Reader Char
  | '\'' :: rest => some ('\'', rest)
  | '"' :: rest => some ('"', rest)
  | '\\' :: rest => some ('\\', rest)
  | 'n' :: rest => some ('\n', rest)
  | 'r' :: rest => some ('\r', rest)
  | 't' :: rest => some ('\t', rest)
  | '0' :: rest => some ('\x00', rest)
  | 'x' :: rest => codePoint 2 rest
  | 'u' :: '{' :: rest => do
    let digits := rest.takeWhile (· ≠ '}')
    if 6 < digits.length then none
    let rest ← expect "\x7d" (rest.dropWhile (· ≠ '}'))
    return (← scalar? (← baseValue? 16 digits), rest)
  | _ => none

def quotedText : Nat → Reader (List Char)
  | 0, _ => none
  | _ + 1, '"' :: rest => some ([], rest)
  | fuel + 1, '\\' :: rest => do
    let (c, rest) ← escape rest
    let (tail, rest) ← quotedText fuel rest
    return (c :: tail, rest)
  | fuel + 1, c :: rest => do
    let (tail, rest) ← quotedText fuel rest
    return (c :: tail, rest)
  | _, [] => none

/-- The rest of a text that holds everything as it is, up to a quote and some number signs. -/
def rawText (ending : List Char) : List Char → Option (List Char × List Char)
  | [] => none
  | c :: rest =>
    if ending.isPrefixOf (c :: rest) then some ([], (c :: rest).drop ending.length)
    else (rawText ending rest).map fun (tail, rest) => (c :: tail, rest)

def rawMarked? (text : List Char) : Option (List Char × List Char) :=
  let signs := text.takeWhile (· = '#')
  match text.dropWhile (· = '#') with
  | '"' :: rest => rawText ('"' :: signs) rest
  | _ => none

/-- A character between apostrophes, after the first of them. -/
def quotedChar? : Reader Char
  | '\\' :: rest => do
    let (c, rest) ← escape rest
    return (c, ← expect "'" rest)
  | '\'' :: _ => none
  | c :: '\'' :: rest => some (c, rest)
  | _ => none

/-! ### Values -/

def plainWords : List String := ["true", "false", "None", "inf", "NaN"]

/-- The number of steps down that values inside each other can take. The way into brackets is one
step, and the way from there to a value is another one. -/
def stepLimit : Nat := 128

def step? (steps : Nat) : Option Nat := if steps = 0 then none else some (steps - 1)

/-- Drops a comma if there is one, and blanks and comments around it. -/
def skipComma? (text : List Char) : Option (List Char) := do
  match ← skipBlanks? text with
  | ',' :: rest => skipBlanks? rest
  | rest => return rest

/-- Drops what separates a value from the next one: a comma, unless a closing sign follows. -/
def separate? (closing : Char) (text : List Char) : Option (List Char) := do
  match ← skipBlanks? text with
  | ',' :: rest => skipBlanks? rest
  | rest => if rest.head? = some closing then return rest else none

def numeric : Reader Value := fun text =>
  let (front, rest) := Numeral.run isMarkedChar text
  if isNumber front then some (.number front, rest) else none

/-- The name of a group, which may be left out. -/
def groupName? (text : List Char) : Option (Option String × List Char) :=
  if text.head?.any isWordChar then (name? text).map fun (name, rest) => (some name, rest)
  else some (none, text)

section Values

variable (bareOptions : Bool)

mutual

def value : Nat → Nat → Reader Value
  | 0, _, _ => none
  | fuel + 1, steps, text =>
    match text with
    | '"' :: rest =>
      (quotedText (rest.length + 1) rest).map fun (kept, rest) => (.text (String.ofList kept), rest)
    | '\'' :: rest => (quotedChar? rest).map fun (c, rest) => (.character c, rest)
    | '(' :: ')' :: rest => some (.tuple none [], rest)
    | '(' :: rest => do members fuel steps none (← skipBlanks? rest)
    | '[' :: rest => do
      let (values, rest) ← elements fuel (← step? steps) ']' (← skipBlanks? rest)
      return (.list values, rest)
    | '{' :: rest => do
      let (pairs, rest) ← entries fuel (← step? steps) (← skipBlanks? rest)
      return (.map pairs, rest)
    | c :: _ => if startsWord c then worded fuel steps text else numeric text
    | [] => none

/-- A raw text, a word with a meaning of its own, or a name with what belongs to it. -/
def worded : Nat → Nat → Reader Value
  | 0, _, _ => none
  | fuel + 1, steps, text =>
    let (front, rest) := Numeral.run isWordChar text
    let word := String.ofList front
    if plainWords.contains word then some (.word word, rest)
    else if word = "Some" then optionalValue fuel steps rest
    else
      match name? text with
      | some (name, rest) => do
        match ← skipBlanks? rest with
        | '(' :: rest => members fuel steps (some name) (← skipBlanks? rest)
        | rest => return (.tuple (some name) [], rest)
      | none =>
        if text.head? = some 'r' then
          (rawMarked? text.tail).map fun (kept, rest) => (.text (String.ofList kept), rest)
        else none

/-- The rest of an optional value that is there. It stands between parentheses, unless optional
values may be bare. -/
def optionalValue : Nat → Nat → Reader Value
  | 0, _, _ => none
  | fuel + 1, steps, text => do
    match ← skipBlanks? text with
    | '(' :: rest =>
      let (found, rest) ← value fuel (← step? steps) (← skipBlanks? rest)
      return (.present found, ← expect ")" (← skipComma? rest))
    | rest => bareValue fuel steps rest

/-- An optional value that is there without a sign of it, which must be allowed. -/
def bareValue : Nat → Nat → Reader Value
  | 0, _, _ => none
  | fuel + 1, steps, text => do
    if !bareOptions then none
    let (found, rest) ← value fuel (← step? steps) text
    return (.present found, rest)

/-- The rest of values between parentheses: a group if a colon follows the first name, and a tuple
otherwise. -/
def members : Nat → Nat → Option String → Reader Value
  | 0, _, _, _ => none
  | fuel + 1, steps, name, text => do
    let inner ← step? steps
    match (name? text).bind fun (_, rest) => skipBlanks? rest with
    | some (':' :: _) =>
      let (found, rest) ← fields fuel inner .unknown text
      return (.group name found, rest)
    | _ =>
      let (values, rest) ← elements fuel inner ')' text
      return (.tuple name values, rest)

/-- The rest of some values up to a closing sign. -/
def elements : Nat → Nat → Char → Reader (List Value)
  | 0, _, _, _ => none
  | fuel + 1, steps, closing, text =>
    if text.head? = some closing then some ([], text.tail)
    else do
      let (first, rest) ← value fuel (← step? steps) text
      let (others, rest) ← elements fuel steps closing (← separate? closing rest)
      return (first :: others, rest)

/-- The rest of some values under values up to a closing brace. -/
def entries : Nat → Nat → Reader (List (Value × Value))
  | 0, _, _ => none
  | _ + 1, _, '}' :: rest => some ([], rest)
  | fuel + 1, steps, text => do
    let inner ← step? steps
    let (key, rest) ← value fuel inner text
    let rest ← skipBlanks? (← expect ":" (← skipBlanks? rest))
    let (found, rest) ← value fuel inner rest
    let (others, rest) ← entries fuel steps (← separate? '}' rest)
    return ((key, found) :: others, rest)

/-- The rest of the fields of a group up to a closing parenthesis. -/
def fields : Nat → Nat → FieldGroup → Reader (List (String × Value))
  | 0, _, _, _ => none
  | _ + 1, _, _, ')' :: rest => some ([], rest)
  | fuel + 1, steps, expected, text => do
    let (name, rest) ← name? text
    let rest ← skipBlanks? (← expect ":" (← skipBlanks? rest))
    let (found, rest) ← fieldValue fuel (← step? steps) expected name rest
    let (others, rest) ← fields fuel steps expected (← separate? ')' rest)
    return ((name, found) :: others, rest)

/-- The value of a field. That of an optional field may start with the word for a value that is
there even if more letters follow. -/
def fieldValue : Nat → Nat → FieldGroup → String → Reader Value
  | 0, _, _, _, _ => none
  | fuel + 1, steps, expected, name, text =>
    if expected.inner.contains name then group fuel steps .unknown text
    else if expected.optional.contains name then
      match expect "None" text, expect "Some" text with
      | some rest, _ => some (.word "None", rest)
      | none, some rest => optionalValue fuel steps rest
      | none, none => bareValue fuel steps text
    else value fuel steps text

/-- A group of fields, after its name if there is one. -/
def group : Nat → Nat → FieldGroup → Reader Value
  | 0, _, _, _ => none
  | fuel + 1, steps, expected, text => do
    let (name, rest) ← groupName? text
    let rest ← skipBlanks? (← expect "(" (← skipBlanks? rest))
    let (found, rest) ← fields fuel (← step? steps) expected rest
    return (.group name found, rest)

end

end Values

/-! ### Extensions -/

def expectAll : List String → List Char → Option (List Char)
  | [], text => some text
  | sign :: others, text => do expectAll others (← expect sign (← skipBlanks? text))

def extensions : List String := ["implicit_some", "unwrap_newtypes", "unwrap_variant_newtypes"]

/-- The names of the extensions that a line switches on. -/
def extensionNames : Nat → Reader (List String)
  | 0, _ => none
  | fuel + 1, text => do
    let (name, rest) ← name? (← skipBlanks? text)
    if !extensions.contains name then none
    match ← skipBlanks? rest with
    | ',' :: rest =>
      match ← skipBlanks? rest with
      | ')' :: rest => return ([name], ')' :: rest)
      | rest =>
        let (others, rest) ← extensionNames fuel rest
        return (name :: others, rest)
    | rest => return ([name], rest)

/-- All extensions that are switched on at the start of a text. -/
def header : Nat → Reader (List String)
  | 0, _ => none
  | fuel + 1, text => do
    match ← skipBlanks? text with
    | '#' :: rest =>
      let rest ← expectAll ["!", "[", "enable", "("] rest
      let (names, rest) ← extensionNames rest.length rest
      let (others, rest) ← header fuel (← expectAll [")", "]"] rest)
      return (names ++ others, rest)
    | rest => return ([], rest)

/-- The group of settings that a text holds. -/
def read? (expected : FieldGroup) (text : String) : Option Value := do
  let chars := text.toList
  let (switched, rest) ← header (chars.length + 1) chars
  let (found, rest) ←
    group (switched.contains "implicit_some") (5 * chars.length + 5) stepLimit expected rest
  if (← skipBlanks? rest).isEmpty then return found else none

end SceneCompiler.Ron
