import SceneCompiler.Number.Numeral
import SceneCompiler.Settings.TomlValue
import SceneCompiler.Text.Reader

/-!
# Reading TOML

A document is read line by line: blank lines and comments, headers that open a table, and keys with
values. Values can stand on several lines, and they can hold values. Readers that call each other
are bounded by the length of the text.
-/

namespace SceneCompiler.Toml

open SceneCompiler.Text

/-! ### Blanks and comments -/

def skipSpaces (text : List Char) : List Char := text.dropWhile fun c => c = ' ' || c = '\t'

/-- Whether a character may stand in a comment. -/
def isCommentChar (c : Char) : Bool := c = '\t' || (' ' ≤ c && c ≠ '\x7f')

def skipComment : List Char → List Char
  | '#' :: rest => rest.dropWhile isCommentChar
  | text => text

def newline? : List Char → Option (List Char)
  | '\n' :: rest => some rest
  | '\r' :: '\n' :: rest => some rest
  | _ => none

/-- Drops what may follow on a line, and the end of the line or text. -/
def endLine? (text : List Char) : Option (List Char) :=
  match skipComment (skipSpaces text) with
  | [] => some []
  | rest => newline? rest

/-- Drops blanks, comments and ends of lines. -/
def skipLines : Nat → List Char → List Char
  | 0, text => text
  | fuel + 1, text =>
    let rest := skipComment (skipSpaces text)
    match newline? rest with
    | some rest => skipLines fuel rest
    | none => rest

/-! ### Texts -/

def escape : Reader Char
  | 'b' :: rest => some ('\x08', rest)
  | 't' :: rest => some ('\t', rest)
  | 'n' :: rest => some ('\n', rest)
  | 'f' :: rest => some ('\x0c', rest)
  | 'r' :: rest => some ('\r', rest)
  | '"' :: rest => some ('"', rest)
  | '\\' :: rest => some ('\\', rest)
  | 'u' :: rest => codePoint 4 rest
  | 'U' :: rest => codePoint 8 rest
  | _ => none

/-- The rest of a text between quotes, which ends on its line. -/
def basicText : Nat → Reader (List Char)
  | 0, _ => none
  | _ + 1, '"' :: rest => some ([], rest)
  | fuel + 1, '\\' :: rest => do
    let (c, rest) ← escape rest
    let (tail, rest) ← basicText fuel rest
    return (c :: tail, rest)
  | fuel + 1, c :: rest => do
    if !isCommentChar c then none
    let (tail, rest) ← basicText fuel rest
    return (c :: tail, rest)
  | _, [] => none

/-- The rest of a text between apostrophes, which holds everything as it is. -/
def literalText (text : List Char) : Option (List Char × List Char) :=
  match text.dropWhile fun c => c ≠ '\'' && isCommentChar c with
  | '\'' :: rest => some (text.takeWhile (fun c => c ≠ '\'' && isCommentChar c), rest)
  | _ => none

/-- Drops the blanks and ends of lines after a backslash at the end of a line. -/
def skipLineEnding : Nat → List Char → List Char
  | 0, text => text
  | fuel + 1, text =>
    let rest := skipSpaces text
    match newline? rest with
    | some rest => skipLineEnding fuel rest
    | none => rest

/-- The quotes at the front, of which up to two before the last three belong to the text. -/
def closingQuotes (quote : Char) (text : List Char) : Option (List Char × List Char) :=
  let count := (text.takeWhile (· = quote)).length
  if 3 ≤ count && count ≤ 5 then some (List.replicate (count - 3) quote, text.drop count) else none

/-- The rest of a text between three quotes. -/
def multilineText : Nat → Reader (List Char)
  | 0, _ => none
  | fuel + 1, text =>
    match text with
    | [] => none
    | '"' :: tail =>
      match closingQuotes '"' text with
      | some closed => some closed
      | none => do
        if (text.takeWhile (· = '"')).length > 5 then none
        let (kept, rest) ← multilineText fuel tail
        return ('"' :: kept, rest)
    | '\\' :: tail =>
      let blank := skipSpaces tail
      if (newline? blank).isSome then multilineText fuel (skipLineEnding fuel blank)
      else do
        let (c, rest) ← escape tail
        let (kept, rest) ← multilineText fuel rest
        return (c :: kept, rest)
    | c :: tail =>
      match newline? text with
      | some rest => do
        let (kept, rest) ← multilineText fuel rest
        return ('\n' :: kept, rest)
      | none => do
        if !isCommentChar c then none
        let (kept, rest) ← multilineText fuel tail
        return (c :: kept, rest)

/-- The rest of a text between three apostrophes. -/
def multilineLiteral : Nat → Reader (List Char)
  | 0, _ => none
  | fuel + 1, text =>
    match text with
    | [] => none
    | c :: tail =>
      match if c = '\'' then closingQuotes '\'' text else none with
      | some closed => some closed
      | none =>
        if c = '\'' && (text.takeWhile (· = '\'')).length > 5 then none
        else
          match newline? text with
          | some rest => do
            let (kept, rest) ← multilineLiteral fuel rest
            return ('\n' :: kept, rest)
          | none => do
            if !isCommentChar c then none
            let (kept, rest) ← multilineLiteral fuel tail
            return (c :: kept, rest)

/-- Drops one end of line right after three quotes. -/
def skipFirstNewline (text : List Char) : List Char := (newline? text).getD text

def anyText (fuel : Nat) : Reader (List Char)
  | '"' :: '"' :: '"' :: rest => multilineText fuel (skipFirstNewline rest)
  | '\'' :: '\'' :: '\'' :: rest => multilineLiteral fuel (skipFirstNewline rest)
  | '"' :: rest => basicText fuel rest
  | '\'' :: rest => literalText rest
  | _ => none

/-! ### Keys -/

/-- Whether a character may stand in a key without quotes. -/
def isBareKeyChar (c : Char) : Bool := c.isAlphanum || c = '_' || c = '-'

def keyPart (fuel : Nat) : Reader String
  | '"' :: rest => (basicText fuel rest).map fun (kept, rest) => (String.ofList kept, rest)
  | '\'' :: rest => (literalText rest).map fun (kept, rest) => (String.ofList kept, rest)
  | text =>
    let part := text.takeWhile isBareKeyChar
    if part.isEmpty then none
    else some (String.ofList part, text.dropWhile isBareKeyChar)

/-- A key has fewer parts than this, and fewer values than this are inside each other. -/
def depthLimit : Nat := 80

/-- Some parts with points between them, and blanks around all of it. -/
def keyParts : Nat → Reader (List String)
  | 0, _ => none
  | fuel + 1, text => do
    let (part, rest) ← keyPart fuel (skipSpaces text)
    match skipSpaces rest with
    | '.' :: rest =>
      let (parts, rest) ← keyParts fuel rest
      return (part :: parts, rest)
    | rest => return ([part], rest)

/-- A key of one or more parts, but not too many. -/
def key (fuel : Nat) : Reader (List String) := fun text =>
  (keyParts fuel text).filter fun found => found.1.length < depthLimit

/-! ### Numbers and dates -/

/-- The digits of a number, in which single underscores between digits mean nothing. -/
def plainDigits? (isDigit : Char → Bool) : List Char → Option (List Char)
  | [] => none
  | [c] => if isDigit c then some [c] else none
  | c :: '_' :: rest => do
    if !isDigit c then none
    return c :: (← plainDigits? isDigit rest)
  | c :: rest => do
    if !isDigit c then none
    return c :: (← plainDigits? isDigit rest)

def noLeadingZero (digits : List Char) : Bool :=
  match digits with
  | '0' :: _ :: _ => false
  | _ => true

def int64? (value : Int) : Option Value :=
  if -9223372036854775808 ≤ value && value ≤ 9223372036854775807 then some (.integer value)
  else none

/-- An integer without a sign in a base other than ten. -/
def basedInteger? (word : List Char) : Option Value :=
  let value? (base : Nat) (digits : List Char) : Option Value := do
    let digits ← plainDigits? (fun c => (hexValue? c).isSome) digits
    int64? (← baseValue? base digits)
  match word with
  | '0' :: 'x' :: digits => value? 16 digits
  | '0' :: 'o' :: digits => value? 8 digits
  | '0' :: 'b' :: digits => value? 2 digits
  | _ => none

def decimalInteger? (word : List Char) : Option Value := do
  let (negative, digits) := Numeral.sign word
  let digits ← plainDigits? Char.isDigit digits
  if !noLeadingZero digits then none
  let size := Numeral.digitsValue digits
  int64? (if negative then -(size : Int) else size)

/-- The digits after a point, which may be missing together with it. -/
def fraction? : List Char → Option (List Char × List Char)
  | '.' :: rest =>
    let isPart (c : Char) : Bool := c.isDigit || c = '_'
    (plainDigits? Char.isDigit (rest.takeWhile isPart)).map (·, rest.dropWhile isPart)
  | rest => some ([], rest)

/-- The power of ten at the end of a number, which may be missing. -/
def power? : List Char → Option Int
  | [] => some 0
  | c :: rest => do
    if c ≠ 'e' && c ≠ 'E' then none
    let (negative, digits) := Numeral.sign rest
    let size := Numeral.digitsValue (← plainDigits? Char.isDigit digits)
    return if negative then -(size : Int) else size

/-- A number with a point or a power of ten, or one of the values that are no finite numbers. A
number that is too large to be told from infinity is refused, unless it is negative. -/
def float? (word : List Char) : Option Value := do
  let (negative, size) := Numeral.sign word
  if size = "inf".toList then return .float (if negative then -(1.0 / 0.0) else 1.0 / 0.0)
  if size = "nan".toList then return .float (0.0 / 0.0)
  let isPart (c : Char) : Bool := c.isDigit || c = '_'
  let whole ← plainDigits? Char.isDigit (size.takeWhile isPart)
  if !noLeadingZero whole then none
  let rest := size.dropWhile isPart
  if rest.isEmpty then none
  let (fraction, rest) ← fraction? rest
  let n : Numeral :=
    { negative
      significand := Numeral.digitsValue (whole ++ fraction)
      exponent := (← power? rest) - fraction.length }
  let value := n.toFloat
  if value == 1.0 / 0.0 then none
  return .float value

def twoDigits? (low high : Nat) : List Char → Option (List Char)
  | a :: b :: rest =>
    let value := Numeral.digitsValue [a, b]
    if a.isDigit && b.isDigit && low ≤ value && value ≤ high then some rest else none
  | _ => none

/-- A time of day up to the end of its seconds. -/
def time? (word : List Char) : Option (List Char) := do
  let rest ← expect ":" (← twoDigits? 0 23 word)
  let rest ← expect ":" (← twoDigits? 0 59 rest)
  let rest ← twoDigits? 0 60 rest
  match rest with
  | '.' :: c :: tail => if c.isDigit then some (tail.dropWhile Char.isDigit) else none
  | _ => some rest

def daysOfMonth (year month : Nat) : Nat :=
  if month = 2 then
    if year % 4 = 0 && (year % 100 ≠ 0 || year % 400 = 0) then 29 else 28
  else if [4, 6, 9, 11].contains month then 30
  else 31

def date? (word : List Char) : Option (List Char) := do
  let year := word.take 4
  if year.length < 4 || !year.all Char.isDigit then none
  let month ← expect "-" (word.drop 4)
  let day ← expect "-" (← twoDigits? 1 12 month)
  let days := daysOfMonth (Numeral.digitsValue year) (Numeral.digitsValue (month.take 2))
  twoDigits? 1 days day

/-- The offset of a time from universal time, which may be missing. -/
def offset? : List Char → Option (List Char)
  | [] => some []
  | ['Z'] => some []
  | ['z'] => some []
  | c :: rest => do
    if c ≠ '+' && c ≠ '-' then none
    twoDigits? 0 59 (← expect ":" (← twoDigits? 0 23 rest))

/-- Whether a word is a date, a time or both. -/
def isMoment (word : List Char) : Bool :=
  match date? word with
  | some [] => true
  | some (c :: rest) =>
    (c = 'T' || c = 't' || c = ' ') && ((time? rest).bind offset?) = some []
  | none => time? word = some []

/-- Whether a character may stand in a number, a date or one of the words for truth values. -/
def isWordChar (c : Char) : Bool :=
  c.isAlphanum || c = '_' || c = '-' || c = '+' || c = '.' || c = ':'

/-- The word at the front. A date goes on after a blank if a time follows. -/
def word (text : List Char) : List Char × List Char :=
  let first := text.takeWhile isWordChar
  let rest := text.dropWhile isWordChar
  match date? first, rest with
  | some [], ' ' :: c :: tail =>
    let next := c :: tail
    if c.isDigit then (first ++ ' ' :: next.takeWhile isWordChar, next.dropWhile isWordChar)
    else (first, rest)
  | _, _ => (first, rest)

def wordValue? (word : List Char) : Option Value :=
  if word = "true".toList then some (.boolean true)
  else if word = "false".toList then some (.boolean false)
  else (((basedInteger? word).or (decimalInteger? word)).or (float? word)).or
    (if isMoment word then some .moment else none)

/-! ### Values -/

mutual

/-- A value. It may hold values of which fewer than `room` are inside each other. -/
def value : Nat → Nat → Reader Value
  | 0, _, _ => none
  | fuel + 1, room, text =>
    match text with
    | '[' :: rest => if room ≤ 1 then none else elements fuel (room - 1) (skipLines fuel rest)
    | '{' :: rest =>
      if room ≤ 1 then none
      else
        match skipSpaces rest with
        | '}' :: rest => some (.table .inline [], rest)
        | rest => entries fuel (room - 1) [] rest
    | '"' :: _ => (anyText fuel text).map fun (kept, rest) => (.text (String.ofList kept), rest)
    | '\'' :: _ => (anyText fuel text).map fun (kept, rest) => (.text (String.ofList kept), rest)
    | _ =>
      let (front, rest) := word text
      (wordValue? front).map (·, rest)

def elements : Nat → Nat → Reader Value
  | 0, _, _ => none
  | _ + 1, _, ']' :: rest => some (.array [], rest)
  | fuel + 1, room, text => do
    let (first, rest) ← value fuel room text
    match skipLines fuel rest with
    | ']' :: rest => return (.array [first], rest)
    | ',' :: rest =>
      match ← elements fuel room (skipLines fuel rest) with
      | (.array others, rest) => return (.array (first :: others), rest)
      | _ => none
    | _ => none

def entries : Nat → Nat → Table → Reader Value
  | 0, _, _, _ => none
  | fuel + 1, room, table, text => do
    let (keys, rest) ← key fuel text
    let rest ← expect "=" rest
    let (found, rest) ← value fuel room (skipSpaces rest)
    let grown ← Table.define found keys true table
    match skipSpaces rest with
    | '}' :: rest => return (.table .inline grown, rest)
    | ',' :: rest => entries fuel room grown rest
    | _ => none

end

/-! ### Documents -/

/-- The lines of a document from some point on, which belong to the table at a path. -/
def lines : Nat → Table → List String → List Char → Option Table
  | 0, _, _, _ => none
  | fuel + 1, table, path, text =>
    match skipLines fuel text with
    | [] => some table
    | '[' :: '[' :: rest => do
      let (keys, rest) ← key fuel rest
      let rest ← endLine? (← expect "]]" rest)
      lines fuel (← Table.within Table.addTable keys table) keys rest
    | '[' :: rest => do
      let (keys, rest) ← key fuel rest
      let rest ← endLine? (← expect "]" rest)
      lines fuel (← Table.within Table.openTable keys table) keys rest
    | rest => do
      let (keys, rest) ← key fuel rest
      let rest ← expect "=" rest
      let (found, rest) ← value fuel depthLimit (skipSpaces rest)
      lines fuel (← Table.defineAt keys found path table) path (← endLine? rest)

/-- A document without the mark of byte order that may stand in front of it. -/
def withoutMark : List Char → List Char
  | c :: rest => if c.toNat = 0xFEFF then rest else c :: rest
  | [] => []

def read? (text : String) : Option Table :=
  let chars := withoutMark text.toList
  lines (chars.length + 2) [] [] chars

end SceneCompiler.Toml
