import SceneCompiler.Number.Numeral
import SceneCompiler.Settings.Fields
import SceneCompiler.Text.Reader

/-!
# RON values

The values of RON text, with numbers still as they were written, since how a number is read depends
on what it is for. A vector is a tuple, an optional value is wrapped, and a group of fields may
carry its name.
-/

namespace SceneCompiler.Ron

open SceneCompiler.Text

/-- A value of a text. -/
inductive Value
  /-- One of the words with a meaning of their own, such as a truth value. -/
  | word (name : String)
  | number (text : List Char)
  | text (value : String)
  | character (value : Char)
  /-- An optional value that is there. -/
  | present (value : Value)
  /-- Values between parentheses, after a name if there is one. -/
  | tuple (name : Option String) (values : List Value)
  /-- A group of fields between parentheses, after its name if there is one. -/
  | group (name : Option String) (fields : List (String × Value))
  | list (values : List Value)
  /-- Values under values, between braces. -/
  | map (entries : List (Value × Value))

/-- The value of digits in a base, in which underscores after the first digit mean nothing. -/
def digits? (base : Nat) (text : List Char) : Option Nat :=
  if text.head? = some '_' then none else baseValue? base (text.filter (· ≠ '_'))

/-- A whole number without a sign, in base ten unless it says otherwise. -/
def whole? : List Char → Option Nat
  | '0' :: 'x' :: rest => digits? 16 rest
  | '0' :: 'b' :: rest => digits? 2 rest
  | '0' :: 'o' :: rest => digits? 8 rest
  | rest => digits? 10 rest

def count? (text : List Char) : Option Nat := (whole? text).filter (· < Nat.pow 2 64)

def signed? : List Char → Option Int
  | '+' :: rest => ((whole? rest).filter (· < Nat.pow 2 63)).map fun size => (size : Int)
  | '-' :: rest => ((whole? rest).filter (· ≤ Nat.pow 2 63)).map fun size => -(size : Int)
  | _ => none

def numeral? (text : List Char) : Option Numeral :=
  let (negative, rest) := Numeral.sign text
  (Numeral.unsigned? rest).map fun n => { n with negative }

/-- What a number can be that is no finite one. -/
inductive Special | infinite | minusInfinite | undefined
  deriving DecidableEq

/-- The words for numbers that are no finite ones. -/
def special? (text : List Char) : Option Special :=
  match Numeral.sign text with
  | (negative, ['i', 'n', 'f']) => some (if negative then .minusInfinite else .infinite)
  | (_, ['N', 'a', 'N']) => some .undefined
  | _ => none

/-- Whether a run of characters is a number of any kind. Only whole numbers in base ten may be too
large for 64 bits. -/
def isNumber (text : List Char) : Bool :=
  (special? text).isSome || (numeral? text).isSome || (count? text).isSome || (signed? text).isSome

def natural? : Value → Option Nat
  | .number text => count? text
  | _ => none

def number? {α : Type} (ofNumeral : Numeral → α) (ofSpecial : Special → α) : Value → Option α
  | .number text => ((special? text).map ofSpecial).or ((numeral? text).map ofNumeral)
  | .word name => (special? name.toList).map ofSpecial
  | _ => none

def single? : Value → Option Float32 :=
  number? Numeral.toFloat32 fun
    | .infinite => 1.0 / 0.0
    | .minusInfinite => -1.0 / 0.0
    | .undefined => 0.0 / 0.0

def double? : Value → Option Float :=
  number? Numeral.toFloat fun
    | .infinite => 1.0 / 0.0
    | .minusInfinite => -1.0 / 0.0
    | .undefined => 0.0 / 0.0

def reader : ValueReader Value where
  boolean?
    | .word "true" => some true
    | .word "false" => some false
    | _ => none
  natural? := natural?
  single? := single?
  double? := double?
  triple?
    | .tuple none [x, y, z] => do return ⟨← single? x, ← single? y, ← single? z⟩
    | _ => none
  text?
    | .text value => some value
    | _ => none
  optionalText?
    | .word "None" => some none
    | .present (.text value) => some (some value)
    | _ => none
  fields? group
    | .group name fields => if name.getD group.kind = group.kind then some fields else none
    | _ => none

end SceneCompiler.Ron
