/-!
# Decimal numerals

A numeral in text is a sign, digits with at most one point among them, and a power of ten. `Numeral`
is what was read, and its value in either precision is the nearest one, computed in one rounding.
-/

namespace SceneCompiler

/-- The decimal `± significand · 10 ^ exponent` as it was written. -/
structure Numeral where
  negative : Bool
  significand : Nat
  exponent : Int
  deriving DecidableEq, Repr

namespace Numeral

/-- The longest run of characters of a class, and the rest. -/
def run (p : Char → Bool) (text : List Char) : List Char × List Char :=
  (text.takeWhile p, text.dropWhile p)

def digitsValue (digits : List Char) : Nat :=
  digits.foldl (fun value c => 10 * value + (c.toNat - '0'.toNat)) 0

/-- A sign at the front: whether it is a minus sign, and the rest. -/
def sign : List Char → Bool × List Char
  | '-' :: rest => (true, rest)
  | '+' :: rest => (false, rest)
  | text => (false, text)

/-- The power of ten at the end of a numeral: nothing, or the letter `e` and a signed integer. -/
def power? : List Char → Option Int
  | [] => some 0
  | c :: rest =>
    if c = 'e' || c = 'E' then
      let (negative, digits) := sign rest
      if digits.isEmpty || !digits.all Char.isDigit then none
      else some (if negative then -(digitsValue digits : Int) else digitsValue digits)
    else none

/-- An unsigned numeral, which has a digit on at least one side of its point. -/
def unsigned? (text : List Char) : Option Numeral :=
  let (whole, rest) := run Char.isDigit text
  let (fraction, rest) := match rest with
    | '.' :: tail => run Char.isDigit tail
    | _ => ([], rest)
  if whole.isEmpty && fraction.isEmpty then none
  else (power? rest).map fun power =>
    { negative := false
      significand := digitsValue (whole ++ fraction)
      exponent := power - fraction.length }

/-- The power of ten at the leading digit, or a bound on it from above. -/
def top (n : Numeral) : Int := (n.significand.log2 / 3 + 1 : Nat) + n.exponent

/-- A bound from below on the power of ten at the leading digit. -/
def bottom (n : Numeral) : Int := (n.significand.log2 / 4 : Nat) + n.exponent

/-- The magnitude, rounded by `read` unless it is certainly too small or too large for any
precision. -/
def magnitude {α : Type} (n : Numeral) (zero infinite : α) (read : Nat → Bool → Nat → α) : α :=
  if n.significand = 0 || n.top < -400 then zero
  else if 400 < n.bottom then infinite
  else read n.significand (n.exponent < 0) n.exponent.natAbs

def toFloat32 (n : Numeral) : Float32 :=
  let size := n.magnitude 0.0 (1.0 / 0.0) Float32.ofScientific
  if n.negative then -size else size

def toFloat (n : Numeral) : Float :=
  let size := n.magnitude 0.0 (1.0 / 0.0) Float.ofScientific
  if n.negative then -size else size

end Numeral

def lowered (text : List Char) : List Char := text.map Char.toLower

/-- A single precision value written as a signed numeral, or as one of the words `inf`, `infinity`
and `nan` in any case. -/
def readFloat32? (text : List Char) : Option Float32 :=
  let (negative, rest) := Numeral.sign text
  let word := String.ofList (lowered rest)
  if word = "inf" || word = "infinity" then
    some (if negative then -(1.0 / 0.0) else 1.0 / 0.0)
  else if word = "nan" then some (0.0 / 0.0)
  else (Numeral.unsigned? rest).map fun n => { n with negative }.toFloat32

end SceneCompiler
