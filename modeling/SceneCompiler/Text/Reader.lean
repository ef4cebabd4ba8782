/-!
# Readers

A reader takes what it needs from the front of a text and gives back the rest, or it fails. The
helpers here are what the file formats of the settings have in common.
-/

namespace SceneCompiler.Text

/-- Takes something from the front of a text. -/
abbrev Reader (α : Type) := List Char → Option (α × List Char)

def expect (wanted : String) (text : List Char) : Option (List Char) :=
  if wanted.toList.isPrefixOf text then some (text.drop wanted.length) else none

def hexValue? (c : Char) : Option Nat :=
  if c.isDigit then some (c.toNat - '0'.toNat)
  else if 'a' ≤ c && c ≤ 'f' then some (c.toNat - 'a'.toNat + 10)
  else if 'A' ≤ c && c ≤ 'F' then some (c.toNat - 'A'.toNat + 10)
  else none

/-- The value of some digits in a base, of which there has to be at least one. -/
def baseValue? (base : Nat) (digits : List Char) : Option Nat :=
  if digits.isEmpty then none
  else digits.foldlM (fun value c => do
    let digit ← hexValue? c
    if digit < base then some (base * value + digit) else none) 0

def scalar? (code : Nat) : Option Char := if code.isValidChar then some (Char.ofNat code) else none

/-- A character given by a fixed number of hexadecimal digits. -/
def codePoint (count : Nat) : Reader Char := fun text => do
  let digits := text.take count
  if digits.length < count then none
  let code ← baseValue? 16 digits
  return (← scalar? code, text.drop count)

end SceneCompiler.Text
