import SceneCompiler.Number.Numeral

/-!
# Documents

Materials and display lists are exchanged with other programs as documents. A document is what is
left of a value when its type is forgotten: switches, numbers, texts, lists, and records whose
fields have names. A field that is absent and a field that is null mean the same.
-/

namespace SceneCompiler

/-- A value without a type. -/
inductive Document
  | null
  | switch (value : Bool)
  | number (value : Numeral)
  | text (value : String)
  | list (items : List Document)
  | record (fields : List (String × Document))
  deriving Inhabited

namespace Document

def natural (n : Nat) : Document := number { negative := false, significand := n, exponent := 0 }

def integer (n : Int) : Document :=
  number { negative := n < 0, significand := n.natAbs, exponent := 0 }

/-- The field of a record, which is null if it is absent. -/
def field (document : Document) (name : String) : Document :=
  match document with
  | record fields => (fields.lookup name).getD null
  | _ => null

def integer? : Document → Option Int
  | number n =>
    if n.exponent ≠ 0 then none
    else some (if n.negative then -(n.significand : Int) else n.significand)
  | _ => none

def natural? (document : Document) : Option Nat :=
  document.integer?.bind fun n => if n < 0 then none else some n.toNat

def text? : Document → Option String
  | text value => some value
  | _ => none

def switch? : Document → Option Bool
  | switch value => some value
  | _ => none

def items? : Document → Option (List Document)
  | list items => some items
  | _ => none

end Document

end SceneCompiler
