import SceneCompiler.Interchange.Document

/-!
# Forms

A `Form` describes how the values of a type are written as documents and how they are read back. The
form of a record is put together from its fields, so that a field has one description for both
directions.
-/

namespace SceneCompiler

/-- How the values of a type are written and read. -/
structure Form (α : Type) where
  write : α → Document
  read? : Document → Option α

namespace Form

variable {α β : Type}

/-- The form of another representation of the same values. -/
def via (form : Form α) (pack : α → β) (unpack : β → α) : Form β where
  write b := form.write (unpack b)
  read? document := (form.read? document).map pack

def switch : Form Bool := ⟨.switch, Document.switch?⟩

def text : Form String := ⟨.text, Document.text?⟩

def natural : Form Nat := ⟨.natural, Document.natural?⟩

/-- Natural numbers of a given number of bits. -/
def word (bits : Nat) : Form (BitVec bits) where
  write n := .natural n.toNat
  read? document := document.natural?.bind fun n =>
    if n < Nat.pow 2 bits then some (BitVec.ofNat bits n) else none

def word8 : Form UInt8 := (word 8).via UInt8.ofBitVec UInt8.toBitVec

def word16 : Form UInt16 := (word 16).via UInt16.ofBitVec UInt16.toBitVec

def word32 : Form UInt32 := (word 32).via UInt32.ofBitVec UInt32.toBitVec

def named [DecidableEq α] (names : List (α × String)) : Form α where
  write a := .text (((names.find? (·.1 = a)).map (·.2)).getD "")
  read? document := document.text?.bind fun name => (names.find? (·.2 = name)).map (·.1)

def list (form : Form α) : Form (List α) where
  write as := .list (as.map form.write)
  read? document := document.items?.bind (·.mapM form.read?)

def optional (form : Form α) : Form (Option α) where
  write
    | some a => form.write a
    | none => .null
  read?
    | .null => some none
    | document => (form.read? document).map some

/-- Values of which one is standard, and stands for null. -/
def orElse (form : Form α) (standard : α) : Form α where
  write := form.write
  read?
    | .null => some standard
    | document => form.read? document

end Form

/-- How the values of a type are spread over the fields of a record. -/
structure RecordForm (α : Type) where
  write : α → List (String × Document)
  read? : Document → Option α

namespace RecordForm

variable {α β : Type}

def field (name : String) (form : Form α) : RecordForm α where
  write a := [(name, form.write a)]
  read? document := form.read? (document.field name)

/-- A record with the fields of two records. -/
def and (first : RecordForm α) (second : RecordForm β) : RecordForm (α × β) where
  write pair := first.write pair.1 ++ second.write pair.2
  read? document := do return (← first.read? document, ← second.read? document)

/-- The form of another representation of the same values. -/
def via (form : RecordForm α) (pack : α → β) (unpack : β → α) : Form β where
  write b := .record (form.write (unpack b))
  read?
    | .record fields => (form.read? (.record fields)).map pack
    | _ => none

end RecordForm

end SceneCompiler
