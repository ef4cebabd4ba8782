import SceneCompiler.Settings.Fields

/-!
# TOML documents

A TOML document is a table of values under keys. Tables can be written in four ways, and how a
table was written decides how it may be extended later: a table between braces never, a table that
was only named on the way to another one by a header of its own, once.

A group of settings is a table, or an array of the settings in their order, of which the last ones
may be missing and what is left over counts for nothing.
-/

namespace SceneCompiler.Toml

/-- How a table came into being. -/
inductive Origin
  /-- It was only named on the way to another table in a header. -/
  | passed
  /-- It has a header. -/
  | header
  /-- It was named by the first parts of a dotted key. -/
  | dotted
  /-- It was written between braces. -/
  | inline
  deriving DecidableEq

/-- A value of a document. -/
inductive Value
  | boolean (value : Bool)
  | integer (value : Int)
  | float (value : Float)
  | text (value : String)
  /-- A date or time. No setting is one, and as a group of settings it names none. -/
  | moment
  | array (values : List Value)
  | table (origin : Origin) (entries : List (String × Value))
  /-- Tables that were added one by one by headers, the last one open for more entries. -/
  | tables (all : List (List (String × Value)))

/-- The entries of a table. -/
abbrev Table := List (String × Value)

def Table.put (table : Table) (key : String) (value : Value) : Table :=
  if table.any (·.1 = key) then
    table.map fun entry => if entry.1 = key then (key, value) else entry
  else table ++ [(key, value)]

/-- Puts a value under the last of some keys, through the tables that the others name. The way leads
through tables that have no header of their own, and through the last of several that were added by
headers; a table that is missing is made. The value itself goes into the open table or into one that
dotted keys made, under a key that is not there yet. -/
def Table.define (value : Value) : List String → Bool → Table → Option Table
  | [], _, _ => none
  | [key], mayHold, table =>
    if !mayHold || table.any (·.1 = key) then none else some (table ++ [(key, value)])
  | key :: rest, _, table =>
    match table.lookup key with
    | none =>
      (Table.define value rest true []).map fun inner => table ++ [(key, .table .dotted inner)]
    | some (.table .dotted inner) =>
      (Table.define value rest true inner).map fun grown => table.put key (.table .dotted grown)
    | some (.table .passed inner) =>
      (Table.define value rest false inner).map fun grown => table.put key (.table .passed grown)
    | some (.tables all) =>
      match all.getLast? with
      | none => none
      | some last =>
        (Table.define value rest false last).map fun grown =>
          table.put key (.tables (all.dropLast ++ [grown]))
    | some _ => none

/-- Changes the table that a header leads to. The tables on the way are made if need be, and where
several tables were added under one key the last one is meant. -/
def Table.within (change : String → Table → Option Table) : List String → Table → Option Table
  | [], _ => none
  | [key], table => change key table
  | key :: rest, table =>
    match table.lookup key with
    | none => (Table.within change rest []).map fun inner => table ++ [(key, .table .passed inner)]
    | some (.table .inline _) => none
    | some (.table origin inner) =>
      (Table.within change rest inner).map fun grown => table.put key (.table origin grown)
    | some (.tables all) =>
      match all.getLast? with
      | none => none
      | some last =>
        (Table.within change rest last).map fun grown =>
          table.put key (.tables (all.dropLast ++ [grown]))
    | some _ => none

/-- Opens a table by its own header. Each table has at most one header. -/
def Table.openTable (key : String) (table : Table) : Option Table :=
  match table.lookup key with
  | none => some (table ++ [(key, .table .header [])])
  | some (.table .passed inner) => some (table.put key (.table .header inner))
  | some _ => none

def Table.addTable (key : String) (table : Table) : Option Table :=
  match table.lookup key with
  | none => some (table ++ [(key, .tables [[]])])
  | some (.tables all) => some (table.put key (.tables (all ++ [[]])))
  | some _ => none

/-- Defines a value in the table that was opened last, which a path of keys leads to. -/
def Table.defineAt (keys : List String) (value : Value) (path : List String) (table : Table) :
    Option Table :=
  if path.isEmpty then Table.define value keys true table
  else
    Table.within (fun key holder =>
      match holder.lookup key with
      | some (.table origin inner) =>
        (Table.define value keys true inner).map fun grown => holder.put key (.table origin grown)
      | some (.tables all) =>
        match all.getLast? with
        | none => none
        | some last =>
          (Table.define value keys true last).map fun grown =>
            holder.put key (.tables (all.dropLast ++ [grown]))
      | _ => none) path table

def natural? : Value → Option Nat
  | .integer value => if 0 ≤ value then some value.toNat else none
  | _ => none

/-- A number in double precision among the values. Integers are numbers. -/
def double? : Value → Option Float
  | .float value => some value
  | .integer value => some (Float.ofInt value)
  | _ => none

/-- A number in single precision among the values. -/
def single? : Value → Option Float32
  | .float value => some value.toFloat32
  | .integer value =>
    some (if value < 0 then -Float32.ofNat value.natAbs else Float32.ofNat value.natAbs)
  | _ => none

/-- How values of a document are read as settings. -/
def reader : ValueReader Value where
  boolean?
    | .boolean value => some value
    | _ => none
  natural? := natural?
  single? := single?
  double? := double?
  triple?
    | .array (x :: y :: z :: _) => do return ⟨← single? x, ← single? y, ← single? z⟩
    | _ => none
  text?
    | .text value => some value
    | _ => none
  optionalText?
    | .text value => some (some value)
    | _ => none
  fields? group
    | .table _ entries => some entries
    | .array values => some (group.members.zip values)
    | .moment => some []
    | _ => none

end SceneCompiler.Toml
