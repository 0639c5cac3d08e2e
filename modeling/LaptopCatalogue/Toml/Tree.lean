import LaptopCatalogue.Toml.Value

/-!
# Tables in the making

While a document is read its tables grow: one table may be written in several places, but only in
ways that cannot be mistaken for each other. Each table therefore remembers how it came about.

* `put?`: adds the value of a dotted key.
* `openTable?`, `openElement?`: begin the table of a header, or one more element of an array of
  tables.
-/

namespace LaptopCatalogue.Toml

/-- How a table came about. -/
inductive Origin where
  /-- It has a header of its own. -/
  | header
  /-- Only tables inside of it have headers so far. -/
  | implied
  /-- A dotted key mentions it. -/
  | dotted
deriving DecidableEq, Repr

/-- What stands under a key while a document is read. -/
inductive Node where
  /-- A value, to which nothing can be added. -/
  | settled (value : Value)
  | table (origin : Origin) (entries : List (String × Node))
  /-- An array of tables. It grows at its end, and headers below it mean its last table. -/
  | tables (front : List (List (String × Node))) (last : List (String × Node))

/-- The keys of a table with what stands under them, in the order in which they came. -/
abbrev Entries := List (String × Node)

namespace Entries

def find? (entries : Entries) (key : String) : Option Node :=
  (List.find? (·.1 = key) entries).map (·.2)

def replace (entries : Entries) (key : String) (node : Node) : Entries :=
  entries.map fun entry => if entry.1 = key then (key, node) else entry

def erase (entries : Entries) (key : String) : Entries :=
  entries.filter (·.1 ≠ key)

def append (entries : Entries) (key : String) (node : Node) : Entries :=
  entries ++ [(key, node)]

/-- Adds a value under a dotted key. Tables on the way are made if they are missing. A table that
has a header of its own cannot be reached, and the one that gets the value must have come about by
dotted keys alone. -/
def put? (value : Value) : (path : List String) → (key : String) → Entries → Option Entries
  | [], key, entries =>
    match entries.find? key with
    | none => some (entries.append key (.settled value))
    | some _ => none
  | p :: path, key, entries =>
    match entries.find? p with
    | none => (put? value path key []).map fun inner => entries.append p (.table .dotted inner)
    | some (.table origin inner) =>
      if origin = .header ∨ (path = [] ∧ origin = .implied) then none
      else (put? value path key inner).map fun inner => entries.replace p (.table origin inner)
    | some (.tables front last) =>
      if path = [] then none
      else (put? value path key last).map fun last => entries.replace p (.tables front last)
    | some (.settled _) => none

/-- Follows the keys of a header except the last, and changes the table there. Tables on the way are
implied if they are missing. -/
def descend? (change : Entries → Option Entries) : (path : List String) → Entries → Option Entries
  | [], entries => change entries
  | p :: path, entries =>
    match entries.find? p with
    | none => (descend? change path []).map fun inner => entries.append p (.table .implied inner)
    | some (.table origin inner) =>
      (descend? change path inner).map fun inner => entries.replace p (.table origin inner)
    | some (.tables front last) =>
      (descend? change path last).map fun last => entries.replace p (.tables front last)
    | some (.settled _) => none

/-- Begins the table of a header. If it was only implied so far, it keeps what it has and moves to
the end. -/
def openTable? (fill : Entries → Option Entries) (key : String) (entries : Entries) :
    Option Entries :=
  match entries.find? key with
  | none => (fill []).map fun inner => entries.append key (.table .header inner)
  | some (.table .implied inner) =>
    (fill inner).map fun inner => (entries.erase key).append key (.table .header inner)
  | some _ => none

/-- Begins one more element of an array of tables. -/
def openElement? (fill : Entries → Option Entries) (key : String) (entries : Entries) :
    Option Entries :=
  match entries.find? key with
  | none => (fill []).map fun last => entries.append key (.tables [] last)
  | some (.tables front last) =>
    (fill []).map fun new => entries.replace key (.tables (front ++ [last]) new)
  | some _ => none

end Entries

mutual

/-- What stands under a key once the document is read. -/
def Node.value : Node → Value
  | .settled value => value
  | .table _ entries => .table (entryValues entries)
  | .tables front last => .array (tableValues front ++ [.table (entryValues last)])

def entryValues : List (String × Node) → List (String × Value)
  | [] => []
  | (key, node) :: entries => (key, node.value) :: entryValues entries

def tableValues : List (List (String × Node)) → List Value
  | [] => []
  | entries :: tables => .table (entryValues entries) :: tableValues tables

end

end LaptopCatalogue.Toml
