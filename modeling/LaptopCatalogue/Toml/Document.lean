import LaptopCatalogue.Toml.Scalar
import LaptopCatalogue.Toml.Tree

/-!
# TOML documents

A document is a list of lines `key = value`, some of them below a header `[key]` or `[[key]]`.
Reading a document is all or nothing: `Toml.read?` gives the root table, with the keys in the order
in which they were written, or nothing if the text is not a document.
-/

namespace LaptopCatalogue.Toml

/-! ## Values -/

/-- How deep arrays and inline tables may be nested. -/
def maxNesting : Nat := 79

/-- Items behind an opening bracket, with commas between them and perhaps behind the last. The
budget is the number of items that can be read at most. -/
def items? (item : Reader Value) : (budget : Nat) → Reader (List Value)
  | 0, _ => none
  | budget + 1, cs =>
    match skipLayout cs with
    | ']' :: rest => some ([], rest)
    | cs => do
      let (value, rest) ← item cs
      match skipLayout rest with
      | ',' :: rest =>
        let (values, rest) ← items? item budget rest
        some (value :: values, rest)
      | ']' :: rest => some ([value], rest)
      | _ => none

/-- A key with its value, on one line. -/
def keyedValue? (item : Reader Value) : Reader ((List String × String) × Value) := fun cs => do
  let (path, rest) ← keyPath? maxKeys cs
  match rest with
  | '=' :: rest =>
    let (value, rest) ← item (skipBlanks rest)
    some ((path, value), rest)
  | _ => none

/-- Keys with their values behind an opening brace, all on one line, with commas between them. They
are put into the given table. The budget is the number of keys that can be read at most. -/
def inlineEntries? (item : Reader Value) : (budget : Nat) → Entries → Reader Entries
  | 0, _, _ => none
  | budget + 1, entries, cs => do
    let (((path, key), value), rest) ← keyedValue? item cs
    let entries ← entries.put? value path key
    match skipBlanks rest with
    | ',' :: rest => inlineEntries? item budget entries rest
    | '}' :: rest => some (entries, rest)
    | _ => none

/-- An inline table behind its opening brace. -/
def inlineTable? (item : Reader Value) : Reader Value := fun cs =>
  match skipBlanks cs with
  | '}' :: rest => some (.table [], rest)
  | cs => do
    let (entries, rest) ← inlineEntries? item (cs.length + 1) [] cs
    some (.table (entryValues entries), rest)

/-- A value in at most the given number of brackets and braces. -/
def value? : (nesting : Nat) → Reader Value
  | nesting, cs =>
    match cs with
    | '[' :: rest =>
      match nesting with
      | 0 => none
      | nesting + 1 => do
        let (values, rest) ← items? (value? nesting) (rest.length + 1) rest
        some (.array values, rest)
    | '{' :: rest =>
      match nesting with
      | 0 => none
      | nesting + 1 => inlineTable? (value? nesting) rest
    | '"' :: _ | '\'' :: _ => do
      let (text, rest) ← string? cs
      some (.string text, rest)
    | _ => do
      let word := word cs
      some (← Value.ofWord? word, cs.drop word.length)

/-! ## Lines -/

inductive Line where
  | blank
  | entry (path : List String) (key : String) (value : Value)
  /-- A header in single brackets. -/
  | table (path : List String) (key : String)
  /-- A header in double brackets. -/
  | element (path : List String) (key : String)

/-- What a line says, without blanks, comment and end of line. -/
def Line.read? : Reader Line := fun cs =>
  match skipBlanks cs with
  | '[' :: '[' :: rest => do
    let ((path, key), rest) ← keyPath? maxKeys rest
    match rest with
    | ']' :: ']' :: rest => some (.element path key, rest)
    | _ => none
  | '[' :: rest => do
    let ((path, key), rest) ← keyPath? maxKeys rest
    match rest with
    | ']' :: rest => some (.table path key, rest)
    | _ => none
  | cs =>
    match skipComment cs with
    | [] => some (.blank, [])
    | rest =>
      if (endOfLine? rest).isSome then some (.blank, rest)
      else do
        let (((path, key), value), rest) ← keyedValue? (value? maxNesting) cs
        some (.entry path key value, rest)

/-- The lines of a text. The budget is the number of lines that can be read at most. -/
def lines? : (budget : Nat) → List Char → Option (List Line)
  | 0, _ => none
  | budget + 1, cs => do
    let (line, rest) ← Line.read? cs
    match skipComment (skipBlanks rest) with
    | [] => some [line]
    | rest => (lines? budget (← endOfLine? rest)).map (line :: ·)

/-! ## Tables -/

/-- A header with the keys and values below it. -/
structure Section where
  /-- Whether the header makes one more element of an array of tables. -/
  isElement : Bool
  path : List String
  key : String
  entries : List (List String × String × Value)

/-- The lines in front of the first header, and the sections. -/
def sections : List Line → List (List String × String × Value) × List Section
  | [] => ([], [])
  | .blank :: lines => sections lines
  | .entry path key value :: lines =>
    let (entries, below) := sections lines
    ((path, key, value) :: entries, below)
  | .table path key :: lines =>
    let (entries, below) := sections lines
    ([], { isElement := false, path, key, entries } :: below)
  | .element path key :: lines =>
    let (entries, below) := sections lines
    ([], { isElement := true, path, key, entries } :: below)

/-- Puts keys with their values into a table. -/
def fill? (lines : List (List String × String × Value)) (entries : Entries) : Option Entries :=
  lines.foldlM (fun entries (path, key, value) => entries.put? value path key) entries

/-- Adds a section to the root table. -/
def Section.add? (root : Entries) (s : Section) : Option Entries :=
  let fill := fill? s.entries
  root.descend? (if s.isElement then Entries.openElement? fill s.key
    else Entries.openTable? fill s.key) s.path

/-- Drops the mark of byte order in front of a text. -/
def skipByteOrderMark : List Char → List Char
  | '\ufeff' :: cs => cs
  | cs => cs

def read? (text : String) : Option (List (String × Value)) := do
  let cs := skipByteOrderMark text.toList
  let (entries, below) := sections (← lines? (cs.length + 1) cs)
  let root ← below.foldlM Section.add? (← fill? entries [])
  some (entryValues root)

end LaptopCatalogue.Toml
