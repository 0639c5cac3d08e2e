import LaptopCatalogue.System.Failure

/-!
# Files and directories

The files of a machine as far as a program meets them at its start: it looks up what stands at a
path, makes directories, and writes to a file. A place in the tree is given by the names that lead
to it from the root.

* `Files.look`: what stands at a path.
* `Files.makeDirectories`: the files once a directory and those above it are made.
-/

namespace LaptopCatalogue

/-- What stands at a path. -/
inductive PathState where
  | absent
  | directory
  | file (bytes : List UInt8)
deriving DecidableEq, Repr

/-- A place in the tree of files. -/
abbrev Place := List String

/-- The files of a machine. -/
structure Files where
  /-- The directories, apart from those that are there because something stands in them. -/
  directories : List Place
  files : List (Place × List UInt8)
deriving DecidableEq, Repr

namespace Files

def isDirectory (files : Files) (place : Place) : Bool :=
  files.directories.any place.isPrefixOf ||
    files.files.any (fun (file, _) => place.isPrefixOf file && place ≠ file) || place.isEmpty

def state (files : Files) (place : Place) : PathState :=
  match files.files.find? (·.1 = place) with
  | some (_, bytes) => .file bytes
  | none => if files.isDirectory place then .directory else .absent

/-- The names in a path. Slashes at the end and repeated slashes mean nothing. -/
def names (path : String) : List String :=
  ((path.toList.splitOn '/').map String.ofList).filter (· ≠ "")

/-- Where the walk along a path starts: at the root if the path begins with a slash, and else in the
working directory. -/
def start (working : Place) (path : String) : Place :=
  if path.toList.head? = some '/' then [] else working

/-- The longest name there can be, in bytes. -/
def maxNameLength : Nat := 255

/-- The longest path there can be, in bytes. -/
def maxPathLength : Nat := 4095

/-- Goes from a directory to one in it or to the one above it. -/
def enter (files : Files) (here : Place) (name : String) : Except SystemFailure Place :=
  if name = "." then .ok here
  else if name = ".." then .ok here.dropLast
  else if maxNameLength < name.utf8ByteSize then .error .nameTooLong
  else
    match files.state (here ++ [name]) with
    | .directory => .ok (here ++ [name])
    | .file _ => .error .notADirectory
    | .absent => .error .notFound

/-- Goes from one directory to another along names. -/
def walk (files : Files) (here : Place) (names : List String) : Except SystemFailure Place :=
  names.foldlM files.enter here

/-- Finds the last name of a path and the directory in which it is looked for. Without a name the
path leads to the root. -/
def lookup (files : Files) (working : Place) (path : String) :
    Except SystemFailure (Place × Option String) :=
  if path = "" then .error .notFound
  else if maxPathLength < path.utf8ByteSize then .error .nameTooLong
  else do
    let here ← files.walk (start working path) (names path).dropLast
    .ok (here, (names path).getLast?)

/-- What stands at a path. A file stands at no path that ends with a slash. -/
def look (files : Files) (working : Place) (path : String) : PathState :=
  match files.lookup working path with
  | .error _ => .absent
  | .ok (_, none) => .directory
  | .ok (here, some name) =>
    if name = "." || name = ".." then .directory
    else
      match files.state (here ++ [name]) with
      | .file bytes => if path.toList.getLast? = some '/' then .absent else .file bytes
      | state => state

/-! ## Making directories -/

def addDirectory (files : Files) (place : Place) : Files :=
  { files with directories := place :: files.directories }

def makeDirectory (files : Files) (working : Place) (path : String) :
    Except SystemFailure Files := do
  match ← files.lookup working path with
  | (_, none) => .error .fileExists
  | (here, some name) =>
    if name = "." || name = ".." then .error .fileExists
    else if maxNameLength < name.utf8ByteSize then .error .nameTooLong
    else
      match files.state (here ++ [name]) with
      | .absent => .ok (files.addDirectory (here ++ [name]))
      | .directory | .file _ => .error .fileExists

/-- Makes the directory at a path if it is not there. -/
def ensureDirectory (files : Files) (working : Place) (path : String) :
    Except SystemFailure Files :=
  match files.makeDirectory working path with
  | .ok files => .ok files
  | .error cause =>
    if cause = .fileExists && files.look working path = .directory then .ok files
    else .error cause

/-- Makes the directory at the first of several paths. If something is missing on the way to it, the
directories at the following paths are made before. -/
def ensureAll (files : Files) (working : Place) : List String → Except SystemFailure Files
  | [] => .ok files
  | path :: above =>
    match files.ensureDirectory working path with
    | .error .notFound => do (← ensureAll files working above).ensureDirectory working path
    | result => result

/-- The paths of the directories above a path, the nearest one first. A point means nothing in a
path, unless it is at its beginning. -/
def pathsAbove (path : String) : List String :=
  let slash := if path.toList.head? = some '/' then "/" else ""
  let parts := match names path with
    | "." :: rest => if slash = "" then "." :: rest.filter (· ≠ ".") else rest.filter (· ≠ ".")
    | parts => parts.filter (· ≠ ".")
  let lengths := (List.range parts.length).drop 1
  lengths.reverse.map fun n => slash ++ "/".intercalate (parts.take n)

/-- Makes the directory at a path and those above it. -/
def makeDirectories (files : Files) (working : Place) (path : String) :
    Except SystemFailure Files :=
  files.ensureAll working (path :: pathsAbove path)

/-! ## Writing -/

/-- Writes bytes behind what is in a file, or to a new file. Gives nothing if there can be no
file. -/
def append? (files : Files) (working : Place) (path : String) (bytes : List UInt8) :
    Option Files :=
  match files.lookup working path with
  | .error _ | .ok (_, none) => none
  | .ok (here, some name) =>
    let place := here ++ [name]
    match files.state place with
    | .directory => none
    | .absent => some { files with files := (place, bytes) :: files.files }
    | .file before =>
      let others := files.files.filter (·.1 ≠ place)
      some { files with files := (place, before ++ bytes) :: others }

end Files

end LaptopCatalogue
