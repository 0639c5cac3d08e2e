import LaptopCatalogue.CommandLine.Setting
import LaptopCatalogue.Text.Terminal

/-!
# The list of options

What the program says if it is asked for help or for its version. The list shows what the
environment variables hold at the moment: a value with several lines is indented, and one that
begins a sequence for the terminal takes with it what follows up to the next marked word.
-/

namespace LaptopCatalogue.CommandLine

open Terminal (marked withoutSequences)

def versionText : String := s!"{programName} 0.1.0\n"

/-- What the list of options says about an option, without its notes. -/
def Switch.description : Switch → String
  | .setting s => s.description
  | .help => "Print help"
  | .version => "Print version"

/-- The notes on the environment variable and on the default. -/
def Switch.notes (environment : Environment) : Switch → List String
  | .setting s =>
    let value := (environment s.variableName).getD ""
    let variableNote := s!"[env: {s.variableName}={value}]"
    match s.default? with
    | some value => [variableNote, s!"[default: {value}]"]
    | none => [variableNote]
  | .help | .version => []

/-- How an option is written: the letter if it has one, and the long name. -/
def Switch.spelling (option : Switch) : String :=
  match option.short? with
  | some letter => s!"  -{letter}, {option.display}"
  | none => s!"      {option.display}"

def descriptionColumn : Nat :=
  (Switch.all.map (·.spelling.length)).foldl max 0 + 2

/-- How an option is written, with its letter and its long name marked. -/
def Switch.markedSpelling (option : Switch) : String :=
  let value := (option.display.drop (option.long.length + 2)).toString
  let long := marked s!"--{option.long}" ++ value
  match option.short? with
  | some letter => "  " ++ marked s!"-{letter}" ++ ", " ++ long
  | none => "      " ++ long

def blanks (n : Nat) : String := String.ofList (List.replicate n ' ')

/-- A text whose lines behind the first one are indented. -/
def indented (column : Nat) (text : String) : String :=
  String.ofList (text.toList.flatMap fun c =>
    if c = '\n' then '\n' :: List.replicate column ' ' else [c])

def Switch.line (environment : Environment) (option : Switch) : String :=
  let room := descriptionColumn - option.spelling.length
  let description := " ".intercalate (option.description :: option.notes environment)
  option.markedSpelling ++ blanks room ++ indented descriptionColumn description

def helpText (environment : Environment) : String :=
  let front :=
    ["An in-memory laptop catalogue exposed via gRPC with create, find and streaming search", "",
      s!"Usage: {programName} [OPTIONS]", "", "Options:"]
  let lines := front ++ Switch.all.map (Switch.line environment)
  withoutSequences ("\n".intercalate lines) ++ "\n"

end LaptopCatalogue.CommandLine
