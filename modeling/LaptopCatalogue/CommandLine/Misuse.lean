import LaptopCatalogue.CommandLine.Setting
import LaptopCatalogue.CommandLine.Similarity
import LaptopCatalogue.Text.Terminal

/-!
# Misuse of the command line

What can be wrong with the arguments, and what the program says about it. Some messages end with a
line on how the program is used, which names the options that play a part in the mistake. What comes
from the arguments is marked in a message, so that a sequence for the terminal in it ends there.
-/

namespace LaptopCatalogue.CommandLine

/-- The options that the line on usage names. -/
structure Usage where
  /-- Options by themselves. -/
  named : List Switch := []
  /-- Whether all settings are shown together. -/
  settings : Bool := false
deriving DecidableEq, Repr

namespace Usage

/-- Whether an option is shown by itself. The settings are not if they are shown together. -/
def showsAlone (usage : Usage) : Switch → Bool
  | .setting _ => !usage.settings
  | .help | .version => true

/-- The settings with bars between them. -/
def settingsText : String :=
  "<" ++ "|".intercalate (Setting.all.map Setting.display) ++ ">"

def text (usage : Usage) : String :=
  let alone := (usage.named.filter usage.showsAlone).eraseDups.map Switch.display
  let parts := alone ++ (if usage.settings then [settingsText] else [])
  " ".intercalate ("Usage:" :: programName :: if parts = [] then ["[OPTIONS]"] else parts)

end Usage

/-- What is wrong with the arguments. -/
inductive Misuse where
  /-- An argument that means nothing here, the option that may be meant by it, and the options that
  are used. -/
  | unexpected (argument : String) (meant? : Option Switch) (used : List Switch)
  /-- A value for an option that takes none, and whether settings have been given before. -/
  | needlessValue (value : String) (option : Switch) (settings : Bool)
  | missingValue (s : Setting)
  | repeated (s : Setting)
  | notBoolean (value : String) (s : Setting)
deriving DecidableEq, Repr

namespace Misuse

open Terminal (marked withoutSequences)

def missingValueText (s : Setting) : String :=
  s!"error: a value is required for '{s.display}' but none was supplied"

/-- The first line of the message. -/
def summary : Misuse → String
  | .unexpected argument _ _ => s!"error: unexpected argument '{marked argument}' found"
  | .needlessValue value option _ =>
    s!"error: unexpected value '{marked value}' for '{option.display}' found; no more were expected"
  | .missingValue s => missingValueText s
  | .repeated s => s!"error: the argument '{s.display}' cannot be used multiple times"
  | .notBoolean value s =>
    if value = "" then missingValueText s
    else s!"error: invalid value '{marked value}' for '{s.display}'"

/-- A line with the values that would be right. -/
def choices : Misuse → List String
  | .notBoolean .. => ["  [possible values: true, false]"]
  | _ => []

def hint : Misuse → List String
  | .unexpected _ (some option) _ =>
    ["", s!"  tip: a similar argument exists: '--{option.long}'"]
  | _ => []

def usage : Misuse → List String
  | .unexpected _ _ used => ["", Usage.text { named := used }]
  | .needlessValue _ option settings => ["", Usage.text { named := [option], settings }]
  | .repeated _ => ["", Usage.text {}]
  | .missingValue _ | .notBoolean .. => []

def message (misuse : Misuse) : List String :=
  [withoutSequences misuse.summary] ++ misuse.choices ++ misuse.hint ++ misuse.usage ++
    ["", "For more information, try '--help'."]

end Misuse

end LaptopCatalogue.CommandLine
