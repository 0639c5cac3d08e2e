import LaptopCatalogue.Config.Basic
import LaptopCatalogue.System.Files
import LaptopCatalogue.Text.Slice
import LaptopCatalogue.Toml.Document

/-!
# The configuration file

Reading the configuration from a file. A missing file is no error; it stands for the defaults.
-/

namespace LaptopCatalogue

inductive ConfigError where
  | unreadable (cause : SystemFailure)
  | notToml
  | misfit (cause : Misfit)
deriving DecidableEq, Repr

/-- The text of an error. Where a text is not TOML it ends with the colon, behind which stand words
of the reader of TOML. The place in the document that the reader points to is left out. -/
def ConfigError.message : ConfigError → String
  | .unreadable cause => s!"Failed to read config file: {cause.message}"
  | .notToml => "Failed to parse config TOML: "
  | .misfit cause => s!"Failed to parse config TOML: {cause.message}"

namespace SearchConfig

def ofText (text : String) : Except ConfigError SearchConfig :=
  match Toml.read? text with
  | none => .error .notToml
  | some root => (ofDocument root).mapError .misfit

def load : PathState → Except ConfigError SearchConfig
  | .absent => .ok default
  | .directory => .error (.unreadable .isADirectory)
  | .file bytes =>
    match textOfBytes? bytes with
    | none => .error (.unreadable .notText)
    | some text => ofText text

end SearchConfig

end LaptopCatalogue
