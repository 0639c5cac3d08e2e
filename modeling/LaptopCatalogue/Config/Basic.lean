import LaptopCatalogue.Number.Text
import LaptopCatalogue.Text.Quoted
import LaptopCatalogue.Toml.Value

/-!
# The configuration

The configuration has one table, `search`, with one number in it, `stream_buffer`: how many found
records may wait for a client that is slower than the search. What is not given has a default.

Other tables are nobody's concern, but every key inside of `search` must be known. The table may
also be written as an array, whose items are then taken in the order of the keys.
-/

namespace LaptopCatalogue

structure SearchConfig where
  streamBuffer : Nat := 16
deriving DecidableEq, Repr

namespace SearchConfig

def default : SearchConfig := {}

/-- How many records may wait. There is always room for one. -/
def effectiveBuffer (config : SearchConfig) : Nat := max config.streamBuffer 1

end SearchConfig

/-! ## What does not fit -/

/-- What the reader of a configuration looks for. -/
inductive Wanted where
  | searchTable
  | size
deriving DecidableEq, Repr

/-- Why a document is no configuration. -/
inductive Misfit where
  /-- A key inside of `search` that has no meaning. -/
  | unknownKey (key : String)
  /-- Something of another type, in words, where the reader looks for something. -/
  | wrongType (found : String) (wanted : Wanted)
  /-- A number below zero where the reader looks for a size. -/
  | belowZero (n : Int)
deriving DecidableEq, Repr

def Wanted.describe : Wanted → String
  | .searchTable => "struct SearchConfig"
  | .size => "usize"

def Misfit.message : Misfit → String
  | .unknownKey key => s!"unknown field `{key}`, expected `stream_buffer`"
  | .wrongType found wanted => s!"invalid type: {found}, expected {wanted.describe}"
  | .belowZero n => s!"invalid value: integer `{n}`, expected {Wanted.size.describe}"

/-- Numbers are described with all their places, and with one place after the point at least. -/
def describedNumber : NumberLayout where
  leastPositional := -400
  greatestPositional := 400
  wholeEnding := ".0"
  exponentMark := "e"
  zero := "0.0"
  infinity := "inf"
  nan := "NaN"

def Toml.Value.describe : Toml.Value → String
  | .string text => s!"string {quoted text}"
  | .integer n => s!"integer `{n}`"
  | .float x => s!"floating point `{describedNumber.text x}`"
  | .boolean b => s!"boolean `{b}`"
  | .array _ => "sequence"
  | .moment _ | .table _ => "map"

/-! ## Reading -/

def readSize : Toml.Value → Except Misfit Nat
  | .integer n => if n < 0 then .error (.belowZero n) else .ok n.toNat
  | value => .error (.wrongType value.describe .size)

def streamBufferKey : String := "stream_buffer"

/-- The only key of a moment that is read as a table. -/
def momentKey : String := "$__toml_private_datetime"

namespace SearchConfig

/-- Reads the entries of the table. The first one that does not fit is reported. -/
def ofEntries (config : SearchConfig) : List (String × Toml.Value) → Except Misfit SearchConfig
  | [] => .ok config
  | (key, value) :: entries =>
    if key = streamBufferKey then do
      ofEntries { config with streamBuffer := ← readSize value } entries
    else .error (.unknownKey key)

/-- Reads the configuration of searches. Of an array only the first item counts. -/
def ofValue : Toml.Value → Except Misfit SearchConfig
  | .table entries => ofEntries default entries
  | .array [] => .ok default
  | .array (value :: _) => (readSize value).map fun n => { streamBuffer := n }
  | .moment _ => .error (.unknownKey momentKey)
  | value => .error (.wrongType value.describe .searchTable)

/-- Reads the configuration from the root table of a document. -/
def ofDocument (root : List (String × Toml.Value)) : Except Misfit SearchConfig :=
  match root.find? (·.1 = "search") with
  | some (_, value) => ofValue value
  | none => .ok default

end SearchConfig

end LaptopCatalogue
