/-!
# Levels

How important an event is. A limit lets the events up to a level through.
-/

namespace LaptopCatalogue

/-- How important an event is. -/
inductive Level where
  | error
  | warn
  | info
  | debug
  | trace
deriving DecidableEq, Repr

namespace Level

def name : Level → String
  | .error => "ERROR"
  | .warn => "WARN"
  | .info => "INFO"
  | .debug => "DEBUG"
  | .trace => "TRACE"

/-- How much is written if events up to a level are written. -/
def verbosity : Level → Nat
  | .error => 1
  | .warn => 2
  | .info => 3
  | .debug => 4
  | .trace => 5

/-- All levels, the most important one first. -/
def all : List Level := [.error, .warn, .info, .debug, .trace]

end Level

end LaptopCatalogue
