import LaptopCatalogue.Text.Blank

/-!
# Origins

Which web pages may call the service: those whose origin begins with one of the configured texts,
or all of them if one of the texts is a star.
-/

namespace LaptopCatalogue.Http

/-- The origins that are allowed if nothing is configured: pages from the same machine. -/
def defaultOrigins : List String :=
  ["http://localhost", "https://localhost", "http://127.0.0.1", "https://127.0.0.1"]

/-- The configured texts without blanks around them. Blank ones are dropped. -/
def normalizeOrigins (raw : List String) : List String :=
  (raw.map trimBlanks).filter fun s => s ≠ ""

def originAllowed (origin : String) (allowed : List String) : Bool :=
  allowed.any fun start => start = "*" || start.toList.isPrefixOf origin.toList

end LaptopCatalogue.Http
