import LaptopCatalogue.Http.Target
import LaptopCatalogue.Wire.Varint

/-!
# Requests and responses

The parts of an HTTP exchange that the service looks at. Header names are compared without regard
to the case of ASCII letters; of several headers with one name the first counts.
-/

namespace LaptopCatalogue.Http

/-- Header fields in order, by name and value. -/
abbrev Headers := List (String × String)

/-- The value of the first header with the given lower-case name. -/
def header? (headers : Headers) (name : String) : Option String :=
  (headers.find? fun entry => entry.1.toLower = name).map Prod.snd

structure Request where
  method : String
  /-- What is asked for: a path, perhaps with a machine in front of it or a query behind it. -/
  target : String
  headers : Headers
  body : Wire.Bytes
deriving Repr

def Request.path (request : Request) : String := pathOfTarget request.target

/-- A response. Trailers are headers behind the body. -/
structure Response where
  status : Nat := 200
  headers : Headers := []
  body : Wire.Bytes := []
  trailers : Option Headers := none
deriving Repr

end LaptopCatalogue.Http
