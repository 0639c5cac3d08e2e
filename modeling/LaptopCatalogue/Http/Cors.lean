import LaptopCatalogue.Http.Origin
import LaptopCatalogue.Http.Message

/-!
# Cross-origin requests

Browsers ask for permission before a page may call the service, and look for permission in every
answer. Questions are answered here and go no further; every other request is passed on, and its
answer gets the headers that a browser looks for. A page whose origin is not allowed simply gets no
permission.
-/

namespace LaptopCatalogue.Http

/-- Whether every character of a header value is visible ASCII, a space or a tab. Other values are
not read as text. -/
def isPlainValue (value : String) : Bool :=
  value.toList.all fun c => c = '\t' || (0x20 ≤ c.toNat && c.toNat < 0x7f)

/-- The header that permits the origin of a request. -/
def allowOrigin (origins : List String) (headers : Headers) : Headers :=
  match header? headers "origin" with
  | some origin =>
    if isPlainValue origin && originAllowed origin origins then
      [("access-control-allow-origin", origin)]
    else []
  | none => []

/-- The header that names the parts of a request on which permission depends. -/
def vary : String × String :=
  ("vary", "origin, access-control-request-method, access-control-request-headers")

/-- Whether a request asks for permission only. -/
def isPreflight (request : Request) : Bool := request.method = "OPTIONS"

/-- The answer to a question for permission. -/
def preflight (origins : List String) (request : Request) : Response where
  headers := allowOrigin origins request.headers ++
    [("access-control-allow-methods", "POST,OPTIONS"), ("access-control-allow-headers", "*"), vary]

/-- An answer with the headers that a browser looks for. -/
def withPermission (origins : List String) (request : Request) (response : Response) : Response :=
  { response with
    headers := response.headers ++ allowOrigin origins request.headers ++
      [("access-control-expose-headers", "*"), vary] }

end LaptopCatalogue.Http
