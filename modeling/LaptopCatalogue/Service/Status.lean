import LaptopCatalogue.Store.Error

/-!
# Statuses

A call that does not succeed ends with a status: a code and a text. Whatever goes wrong in a store
reaches the client as a status, and nowhere else is it decided with which code.
-/

namespace LaptopCatalogue

inductive StatusCode where
  | ok
  | invalidArgument
  | alreadyExists
  | outOfRange
  | unimplemented
  | internal
deriving DecidableEq, Repr

namespace StatusCode

/-- The number of a code on the wire. -/
def number : StatusCode → Nat
  | .ok => 0
  | .invalidArgument => 3
  | .alreadyExists => 6
  | .outOfRange => 11
  | .unimplemented => 12
  | .internal => 13

def name : StatusCode → String
  | .ok => "Ok"
  | .invalidArgument => "InvalidArgument"
  | .alreadyExists => "AlreadyExists"
  | .outOfRange => "OutOfRange"
  | .unimplemented => "Unimplemented"
  | .internal => "Internal"

end StatusCode

/-- Why a call did not succeed. -/
structure Status where
  code : StatusCode
  message : String
deriving DecidableEq, Repr

namespace StoreError

/-- Only a taken id is the client's doing. -/
def statusCode : StoreError → StatusCode
  | .alreadyExists _ => .alreadyExists
  | _ => .internal

/-- The status for a failure that happened while doing something. -/
def status (error : StoreError) (doing : String) : Status :=
  ⟨error.statusCode, s!"{doing}: {error.message}"⟩

end StoreError

end LaptopCatalogue
