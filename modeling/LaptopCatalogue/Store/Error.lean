/-!
# Failures of a store

A record that is not there is no failure: looking it up gives nothing.
-/

namespace LaptopCatalogue

/-- Why a store refused an operation. -/
inductive StoreError where
  | alreadyExists (id : String)
  /-- Records are kept by their id, so a record without one cannot be kept. -/
  | emptyId
  /-- The lock of the store is of no use any more. -/
  | lockPoisoned (operation : String)
  /-- The consumer of a search stopped it. -/
  | cancelled (reason : String)
deriving DecidableEq, Repr

namespace StoreError

def message : StoreError → String
  | .alreadyExists id => s!"record already exists: {id}"
  | .emptyId => "laptop ID is empty"
  | .lockPoisoned operation => s!"store lock poisoned during {operation}"
  | .cancelled reason => s!"search cancelled: {reason}"

/-- The short name of a failure in the log. -/
def code : StoreError → String
  | .alreadyExists _ => "ALREADY_EXISTS"
  | .emptyId => "EMPTY_ID"
  | .lockPoisoned _ => "LOCK_POISONED"
  | .cancelled _ => "SEARCH_CANCELLED"

def isAlreadyExists : StoreError → Bool
  | .alreadyExists _ => true
  | _ => false

end StoreError

end LaptopCatalogue
