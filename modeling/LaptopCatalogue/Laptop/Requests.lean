import LaptopCatalogue.Laptop.Basic

/-!
# Requests and their answers

The three calls of the service: create a record, find one by its id, and search.
-/

namespace LaptopCatalogue

structure CreateRequest where
  laptop : Option Laptop := none
deriving DecidableEq, Repr

/-- The id under which a record was stored. -/
structure CreateResponse where
  id : String := ""
deriving DecidableEq, Repr

structure FindRequest where
  id : String := ""
deriving DecidableEq, Repr

/-- The record, absent if there is none with the id. -/
structure FindResponse where
  laptop : Option Laptop := none
deriving DecidableEq, Repr

/-- Asks for all records within the bounds of a filter. -/
structure SearchRequest where
  filter : Option Filter := none
deriving DecidableEq, Repr

/-- One record that a search found. -/
structure SearchResponse where
  laptop : Option Laptop := none
deriving DecidableEq, Repr

end LaptopCatalogue
