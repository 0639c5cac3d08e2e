import LaptopCatalogue.Number.Binary

/-!
# TOML values

What a TOML document holds once it is read. A table keeps its keys in the order in which they were
written, each of them once.
-/

namespace LaptopCatalogue.Toml

inductive Value where
  | string (text : String)
  | integer (n : Int)
  | float (x : Binary64)
  | boolean (b : Bool)
  /-- A date, a time of day, or both, in the words of the document. -/
  | moment (text : String)
  | array (items : List Value)
  | table (entries : List (String × Value))

end LaptopCatalogue.Toml
