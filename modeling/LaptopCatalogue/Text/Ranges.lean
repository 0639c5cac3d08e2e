/-!
# Ranges of characters

A property of characters is kept as a table: the ranges of code points that have it, in ascending
order.
-/

namespace LaptopCatalogue

def inRanges (ranges : List (Nat × Nat)) (c : Char) : Bool :=
  ranges.any fun (low, high) => low ≤ c.toNat && c.toNat ≤ high

end LaptopCatalogue
