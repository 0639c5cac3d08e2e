/-!
# Binary floating-point numbers as bit patterns

Prices, clock rates and weights are doubles, screen sizes are singles. A number is held as its bit
pattern, so that every NaN and both zeros survive storage unchanged, and the order of numbers is
that of the integers that sign and magnitude make.

Powers are written with `Nat.pow`, which means the same whatever instances are in scope.
-/

namespace LaptopCatalogue

/-- An IEEE 754 double by its bit pattern. -/
structure Binary64 where
  bits : UInt64
deriving DecidableEq, Repr, Inhabited

namespace Binary64

/-- The pattern without its sign. -/
def magnitude (x : Binary64) : Nat := x.bits.toNat % Nat.pow 2 63

def isNegative (x : Binary64) : Bool := Nat.pow 2 63 ≤ x.bits.toNat

/-- The magnitude of infinity. Patterns above it are not numbers. -/
def infinity : Nat := 0x7ff0000000000000

def isNaN (x : Binary64) : Bool := infinity < x.magnitude

/-- Both zeros are zero. -/
def isZero (x : Binary64) : Bool := x.magnitude = 0

/-- Numbers in order of their value; the two zeros fall together. -/
def rank (x : Binary64) : Int :=
  if x.isNegative then -(x.magnitude : Int) else x.magnitude

/-- The order of numbers. Nothing is below or above a NaN. -/
def lt (x y : Binary64) : Bool :=
  !x.isNaN && !y.isNaN && x.rank < y.rank

def zero : Binary64 := ⟨0⟩

end Binary64

/-- An IEEE 754 single by its bit pattern. -/
structure Binary32 where
  bits : UInt32
deriving DecidableEq, Repr, Inhabited

namespace Binary32

def magnitude (x : Binary32) : Nat := x.bits.toNat % Nat.pow 2 31

def infinity : Nat := 0x7f800000

def isNaN (x : Binary32) : Bool := infinity < x.magnitude

def isZero (x : Binary32) : Bool := x.magnitude = 0

def zero : Binary32 := ⟨0⟩

end Binary32

end LaptopCatalogue
