import LaptopCatalogue.Number.Nearest

/-!
# Fractions that are rounded at every step

A computation with doubles is a computation with fractions in which the result of each operation is
replaced by the nearest double. As fractions the results can be compared exactly.
-/

namespace LaptopCatalogue

/-- A fraction that is not negative. -/
structure Fraction where
  numerator : Nat
  denominator : Nat
deriving DecidableEq, Repr

namespace Fraction

def zero : Fraction := { numerator := 0, denominator := 1 }

def le (x y : Fraction) : Bool :=
  x.numerator * y.denominator ≤ y.numerator * x.denominator

/-- The double nearest to a fraction, as a fraction. -/
def rounded (x : Fraction) : Fraction :=
  if x.numerator = 0 then zero
  else
    let q := Binary64.roundingPower x.numerator x.denominator
    let (a, b) := Binary64.scaled x.numerator x.denominator q
    { numerator := roundedQuotient a b * Nat.pow 2 q.toNat, denominator := Nat.pow 2 (-q).toNat }

/-- The quotient of two whole numbers, rounded. -/
def quotient (a b : Nat) : Fraction :=
  { numerator := a, denominator := b : Fraction }.rounded

/-- The sum of two fractions, rounded. -/
def plus (x y : Fraction) : Fraction :=
  { numerator := x.numerator * y.denominator + y.numerator * x.denominator
    denominator := x.denominator * y.denominator : Fraction }.rounded

/-- A fraction divided by a whole number, rounded. -/
def dividedBy (x : Fraction) (n : Nat) : Fraction :=
  { x with denominator := x.denominator * n }.rounded

end Fraction

end LaptopCatalogue
