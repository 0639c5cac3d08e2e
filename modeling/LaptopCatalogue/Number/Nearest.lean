import LaptopCatalogue.Number.Shortest

/-!
# The double nearest to a decimal

A decimal is a whole number times a power of ten. The double nearest to it is found by an exact
division: the quotient by a power of two that leaves 53 binary digits, or by the least power there
is, is rounded to a whole number, and of two whole numbers that are equally near the even one is
taken. Carrying into the next power of two needs no care, because the pattern of the next larger
double is always the next larger number.
-/

namespace LaptopCatalogue

/-- The whole number nearest to a fraction. Of two that are equally near the even one is taken. -/
def roundedQuotient (a b : Nat) : Nat :=
  let below := a / b
  let twice := 2 * (a % b)
  if b < twice ∨ (twice = b ∧ below % 2 = 1) then below + 1 else below

namespace Binary64

/-- The least power of two of which a double is a multiple. -/
def leastPower : Int := -1074

/-- A fraction after division by a power of two. -/
def scaled (a b : Nat) (q : Int) : Nat × Nat :=
  (a * Nat.pow 2 (-q).toNat, b * Nat.pow 2 q.toNat)

/-- The power of two that leaves 53 binary digits of a positive fraction, if there are so many above
the least power. The lengths of numerator and denominator determine it up to one. -/
def roundingPower (a b : Nat) : Int :=
  let guess := max ((Nat.log2 a : Int) - Nat.log2 b - 53) leastPower
  let (a, b) := scaled a b guess
  if Nat.pow 2 53 ≤ a / b then guess + 1 else guess

/-- The pattern, without a sign, of the double nearest to a positive fraction. -/
def nearestMagnitude (a b : Nat) : Nat :=
  let q := roundingPower a b
  let (a, b) := scaled a b q
  min (roundedQuotient a b + (q - leastPower).toNat * Nat.pow 2 52) infinity

/-- The double nearest to a whole number times a power of ten. Above all doubles lies infinity. -/
def ofDecimal (negative : Bool) (digits : Nat) (exponent : Int) : Binary64 :=
  let first := (decimalLength digits : Int) + exponent
  let magnitude :=
    if digits = 0 ∨ first < -400 then 0
    else if 400 < first then infinity
    else nearestMagnitude (digits * Nat.pow 10 exponent.toNat) (Nat.pow 10 (-exponent).toNat)
  ⟨UInt64.ofNat (magnitude + if negative then Nat.pow 2 63 else 0)⟩

def infinite (negative : Bool) : Binary64 :=
  ⟨UInt64.ofNat (infinity + if negative then Nat.pow 2 63 else 0)⟩

def nan : Binary64 := ⟨0x7ff8000000000000⟩

end Binary64

end LaptopCatalogue
