import LaptopCatalogue.Number.Shortest

/-!
# The text of a double

How a number is laid out is data: a `NumberLayout` says which numbers are written positionally and
how the others show their power of ten.
-/

namespace LaptopCatalogue

/-- The choices in writing a number. -/
structure NumberLayout where
  /-- The least power of ten of a first digit that is written positionally. -/
  leastPositional : Int
  /-- The greatest power of ten of a first digit that is written positionally. -/
  greatestPositional : Int
  /-- What stands behind a whole number that is written positionally. -/
  wholeEnding : String
  exponentMark : String
  zero : String
  infinity : String
  nan : String
deriving DecidableEq, Repr

namespace NumberLayout

def zeros (n : Nat) : String :=
  String.ofList (List.replicate n '0')

/-- A decimal with all places written out. -/
def positional (layout : NumberLayout) (d : Decimal) : String :=
  let digits := Nat.toDigits 10 d.digits
  if d.exponent < 0 then
    "0." ++ zeros (-d.exponent - 1).toNat ++ String.ofList digits
  else
    let whole := d.exponent.toNat + 1
    if digits.length ≤ whole then
      String.ofList digits ++ zeros (whole - digits.length) ++ layout.wholeEnding
    else
      String.ofList (digits.take whole) ++ "." ++ String.ofList (digits.drop whole)

/-- A decimal with one place before the point and a power of ten. -/
def scientific (layout : NumberLayout) (d : Decimal) : String :=
  let mantissa := match Nat.toDigits 10 d.digits with
    | first :: second :: rest => String.ofList (first :: '.' :: second :: rest)
    | digits => String.ofList digits
  mantissa ++ layout.exponentMark ++ toString d.exponent

/-- The text of a double without its sign. -/
def magnitudeText (layout : NumberLayout) (x : Binary64) : String :=
  if x.isZero then layout.zero
  else if x.magnitude = Binary64.infinity then layout.infinity
  else
    let d := x.shortest
    if layout.leastPositional ≤ d.exponent ∧ d.exponent ≤ layout.greatestPositional then
      layout.positional d
    else
      layout.scientific d

/-- The text of a double. A NaN has no sign. -/
def text (layout : NumberLayout) (x : Binary64) : String :=
  if x.isNaN then layout.nan
  else (if x.isNegative then "-" else "") ++ layout.magnitudeText x

end NumberLayout

end LaptopCatalogue
