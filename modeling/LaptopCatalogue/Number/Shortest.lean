import LaptopCatalogue.Number.Binary

/-!
# The shortest decimal of a double

A finite double is `m · 2 ^ q`. Every real number in an interval around it rounds to it; the ends
belong to the interval when `m` is even. Of all decimals in the interval with the fewest digits,
`Binary64.shortest` takes the one nearest to the double, and the upper one of two that are equally
near.

Everything is exact: the double and the ends of its interval are counted in quarters of `2 ^ q`,
and decimals are compared with them after both sides are multiplied by powers of 2 and 10.
-/

namespace LaptopCatalogue

/-- A positive decimal: its digits as a number that does not end in 0, and the power of ten of the
first digit. -/
structure Decimal where
  digits : Nat
  exponent : Int
deriving DecidableEq, Repr

namespace Binary64

def exponentField (x : Binary64) : Nat := x.magnitude / Nat.pow 2 52

def fractionField (x : Binary64) : Nat := x.magnitude % Nat.pow 2 52

/-- The whole number `m` of a finite double `m · 2 ^ q`. -/
def significand (x : Binary64) : Nat :=
  if x.exponentField = 0 then x.fractionField else Nat.pow 2 52 + x.fractionField

/-- The power `q` of a finite double `m · 2 ^ q`. -/
def power (x : Binary64) : Int :=
  (max x.exponentField 1 : Nat) - 1075

/-- How far the interval of a double reaches down, in quarters of `2 ^ q`. Below a power of two the
doubles lie twice as close. -/
def reachDown (x : Binary64) : Nat :=
  if x.fractionField = 0 ∧ 1 < x.exponentField then 1 else 2

/-- How far the interval reaches up, in quarters of `2 ^ q`. -/
def reachUp : Nat := 2

end Binary64

/-- The number of decimal digits of a number, at least one. -/
def decimalLength (n : Nat) : Nat :=
  (Nat.toDigits 10 n).length

/-- The power of ten of the first digit of the fraction `a / b`, where neither is 0. -/
def decimalExponent (a b : Nat) : Int :=
  if b ≤ a then decimalLength (a / b) - 1
  else -(decimalLength ((b - 1) / a) : Int)

/-- Takes zeros off the end of a number, at most as many as given. -/
def withoutTrailingZeros : Nat → Nat → Nat
  | 0, n => n
  | room + 1, n => if n ≠ 0 ∧ n % 10 = 0 then withoutTrailingZeros room (n / 10) else n

/-- An interval of fractions with one denominator, with a number inside. -/
structure Interval where
  low : Nat
  inside : Nat
  high : Nat
  denominator : Nat
  /-- Whether both ends belong to the interval. -/
  closed : Bool
deriving DecidableEq, Repr

namespace Interval

def contains (interval : Interval) (n : Nat) : Bool :=
  let scaled := n * interval.denominator
  if interval.closed then interval.low ≤ scaled ∧ scaled ≤ interval.high
  else interval.low < scaled ∧ scaled < interval.high

/-- The whole number in an interval that is nearest to the number inside, if there is one among the
two neighbours of that number. Of two that are equally near the upper one is taken. -/
def nearest? (interval : Interval) : Option Nat :=
  let below := interval.inside / interval.denominator
  let above := below + 1
  match interval.contains below, interval.contains above with
  | true, true =>
    if 2 * (interval.inside % interval.denominator) < interval.denominator then some below
    else some above
  | true, false => some below
  | false, true => some above
  | false, false => none

end Interval

namespace Binary64

/-- The interval of a positive finite double in units of a power of ten. -/
def interval (x : Binary64) (unit : Int) : Interval :=
  let quarter := x.power - 2
  let scale := Nat.pow 2 quarter.toNat * Nat.pow 10 (-unit).toNat
  let m := 4 * x.significand
  { low := (m - x.reachDown) * scale
    inside := m * scale
    high := (m + reachUp) * scale
    denominator := Nat.pow 2 (-quarter).toNat * Nat.pow 10 unit.toNat
    closed := x.significand % 2 = 0 }

/-- The power of ten of the first digit of a positive finite double. -/
def leadingExponent (x : Binary64) : Int :=
  decimalExponent (x.significand * Nat.pow 2 x.power.toNat) (Nat.pow 2 (-x.power).toNat)

/-- The decimal that starts at the given power of ten and has the given number of digits, if one
rounds to the double. A number of digits that carries over to the next power of ten has one digit
more than asked for, and its zeros are taken off. -/
def decimalWith? (x : Binary64) (first : Int) (count : Nat) : Option Decimal :=
  (x.interval (first + 1 - count)).nearest?.map fun n =>
    { digits := withoutTrailingZeros count n
      exponent := first + (decimalLength n - count : Nat) }

/-- The shortest decimal of a positive finite double. Seventeen digits are always enough. -/
def shortest (x : Binary64) : Decimal :=
  let first := x.leadingExponent
  ((List.range' 1 17).findSome? (x.decimalWith? first)).getD
    { digits := 0, exponent := 0 }

end Binary64

end LaptopCatalogue
