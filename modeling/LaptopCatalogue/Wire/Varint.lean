/-!
# Base-128 varints

A varint writes a 64-bit number seven bits at a time, the lowest bits first. Every byte but the
last has its top bit set. Ten bytes are enough for 64 bits, and of the tenth only the lowest bit
is left to use.

* `write` gives the shortest spelling of a number.
* `read` takes any spelling of at most ten bytes whose value fits 64 bits.
* `size` is the length of what `write` gives, found from the position of the highest set bit.
-/

namespace LaptopCatalogue.Wire

/-- A byte string, as messages are written on the wire. -/
abbrev Bytes := List UInt8

namespace Varint

/-- The most bytes that a varint may take. -/
def maxBytes : Nat := 10

/-- The groups of seven bits of `n`, lowest first, in at most the given number of bytes. -/
def writeWithin : Nat → Nat → Bytes
  | 0, _ => []
  | room + 1, n =>
    if n < 128 then [UInt8.ofNat n]
    else UInt8.ofNat (n % 128 + 128) :: writeWithin room (n / 128)

/-- The shortest spelling of a number. -/
def write (n : UInt64) : Bytes :=
  writeWithin maxBytes n.toNat

/-- The number of bytes that `write` gives: one for each seven bits up to the highest set one. -/
def size (n : UInt64) : Nat :=
  ((n ||| 1).toNat.log2 * 9 + 73) / 64

/-- Reads a varint of at most the given number of bytes, where the byte that fills the last place
may be 0 or 1 only. Nothing is read if the bytes end or the room is used up before a byte below
128. -/
def readWithin : Nat → Bytes → Option (Nat × Bytes)
  | 0, _ => none
  | _ + 1, [] => none
  | room + 1, b :: rest =>
    if b < 128 then
      if room = 0 ∧ 1 < b then none else some (b.toNat, rest)
    else
      (readWithin room rest).map fun (high, rest) => (b.toNat - 128 + 128 * high, rest)

/-- Reads a varint and gives its value and the bytes behind it. -/
def read (bs : Bytes) : Option (UInt64 × Bytes) :=
  (readWithin maxBytes bs).map fun (n, rest) => (UInt64.ofNat n, rest)

end Varint

end LaptopCatalogue.Wire
