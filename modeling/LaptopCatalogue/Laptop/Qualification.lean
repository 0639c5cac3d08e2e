import LaptopCatalogue.Laptop.Basic
import LaptopCatalogue.Laptop.Codes

/-!
# Which laptops a search finds

A laptop qualifies when it meets every bound of the filter. Memory is compared in bits, whatever
units the two sides use.

* `Memory.exactBits`: the size of an amount of memory, without a limit.
* `Memory.bits`: the same, where anything beyond 64 bits counts as the largest such number.
* `Filter.qualifies`: whether a laptop is within the bounds.
-/

namespace LaptopCatalogue

/-- The bits of one unit. Units go in steps of 1024, and an unknown unit is worth nothing. -/
def MemoryUnit.bits : MemoryUnit → Nat
  | .unknown => 0
  | .bit => 1
  | .byte => Nat.pow 2 3
  | .kilobyte => Nat.pow 2 13
  | .megabyte => Nat.pow 2 23
  | .gigabyte => Nat.pow 2 33
  | .terabyte => Nat.pow 2 43

namespace Memory

/-- The unit of an amount. A number that is not declared stands for the unknown unit. -/
def declaredUnit (memory : Memory) : MemoryUnit :=
  Coded.ofCode memory.unit

/-- The size in bits, however large. -/
def exactBits (memory : Memory) : Nat :=
  memory.value.toNat * memory.declaredUnit.bits

/-- The product of two 64-bit numbers, or the largest such number if it does not fit. -/
def saturatingMul (a b : UInt64) : UInt64 :=
  if a.toNat * b.toNat < Nat.pow 2 64 then a * b else UInt64.ofNat (Nat.pow 2 64 - 1)

/-- The size in bits, as far as it fits 64 bits. -/
def bits (memory : Memory) : UInt64 :=
  saturatingMul memory.value (UInt64.ofNat memory.declaredUnit.bits)

end Memory

/-- The bits of an amount that may be absent, where absent is none. -/
def bitsOrZero (memory : Option Memory) : UInt64 :=
  (memory.map Memory.bits).getD 0

namespace Laptop

/-- The cores of a laptop, none without a processor. -/
def cores (laptop : Laptop) : UInt32 :=
  (laptop.cpu.map Cpu.numberCores).getD 0

/-- The lowest clock rate of a laptop, zero without a processor. -/
def minGhz (laptop : Laptop) : Binary64 :=
  (laptop.cpu.map Cpu.minGhz).getD .zero

end Laptop

namespace Filter

/-- Whether the price is within the bound: no bound is set, or the price is not above it. -/
def priceFits (filter : Filter) (laptop : Laptop) : Bool :=
  match filter.maxPriceUsd with
  | none => true
  | some maxPrice => !maxPrice.lt laptop.priceUsd

/-- Whether a laptop is within every bound. A comparison with a NaN never excludes. -/
def qualifies (filter : Filter) (laptop : Laptop) : Bool :=
  filter.priceFits laptop
    && filter.minCpuCores ≤ laptop.cores
    && !laptop.minGhz.lt filter.minCpuGhz
    && bitsOrZero filter.minRam ≤ bitsOrZero laptop.ram

end Filter

end LaptopCatalogue
