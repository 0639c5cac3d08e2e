import LaptopCatalogue.Proofs.Laptop.Bounds

/-!
# Sizes of memory

Memory is compared in bits that are cut off at 64 binary digits. Nothing wraps on the way, so a
comparison says the same about the exact sizes as long as the smaller one is not cut off, and it
does not matter in which unit a size is written.

* `Coded.eq_code_of_ofCode?`: a number that stands for a choice is the code of that choice.
* `Memory.toNat_bits`: the bits of an amount are its exact size, or the largest number there is.
* `Memory.bits_le_bits_iff`: what a comparison of bits says about exact sizes.
* `memory_sizes_compare_exactly` is the statement about all amounts, filters and laptops.
-/

namespace LaptopCatalogue

/-! ## Units by their codes -/

/-- Where every choice is listed once, only the code of a choice stands for it. -/
theorem Coded.eq_code_of_ofCode? {α : Type} [Coded α] [DecidableEq α]
    (hnodup : (Coded.all : List α).Nodup) {code : Int32} {choice : α}
    (h : Coded.ofCode? code = some choice) : code = Coded.code choice := by
  unfold Coded.ofCode? at h
  split at h
  · cases h
  · rename_i hnonneg
    have hsign : 0 ≤ code.toInt := by
      rw [Int32.lt_iff_toInt_lt] at hnonneg
      exact Int.not_lt.mp hnonneg
    obtain ⟨hlength, hchoice⟩ := List.getElem?_eq_some_iff.mp h
    have hindex : (Coded.all : List α).idxOf choice = code.toInt.toNat := by
      rw [← hchoice]
      exact hnodup.idxOf_getElem _ hlength
    calc code = Int32.ofInt code.toInt := (Int32.ofInt_toInt code).symm
      _ = Int32.ofInt (code.toInt.toNat : Int) := by rw [Int.toNat_of_nonneg hsign]
      _ = Int32.ofNat code.toInt.toNat := Int32.ofInt_eq_ofNat
      _ = Coded.code choice := by rw [← hindex]; rfl

namespace MemoryUnit

/-- Every unit that is worth something is worth a power of two. -/
theorem exists_bits_eq_two_pow {unit : MemoryUnit} (h : unit ≠ .unknown) :
    ∃ k < 64, unit.bits = 2 ^ k := by
  cases unit with
  | unknown => exact absurd rfl h
  | bit => exact ⟨0, by decide, rfl⟩
  | byte => exact ⟨3, by decide, rfl⟩
  | kilobyte => exact ⟨13, by decide, rfl⟩
  | megabyte => exact ⟨23, by decide, rfl⟩
  | gigabyte => exact ⟨33, by decide, rfl⟩
  | terabyte => exact ⟨43, by decide, rfl⟩

theorem bits_lt (unit : MemoryUnit) : unit.bits < 2 ^ 64 := by
  by_cases h : unit = .unknown
  · subst h
    exact Nat.two_pow_pos 64
  · obtain ⟨k, hk, hbits⟩ := exists_bits_eq_two_pow h
    rw [hbits]
    exact Nat.pow_lt_pow_right (by decide) hk

/-- A smaller unit divides a larger one. -/
theorem bits_dvd_bits {unit smaller : MemoryUnit} (hsmaller : smaller ≠ .unknown)
    (hle : smaller.bits ≤ unit.bits) : smaller.bits ∣ unit.bits := by
  obtain ⟨k, _, hk⟩ := exists_bits_eq_two_pow hsmaller
  by_cases hunit : unit = .unknown
  · subst hunit
    exact Nat.dvd_zero _
  · obtain ⟨l, _, hl⟩ := exists_bits_eq_two_pow hunit
    rw [hk, hl] at hle ⊢
    exact Nat.pow_dvd_pow 2 ((Nat.pow_le_pow_iff_right (by decide)).mp hle)

end MemoryUnit

namespace Memory

theorem declaredUnit_code (value : UInt64) (unit : MemoryUnit) :
    (⟨value, Coded.code unit⟩ : Memory).declaredUnit = unit := by
  cases unit <;> rfl

/-- A number that is the code of no unit makes an amount of nothing. -/
theorem exactBits_of_undeclared {memory : Memory}
    (h : ∀ unit : MemoryUnit, memory.unit ≠ Coded.code unit) : memory.exactBits = 0 := by
  have hcode : Coded.ofCode? memory.unit = (none : Option MemoryUnit) := by
    rw [Option.eq_none_iff_forall_ne_some]
    intro unit hunit
    exact h unit (Coded.eq_code_of_ofCode? (by decide) hunit)
  have hunit : memory.declaredUnit = .unknown := by
    unfold declaredUnit Coded.ofCode
    rw [hcode]
    rfl
  unfold exactBits
  rw [hunit]
  rfl

theorem exactBits_code (value : UInt64) (unit : MemoryUnit) :
    (⟨value, Coded.code unit⟩ : Memory).exactBits = value.toNat * unit.bits := by
  unfold exactBits
  rw [declaredUnit_code]

/-! ## Bits and exact sizes -/

/-- A product either fits into 64 binary digits or is cut off there. -/
theorem toNat_saturatingMul (a b : UInt64) :
    (saturatingMul a b).toNat = min (a.toNat * b.toNat) (2 ^ 64 - 1) := by
  unfold saturatingMul
  split
  · rename_i hfits
    have hlt : a.toNat * b.toNat < 2 ^ 64 := hfits
    rw [UInt64.toNat_mul, Nat.mod_eq_of_lt hlt, Nat.min_eq_left (Nat.le_sub_one_of_lt hlt)]
  · rename_i hfits
    have hle : 2 ^ 64 ≤ a.toNat * b.toNat := Nat.not_lt.mp hfits
    rw [Nat.min_eq_right ((Nat.sub_le _ _).trans hle)]
    rfl

theorem toNat_bits (memory : Memory) : memory.bits.toNat = min memory.exactBits (2 ^ 64 - 1) := by
  have hunit : (UInt64.ofNat memory.declaredUnit.bits).toNat = memory.declaredUnit.bits :=
    UInt64.toNat_ofNat_of_lt' memory.declaredUnit.bits_lt
  unfold bits
  rw [toNat_saturatingMul, hunit]
  rfl

/-- The size of an amount that may be absent, where absent is none. -/
def exactBitsOrZero (memory : Option Memory) : Nat := (memory.map exactBits).getD 0

theorem toNat_bitsOrZero (memory : Option Memory) :
    (bitsOrZero memory).toNat = min (exactBitsOrZero memory) (2 ^ 64 - 1) := by
  cases memory with
  | none => rfl
  | some memory => exact memory.toNat_bits

/-- Only the size that is asked for may be cut off without harm: what is there is at least the cut
size exactly if its own cut size is. -/
theorem min_le_min_iff (required present limit : Nat) :
    min required limit ≤ min present limit ↔ min required limit ≤ present := by
  omega

theorem bits_le_bits_iff (a b : Memory) :
    b.bits ≤ a.bits ↔ min b.exactBits (2 ^ 64 - 1) ≤ a.exactBits := by
  rw [UInt64.le_iff_toNat_le, toNat_bits, toNat_bits, min_le_min_iff]

/-- A size in another unit has the same bits if it is the same size. -/
theorem bits_eq_of_exactBits_eq {a b : Memory} (h : a.exactBits = b.exactBits) :
    a.bits = b.bits := by
  rw [← UInt64.toNat_inj, toNat_bits, toNat_bits, h]

/-- Writing a size in a smaller unit does not change it. -/
theorem exactBits_reexpressed {value : UInt64} {unit smaller : MemoryUnit}
    (hsmaller : smaller ≠ .unknown) (hle : smaller.bits ≤ unit.bits)
    (hfits : value.toNat * (unit.bits / smaller.bits) < 2 ^ 64) :
    (⟨UInt64.ofNat (value.toNat * (unit.bits / smaller.bits)), Coded.code smaller⟩ :
        Memory).exactBits =
      (⟨value, Coded.code unit⟩ : Memory).exactBits := by
  have hdvd := MemoryUnit.bits_dvd_bits hsmaller hle
  rw [exactBits_code, exactBits_code, UInt64.toNat_ofNat_of_lt' hfits, Nat.mul_assoc,
    Nat.div_mul_cancel hdvd]

end Memory

/-! ## The bound on memory -/

namespace Filter

open Memory (exactBitsOrZero)

theorem meets_memory_iff (filter : Filter) (laptop : Laptop) :
    filter.Meets laptop .memory ↔
      min (exactBitsOrZero filter.minRam) (2 ^ 64 - 1) ≤ exactBitsOrZero laptop.ram := by
  unfold Meets
  rw [UInt64.le_iff_toNat_le, Memory.toNat_bitsOrZero, Memory.toNat_bitsOrZero,
    Memory.min_le_min_iff]

/-- The bound on memory beside the others. -/
theorem qualifies_iff_memory (filter : Filter) (laptop : Laptop) :
    filter.qualifies laptop ↔ (∀ other, other ≠ .memory → filter.Meets laptop other) ∧
      min (exactBitsOrZero filter.minRam) (2 ^ 64 - 1) ≤ exactBitsOrZero laptop.ram := by
  rw [qualifies_iff, ← meets_memory_iff]
  constructor
  · intro h
    exact ⟨fun other _ => h other, h .memory⟩
  · rintro ⟨hothers, hmemory⟩ bound
    by_cases hbound : bound = .memory
    · subst hbound
      exact hmemory
    · exact hothers bound hbound

end Filter

open Memory (exactBitsOrZero) in
/-- The bits of an amount are its exact size, cut off at the largest number of 64 binary digits.
The exact size is the value times the bits of the unit; numbers that are no unit's code make nothing
of any value. So two amounts compare by their bits as the first one's exact size compares with the
second one's cut size, and a laptop qualifies if it is within the other bounds and its exact memory
is at least what is asked for, cut in that way: enough memory is never refused, and too little is
never let through unless more than 64 digits of bits are asked for. And a size that is written in a
smaller unit, as long as its value fits, has the same bits. -/
theorem memory_sizes_compare_exactly (a b : Memory) (filter : Filter) (laptop : Laptop)
    (value : UInt64) (unit smaller : MemoryUnit) :
    a.bits.toNat = min a.exactBits (2 ^ 64 - 1) ∧
    (⟨value, Coded.code unit⟩ : Memory).exactBits = value.toNat * unit.bits ∧
    ((∀ declared : MemoryUnit, a.unit ≠ Coded.code declared) → a.exactBits = 0) ∧
    (b.bits ≤ a.bits ↔ min b.exactBits (2 ^ 64 - 1) ≤ a.exactBits) ∧
    (filter.qualifies laptop ↔ (∀ other, other ≠ .memory → filter.Meets laptop other) ∧
      min (exactBitsOrZero filter.minRam) (2 ^ 64 - 1) ≤ exactBitsOrZero laptop.ram) ∧
    (exactBitsOrZero filter.minRam ≤ exactBitsOrZero laptop.ram →
      filter.Meets laptop .memory) ∧
    (exactBitsOrZero filter.minRam ≤ 2 ^ 64 - 1 →
      exactBitsOrZero laptop.ram < exactBitsOrZero filter.minRam → ¬filter.qualifies laptop) ∧
    (smaller ≠ .unknown → smaller.bits ≤ unit.bits →
      value.toNat * (unit.bits / smaller.bits) < 2 ^ 64 →
      (⟨UInt64.ofNat (value.toNat * (unit.bits / smaller.bits)), Coded.code smaller⟩ :
          Memory).bits =
        (⟨value, Coded.code unit⟩ : Memory).bits) := by
  have hqualifies := filter.qualifies_iff_memory laptop
  refine ⟨a.toNat_bits, Memory.exactBits_code value unit, Memory.exactBits_of_undeclared,
    Memory.bits_le_bits_iff a b, hqualifies, ?_, ?_, ?_⟩
  · intro henough
    rw [Filter.meets_memory_iff]
    exact (Nat.min_le_left _ _).trans henough
  · intro hfits hless hqualified
    have hle := (hqualifies.mp hqualified).2
    rw [Nat.min_eq_left hfits] at hle
    exact absurd hless (Nat.not_lt.mpr hle)
  · intro hsmaller hle hfits
    exact Memory.bits_eq_of_exactBits_eq (Memory.exactBits_reexpressed hsmaller hle hfits)

/-- Two to the 64th bits are cut off by one, whether they are written in terabytes or in bytes, and
that is enough for whoever asks for more. -/
theorem memory_sizes_compare_exactly_cut :
    let terabytes : Memory := ⟨2097152, Coded.code MemoryUnit.terabyte⟩
    let bytes : Memory := ⟨UInt64.ofNat (2097152 * 2 ^ 40), Coded.code MemoryUnit.byte⟩
    let asked : Memory := ⟨0xffffffffffffffff, Coded.code MemoryUnit.terabyte⟩
    MemoryUnit.byte ≠ .unknown ∧ MemoryUnit.byte.bits ≤ MemoryUnit.terabyte.bits ∧
      2097152 * (MemoryUnit.terabyte.bits / MemoryUnit.byte.bits) < 2 ^ 64 ∧
      bytes.bits = terabytes.bits ∧ terabytes.bits.toNat = 2 ^ 64 - 1 ∧
      asked.bits ≤ terabytes.bits := by
  intro terabytes bytes asked
  have hsmaller : MemoryUnit.byte ≠ .unknown := by decide
  have hle : MemoryUnit.byte.bits ≤ MemoryUnit.terabyte.bits := by decide
  have hfits : 2097152 * (MemoryUnit.terabyte.bits / MemoryUnit.byte.bits) < 2 ^ 64 := by decide
  obtain ⟨hbits, hexact, _, hcompare, _, _, _, hreexpressed⟩ :=
    memory_sizes_compare_exactly terabytes asked {} {} 2097152 .terabyte .byte
  have hsize : terabytes.exactBits = 2 ^ 64 := hexact
  refine ⟨hsmaller, hle, hfits, hreexpressed hsmaller hle hfits, ?_, ?_⟩
  · rw [hbits, hsize]
    rfl
  · rw [hcompare, hsize]
    exact (Nat.min_le_right _ _).trans (Nat.sub_le _ _)

end LaptopCatalogue
