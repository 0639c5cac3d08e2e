import Mathlib.Data.Fintype.Card
import LaptopCatalogue.Proofs.Id.Grammar

/-!
# The bits of a UUID

A UUID is 128 bits, counted from the highest bit of its first byte. A random id takes all of them
from its entropy but six, which hold its version and its variant.

* `Uuid.bit`, `Uuid.eq_of_bit_eq`: the bits, which tell a UUID.
* `Uuid.stamp?`: the bits that are the same in all random ids.
* `Uuid.bit_version4`: the bits of a random id.
* `Uuid.version4_eq_iff`: when two random ids are the same.
* `Uuid.grouped_text`: the plain text of a UUID has small digits in groups.
-/

namespace LaptopCatalogue.Uuid

/-! ## Bits -/

/-- The byte that holds a bit. -/
def byteOf (uuid : Uuid) (i : Fin 128) : UInt8 :=
  have hbyte : i.val / 8 < uuid.bytes.length := by
    rw [uuid.length_bytes]
    omega
  uuid.bytes[i.val / 8]

/-- A bit of a UUID, where bit 0 is the highest one of the first byte. -/
def bit (uuid : Uuid) (i : Fin 128) : Bool :=
  (uuid.byteOf i).toNat.testBit (7 - i.val % 8)

/-- The bits that are the same in all random ids, with their values: the version, which is 4, in
four bits, and the variant, which is binary 10, in two. -/
def stamp? (i : Fin 128) : Option Bool :=
  if 48 ≤ i.val ∧ i.val < 52 then some (decide (i.val = 49))
  else if 64 ≤ i.val ∧ i.val < 66 then some (decide (i.val = 64))
  else none

/-- The bits of a random id that are random. -/
def randomBits : List (Fin 128) :=
  (List.finRange 128).filter fun i => (stamp? i).isNone

theorem mem_randomBits_iff (i : Fin 128) : i ∈ randomBits ↔ stamp? i = none := by
  simp [randomBits]

theorem byte_eq_of_testBit_eq {a b : UInt8}
    (h : ∀ j < 8, a.toNat.testBit j = b.toNat.testBit j) : a = b := by
  apply UInt8.toNat_inj.mp
  apply Nat.eq_of_testBit_eq
  intro j
  by_cases hj : j < 8
  · exact h j hj
  · -- a byte has no more bits than eight
    have hbound : 2 ^ 8 ≤ 2 ^ j := Nat.pow_le_pow_right (by decide) (Nat.not_lt.mp hj)
    have ha : a.toNat < 2 ^ j := Nat.lt_of_lt_of_le a.toNat_lt hbound
    have hb : b.toNat < 2 ^ j := Nat.lt_of_lt_of_le b.toNat_lt hbound
    rw [Nat.testBit_lt_two_pow ha, Nat.testBit_lt_two_pow hb]

theorem eq_of_bit_eq {uuid uuid' : Uuid} (h : ∀ i, uuid.bit i = uuid'.bit i) : uuid = uuid' := by
  obtain ⟨bytes, hbytes⟩ := uuid
  obtain ⟨bytes', hbytes'⟩ := uuid'
  have hsame : bytes = bytes' := by
    apply List.ext_getElem (hbytes.trans hbytes'.symm)
    intro k hk hk'
    apply byte_eq_of_testBit_eq
    intro j hj
    have hbit := h ⟨8 * k + (7 - j), by omega⟩
    have hindex : (8 * k + (7 - j)) / 8 = k := by omega
    have hplace : 7 - (8 * k + (7 - j)) % 8 = j := by omega
    simpa only [bit, byteOf, hindex, hplace] using hbit
  subst hsame
  rfl

/-! ## Random ids -/

/-- A byte whose high bits, from `low` on, are replaced by a single one at `top`. -/
theorem testBit_stamp {mask mark : UInt8} {low top : Nat}
    (hmask : ∀ j < 8, mask.toNat.testBit j = decide (j < low))
    (hmark : ∀ j < 8, mark.toNat.testBit j = decide (j = top)) (htop : low ≤ top) (b : UInt8)
    {j : Nat} (hj : j < 8) :
    ((b &&& mask) ||| mark).toNat.testBit j =
      if low ≤ j then decide (j = top) else b.toNat.testBit j := by
  rw [UInt8.toNat_or, UInt8.toNat_and, Nat.testBit_or, Nat.testBit_and, hmask j hj, hmark j hj]
  by_cases hhigh : low ≤ j
  · have hnotLow : ¬j < low := by omega
    simp [hhigh, hnotLow]
  · have hlow : j < low := by omega
    have hne : j ≠ top := by omega
    simp [hhigh, hlow, hne]

theorem testBit_stampVersion (b : UInt8) {j : Nat} (hj : j < 8) :
    (stampVersion b).toNat.testBit j = if 4 ≤ j then decide (j = 6) else b.toNat.testBit j :=
  testBit_stamp (by decide) (by decide) (by decide) b hj

theorem testBit_stampVariant (b : UInt8) {j : Nat} (hj : j < 8) :
    (stampVariant b).toNat.testBit j = if 6 ≤ j then decide (j = 7) else b.toNat.testBit j :=
  testBit_stamp (by decide) (by decide) (by decide) b hj

theorem byteOf_version4 (entropy : Uuid) (i : Fin 128) :
    entropy.version4.byteOf i =
      if i.val / 8 = 6 then stampVersion (entropy.byteOf i)
      else if i.val / 8 = 8 then stampVariant (entropy.byteOf i)
      else entropy.byteOf i := by
  simp only [byteOf, version4, List.getElem_modify]
  split_ifs <;> first | rfl | omega

/-- A random id has the bits of its entropy, apart from those that hold version and variant. -/
theorem bit_version4 (entropy : Uuid) (i : Fin 128) :
    entropy.version4.bit i = (stamp? i).getD (entropy.bit i) := by
  have hplace : 7 - i.val % 8 < 8 := by omega
  rw [bit, byteOf_version4, stamp?]
  by_cases hversion : i.val / 8 = 6
  · rw [if_pos hversion, testBit_stampVersion _ hplace]
    by_cases hhigh : 4 ≤ 7 - i.val % 8
    · rw [if_pos hhigh, if_pos (by omega), Option.getD_some, decide_eq_decide]
      omega
    · rw [if_neg hhigh, if_neg (by omega), if_neg (by omega), Option.getD_none, bit]
  · rw [if_neg hversion]
    by_cases hvariant : i.val / 8 = 8
    · rw [if_pos hvariant, testBit_stampVariant _ hplace]
      by_cases hhigh : 6 ≤ 7 - i.val % 8
      · rw [if_pos hhigh, if_neg (by omega), if_pos (by omega), Option.getD_some,
          decide_eq_decide]
        omega
      · rw [if_neg hhigh, if_neg (by omega), if_neg (by omega), Option.getD_none, bit]
    · rw [if_neg hvariant, if_neg (by omega), if_neg (by omega), Option.getD_none, bit]

/-- Two random ids are the same exactly if their entropies agree on the random bits. -/
theorem version4_eq_iff (entropy entropy' : Uuid) :
    entropy.version4 = entropy'.version4 ↔
      ∀ i ∈ randomBits, entropy.bit i = entropy'.bit i := by
  constructor
  · intro hsame i hi
    have hbit := congrArg (fun uuid => uuid.bit i) hsame
    simpa only [bit_version4, (mem_randomBits_iff i).mp hi, Option.getD_none] using hbit
  · intro hagree
    apply eq_of_bit_eq
    intro i
    rw [bit_version4, bit_version4]
    cases hstamp : stamp? i with
    | some value => rfl
    | none => exact hagree i ((mem_randomBits_iff i).mpr hstamp)

/-! ## Texts -/

theorem digit_mem : ∀ n < 16, digit n ∈ "0123456789abcdef".toList := by decide

theorem mem_of_mem_digits {bytes : List UInt8} :
    ∀ c ∈ digits bytes, c ∈ "0123456789abcdef".toList := by
  induction bytes with
  | nil =>
    intro c hc
    cases hc
  | cons byte bytes ih =>
    intro c hc
    have hbyte : byte.toNat < 256 := byte.toNat_lt
    rcases List.mem_cons.mp hc with rfl | hc
    · exact digit_mem _ (by omega)
    · rcases List.mem_cons.mp hc with rfl | hc
      · exact digit_mem _ (by omega)
      · exact ih c hc

/-- The plain text of a UUID has its digits in groups. -/
theorem grouped_text (uuid : Uuid) : Grouped (digits uuid.bytes) uuid.text.toList := by
  refine (grouped_iff _ _).mpr ⟨?_, ?_⟩
  · rw [length_digits, uuid.length_bytes]
    rfl
  · rw [text, String.toList_ofList]

theorem text_inj {uuid uuid' : Uuid} : uuid.text = uuid'.text ↔ uuid = uuid' := by
  constructor
  · intro htext
    have hread : parse uuid.text = .ok uuid' := by rw [htext, parse_text]
    rw [parse_text, Except.ok.injEq] at hread
    exact hread
  · rintro rfl
    rfl

end LaptopCatalogue.Uuid
