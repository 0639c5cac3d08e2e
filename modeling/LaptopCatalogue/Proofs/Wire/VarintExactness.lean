import Mathlib.Algebra.BigOperators.Fin
import LaptopCatalogue.Proofs.Wire.RoundTrip

/-!
# Varints are exact

What is read is what the bytes say, as a sum without a limit, or nothing at all; and of all the
spellings of a number the one that is written is the shortest.

* `groups_eq_sum`: the number in the bytes, as a sum over their places.
* `Spells.eq_write_or_length_lt`: every other spelling is longer than what is written.
* `Unreadable`: what no number can be read from, without a reader.
* `read_eq_none_iff`: the reader refuses just these.
* `varints_are_exact`: the statement about all numbers and all byte strings.
-/

namespace LaptopCatalogue.Wire.Varint

/-- The byte strings from which no number can be read: the bytes end too early, the tenth byte has
more than the one bit that is left, or ten bytes pass without an end. -/
inductive Unreadable : Bytes → Prop where
  | ended {bs : Bytes} (hmore : ∀ b ∈ bs, ¬b < 128) : Unreadable bs
  | overflowing {front rest : Bytes} {tenth : UInt8} (hlength : front.length = 9)
      (hmore : ∀ b ∈ front, ¬b < 128) (htenth : 1 < tenth) : Unreadable (front ++ tenth :: rest)
  | endless {front rest : Bytes} (hlength : front.length = 10) (hmore : ∀ b ∈ front, ¬b < 128) :
      Unreadable (front ++ rest)

/-! ## The number in the bytes -/

/-- The number whose groups of seven bits the bytes hold, as a sum over the places of the bytes. -/
theorem groups_eq_sum (bs : Bytes) :
    groups bs = ∑ i : Fin bs.length, bs[i].toNat % 128 * 128 ^ i.val := by
  induction bs with
  | nil => rfl
  | cons b bs ih =>
    have hhigh : ∑ i : Fin bs.length, bs[i].toNat % 128 * 128 ^ (i.val + 1) =
        128 * ∑ i : Fin bs.length, bs[i].toNat % 128 * 128 ^ i.val := by
      rw [Finset.mul_sum]
      apply Finset.sum_congr rfl
      intro i _
      rw [pow_succ, ← mul_assoc, mul_comm]
    calc groups (b :: bs)
        = b.toNat % 128 + 128 * ∑ i : Fin bs.length, bs[i].toNat % 128 * 128 ^ i.val := by
          rw [groups, ih]
      _ = b.toNat % 128 * 128 ^ 0 +
            ∑ i : Fin bs.length, bs[i].toNat % 128 * 128 ^ (i.val + 1) := by
          rw [hhigh, pow_zero, mul_one]
      _ = ∑ i : Fin (b :: bs).length, (b :: bs)[i].toNat % 128 * 128 ^ i.val :=
          (Fin.sum_univ_succ fun i : Fin (bs.length + 1) =>
            (b :: bs)[i].toNat % 128 * 128 ^ i.val).symm

/-! ## The shortest spelling -/

/-- Two byte strings of one length that end with their last byte and hold the same groups are equal:
their top bits are the same anyway. -/
theorem Terminated.eq_of_groups_eq {bs bs' : Bytes} (h : Terminated bs) (h' : Terminated bs')
    (hlength : bs.length = bs'.length) (hgroups : groups bs = groups bs') : bs = bs' := by
  induction h generalizing bs' with
  | @last b hlast =>
    cases h' with
    | @last b' hlast' =>
      rw [lt_128_iff] at hlast hlast'
      simp only [groups] at hgroups
      have hbyte : b.toNat = b'.toNat := by omega
      rw [UInt8.toNat_inj.mp hbyte]
    | more _ hrest' =>
      have hpos := List.length_pos_iff.mpr hrest'.ne_nil
      simp only [List.length_cons, List.length_nil] at hlength
      omega
  | @more b bs hmore hrest ih =>
    cases h' with
    | last _ =>
      have hpos := List.length_pos_iff.mpr hrest.ne_nil
      simp only [List.length_cons, List.length_nil] at hlength
      omega
    | @more b' bs' hmore' hrest' =>
      rw [lt_128_iff] at hmore hmore'
      simp only [groups] at hgroups
      have hlt := b.toNat_lt
      have hlt' := b'.toNat_lt
      have hbyte : b.toNat = b'.toNat := by omega
      have hhigh : groups bs = groups bs' := by omega
      rw [UInt8.toNat_inj.mp hbyte, ih hrest' (by simpa using hlength) hhigh]

/-- Every other spelling of a number is longer than what is written. -/
theorem Spells.eq_write_or_length_lt {bs : Bytes} {n : UInt64} (h : Spells bs n) :
    bs = write n ∨ (write n).length < bs.length := by
  have hwrite := spells_write n
  have hle : (write n).length ≤ bs.length := length_write n ▸ h.size_le
  -- a spelling of the same length has the same groups, and so the same bytes
  rcases Nat.eq_or_lt_of_le hle with hsame | hlt
  · left
    apply h.terminated.eq_of_groups_eq hwrite.terminated hsame.symm
    rw [h.groups_eq, hwrite.groups_eq]
  · exact .inr hlt

theorem spells_of_read {bs : Bytes} {n : UInt64} (h : read bs = some (n, [])) : Spells bs n := by
  obtain ⟨used, hbs, hspells⟩ := (read_eq_some_iff bs [] n).mp h
  rw [List.append_nil] at hbs
  exact hbs ▸ hspells

theorem Spells.read_append {used : Bytes} {n : UInt64} (h : Spells used n) (rest : Bytes) :
    read (used ++ rest) = some (n, rest) :=
  (read_eq_some_iff _ rest n).mpr ⟨used, rfl, h⟩

/-! ## Refusals -/

section

variable {bs front rest : Bytes} {b : UInt8} {room : Nat}

theorem readWithin_cons_of_more (hmore : ¬b < 128) :
    readWithin (room + 1) (b :: rest) =
      (readWithin room rest).map fun (high, rest) => (b.toNat - 128 + 128 * high, rest) := by
  rw [readWithin, if_neg hmore]

/-- Without an end nothing is read, however much room there is. -/
theorem readWithin_of_ended (hmore : ∀ b ∈ bs, ¬b < 128) (room : Nat) :
    readWithin room bs = none := by
  induction bs generalizing room with
  | nil => cases room <;> rfl
  | cons b bs ih =>
    cases room with
    | zero => rfl
    | succ room =>
      rw [List.forall_mem_cons] at hmore
      rw [readWithin_cons_of_more hmore.1, ih hmore.2]
      rfl

/-- Nothing is read either if the byte that fills the last place is above 1. -/
theorem readWithin_of_overflowing (hmore : ∀ b ∈ front, ¬b < 128) (hlast : 1 < b) :
    readWithin (front.length + 1) (front ++ b :: rest) = none := by
  induction front with
  | nil =>
    by_cases hend : b < 128
    · simp [readWithin, hend, hlast]
    · rw [List.nil_append, readWithin_cons_of_more hend]
      rfl
  | cons c front ih =>
    rw [List.forall_mem_cons] at hmore
    rw [List.cons_append, List.length_cons, readWithin_cons_of_more hmore.1, ih hmore.2]
    rfl

/-- Nor is it if the room is used up without an end. -/
theorem readWithin_of_endless (hmore : ∀ b ∈ front, ¬b < 128) :
    readWithin front.length (front ++ rest) = none := by
  induction front with
  | nil => rfl
  | cons b front ih =>
    rw [List.forall_mem_cons] at hmore
    rw [List.cons_append, List.length_cons, readWithin_cons_of_more hmore.1, ih hmore.2]
    rfl

/-- If nothing is read, then the bytes have no end or the byte in the last place is above 1. -/
theorem readWithin_eq_none (h : readWithin (room + 1) bs = none) :
    (∀ b ∈ bs, ¬b < 128) ∨
      ∃ front b rest, bs = front ++ b :: rest ∧ front.length = room ∧
        (∀ b ∈ front, ¬b < 128) ∧ 1 < b := by
  induction room generalizing bs with
  | zero =>
    cases bs with
    | nil => exact .inl (by simp)
    | cons b bs =>
      -- the last place: a byte that does not end the number is above 1 as well
      refine .inr ⟨[], b, bs, rfl, rfl, by simp, ?_⟩
      by_cases hend : b < 128
      · simpa [readWithin, hend] using h
      · rw [UInt8.lt_iff_toNat_lt] at hend ⊢
        exact Nat.lt_of_lt_of_le (by decide) (Nat.le_of_not_lt hend)
  | succ room ih =>
    cases bs with
    | nil => exact .inl (by simp)
    | cons b bs =>
      by_cases hend : b < 128
      · simp [readWithin, hend] at h
      · rw [readWithin_cons_of_more hend, Option.map_eq_none_iff] at h
        rcases ih h with hmore | ⟨front, c, rest, rfl, hlength, hmore, hlast⟩
        · exact .inl (List.forall_mem_cons.mpr ⟨hend, hmore⟩)
        · exact .inr ⟨b :: front, c, rest, rfl, by rw [List.length_cons, hlength],
            List.forall_mem_cons.mpr ⟨hend, hmore⟩, hlast⟩

end

/-- The reader refuses the byte strings from which no number can be read, and no others. -/
theorem read_eq_none_iff (bs : Bytes) : read bs = none ↔ Unreadable bs := by
  rw [read, Option.map_eq_none_iff]
  constructor
  · intro h
    rcases readWithin_eq_none h with hmore | ⟨front, b, rest, rfl, hlength, hmore, hlast⟩
    · exact .ended hmore
    · exact .overflowing hlength hmore hlast
  · intro h
    cases h with
    | ended hmore => exact readWithin_of_ended hmore maxBytes
    | @overflowing front rest tenth hlength hmore htenth =>
      have hroom : maxBytes = front.length + 1 := by rw [hlength]; rfl
      rw [hroom]
      exact readWithin_of_overflowing hmore htenth
    | @endless front rest hlength hmore =>
      have hroom : maxBytes = front.length := by rw [hlength]; rfl
      rw [hroom]
      exact readWithin_of_endless hmore

/-- A number is read back with what stands behind it, and no byte string other than the one that was
written, of at most ten bytes, gives it in as few. What is read from some bytes, at most ten, is the
sum of their groups of seven bits over the places, without a carry beyond 64 bits, whatever stands
behind them. Nothing is read exactly if the bytes end too early, the tenth byte is above 1 or ten
bytes pass without an end. A signed number of 32 bits is read back from its extension to 64 bits. -/
theorem varints_are_exact :
    (∀ n : UInt64, (∀ rest, read (write n ++ rest) = some (n, rest)) ∧
      (write n).length ≤ 10 ∧
      ∀ bs, read bs = some (n, []) → bs = write n ∨ (write n).length < bs.length) ∧
    (∀ bs rest n, read bs = some (n, rest) → ∃ used, bs = used ++ rest ∧
      1 ≤ used.length ∧ used.length ≤ 10 ∧
      n.toNat = ∑ i : Fin used.length, used[i].toNat % 128 * 128 ^ i.val ∧ n.toNat < 2 ^ 64 ∧
      ∀ rest', read (used ++ rest') = some (n, rest')) ∧
    (∀ bs, read bs = none ↔ Unreadable bs) ∧
    ∀ (v : Int32) (rest : Bytes), ∃ n, read (write v.toInt64.toUInt64 ++ rest) = some (n, rest) ∧
      n.toUInt32.toInt32 = v := by
  refine ⟨?_, ?_, read_eq_none_iff, ?_⟩
  · intro n
    have hwrite := spells_write n
    refine ⟨hwrite.read_append, hwrite.length_le, ?_⟩
    intro bs hread
    exact (spells_of_read hread).eq_write_or_length_lt
  · intro bs rest n hread
    obtain ⟨used, hbs, hspells⟩ := (read_eq_some_iff bs rest n).mp hread
    have hvalue : n.toNat = ∑ i : Fin used.length, used[i].toNat % 128 * 128 ^ i.val := by
      rw [← hspells.groups_eq, groups_eq_sum]
    exact ⟨used, hbs, hspells.length_pos, hspells.length_le, hvalue, n.toNat_lt,
      hspells.read_append⟩
  · intro v rest
    exact ⟨_, (spells_write _).read_append rest, Scalar.low_signExtended v⟩

-- the tenth byte has a bit more than fits
example : read (List.replicate 9 0xff ++ [0x03]) = none := by decide

/-- A one that is spelled in ten bytes, in front of another number. -/
theorem varints_are_exact_padded :
    let padded : Bytes := 0x81 :: (List.replicate 8 0x80 ++ [0x00])
    read padded = some (1, []) ∧ (padded = write 1 ∨ (write 1).length < padded.length) ∧
    read (padded ++ [0x07]) = some (1, [0x07]) ∧
    ∃ used, padded ++ [0x07] = used ++ [0x07] ∧ 1 ≤ used.length ∧ used.length ≤ 10 ∧
      (1 : UInt64).toNat = ∑ i : Fin used.length, used[i].toNat % 128 * 128 ^ i.val ∧
      (1 : UInt64).toNat < 2 ^ 64 ∧ ∀ rest, read (used ++ rest) = some (1, rest) := by
  intro padded
  have hread : read padded = some (1, []) := by decide
  have hread' : read (padded ++ [0x07]) = some (1, [0x07]) := by decide
  obtain ⟨hwritten, htaken, -⟩ := varints_are_exact
  obtain ⟨-, -, hshortest⟩ := hwritten 1
  exact ⟨hread, hshortest _ hread, hread', htaken _ _ _ hread'⟩

end LaptopCatalogue.Wire.Varint
