import LaptopCatalogue.Wire.Varint

/-!
# Spellings of varints

A spelling is a byte string whose bytes but the last have the top bit set, and it stands for the
number whose groups of seven bits they hold. Reading accepts exactly the spellings of at most ten
bytes of numbers below 2⁶⁴, and takes nothing of what follows; writing gives such a spelling.

* `Varint.Spells`: what a varint looks like, without a reader.
* `Varint.read_eq_some_iff`: the reader accepts spellings and nothing else.
* `Varint.spells_write`, `Varint.length_write`: what is written, and how long it is.
* `Varint.size_le_iff`, `Varint.Spells.size_le`: how many bytes a number takes, and that no spelling
  takes fewer.
-/

namespace LaptopCatalogue.Wire.Varint

/-- Every byte but the last has its top bit set. -/
inductive Terminated : Bytes → Prop where
  | last {b : UInt8} (hlast : b < 128) : Terminated [b]
  | more {b : UInt8} {bs : Bytes} (hmore : ¬b < 128) (hrest : Terminated bs) : Terminated (b :: bs)

/-- The number whose groups of seven bits the bytes hold, lowest first. -/
def groups : Bytes → Nat
  | [] => 0
  | b :: bs => b.toNat % 128 + 128 * groups bs

/-- A spelling of a number, shortest or not. -/
structure Spells (bs : Bytes) (n : UInt64) : Prop where
  terminated : Terminated bs
  length_le : bs.length ≤ maxBytes
  groups_eq : groups bs = n.toNat

theorem Terminated.ne_nil {bs : Bytes} (h : Terminated bs) : bs ≠ [] := by
  cases h <;> simp

theorem Spells.length_pos {bs : Bytes} {n : UInt64} (h : Spells bs n) : 0 < bs.length :=
  List.length_pos_iff.mpr h.terminated.ne_nil

theorem lt_128_iff (b : UInt8) : b < 128 ↔ b.toNat < 128 :=
  UInt8.lt_iff_toNat_lt

/-- The first number that needs more than so many groups of seven bits. -/
def bound (places : Nat) : Nat := Nat.pow 128 places

@[simp] theorem bound_zero : bound 0 = 1 := rfl

theorem bound_succ (places : Nat) : bound (places + 1) = bound places * 128 := rfl

theorem bound_pos (places : Nat) : 0 < bound places := Nat.pow_pos (by decide)

/-! ## Reading -/

/-- With room for so many bytes after the first, only what ends within them is accepted, and the
last place holds 0 or 1. -/
theorem readWithin_sound {room n : Nat} {bs rest : Bytes}
    (h : readWithin (room + 1) bs = some (n, rest)) :
    ∃ used, bs = used ++ rest ∧ Terminated used ∧ used.length ≤ room + 1 ∧ groups used = n ∧
      n < 2 * bound room := by
  induction room generalizing bs n with
  | zero =>
    -- the last place: its byte ends the number and adds one bit at most
    cases bs with
    | nil => simp [readWithin] at h
    | cons b bs =>
      by_cases hb : b < 128
      · by_cases hone : 1 < b
        · simp [readWithin, hb, hone] at h
        · obtain ⟨rfl, rfl⟩ : b.toNat = n ∧ bs = rest := by simpa [readWithin, hb, hone] using h
          have hlow := (lt_128_iff b).mp hb
          have hle : b.toNat ≤ 1 := by simpa [UInt8.lt_iff_toNat_lt] using hone
          refine ⟨[b], rfl, .last hb, by simp, ?_, ?_⟩
          · simp [groups]
            omega
          · rw [bound_zero]
            omega
      · simp [readWithin, hb] at h
  | succ room ih =>
    cases bs with
    | nil => simp [readWithin] at h
    | cons b bs =>
      by_cases hb : b < 128
      · obtain ⟨rfl, rfl⟩ : b.toNat = n ∧ bs = rest := by simpa [readWithin, hb] using h
        have hlow := (lt_128_iff b).mp hb
        have hpos := bound_pos room
        refine ⟨[b], rfl, .last hb, by simp, ?_, ?_⟩
        · simp [groups]
          omega
        · rw [bound_succ]
          omega
      · obtain ⟨high, hread, rfl⟩ :
            ∃ high, readWithin (room + 1) bs = some (high, rest) ∧
              b.toNat - 128 + 128 * high = n := by
          simpa [readWithin, hb] using h
        obtain ⟨used, rfl, hterminated, hlength, rfl, hfits⟩ := ih hread
        have hhigh : ¬b.toNat < 128 := mt (lt_128_iff b).mpr hb
        have hbyte := b.toNat_lt
        refine ⟨b :: used, rfl, .more hb hterminated, by simpa using hlength, ?_, ?_⟩
        · simp only [groups]
          omega
        · rw [bound_succ]
          omega

/-- What ends within the room and whose last place holds 0 or 1 is accepted, whatever follows. -/
theorem readWithin_complete {used : Bytes} (h : Terminated used) {room : Nat}
    (hlength : used.length ≤ room + 1) (hfits : groups used < 2 * bound room)
    (rest : Bytes) : readWithin (room + 1) (used ++ rest) = some (groups used, rest) := by
  induction h generalizing room with
  | @last b hlast =>
    have hlow := (lt_128_iff b).mp hlast
    have hgroups : groups [b] = b.toNat := by
      simp only [groups]
      omega
    rw [hgroups] at hfits ⊢
    have hone : ¬(room = 0 ∧ 1 < b) := by
      rintro ⟨rfl, hone⟩
      have hgt : 1 < b.toNat := UInt8.lt_iff_toNat_lt.mp hone
      rw [bound_zero] at hfits
      omega
    simp [readWithin, hlast, hone]
  | @more b bs hmore hrest ih =>
    have hhigh : ¬b.toNat < 128 := mt (lt_128_iff b).mpr hmore
    have hbyte := b.toNat_lt
    cases room with
    | zero =>
      have hpos := List.length_pos_iff.mpr hrest.ne_nil
      simp only [List.length_cons] at hlength
      omega
    | succ room =>
      rw [bound_succ] at hfits
      simp only [groups] at hfits ⊢
      have hshorter : bs.length ≤ room + 1 := by simpa using hlength
      have hread := ih hshorter (by omega)
      simp only [List.cons_append, readWithin, hmore, if_false, hread, Option.map_some,
        Option.some.injEq, Prod.mk.injEq, and_true]
      omega

/-- Ten bytes whose last is 0 or 1 hold 64 bits. -/
theorem two_mul_bound : 2 * bound 9 = UInt64.size := rfl

/-- The reader accepts the spellings of a number and nothing else, and leaves what follows. -/
theorem read_eq_some_iff (bs rest : Bytes) (n : UInt64) :
    read bs = some (n, rest) ↔ ∃ used, bs = used ++ rest ∧ Spells used n := by
  unfold read
  constructor
  · intro h
    obtain ⟨⟨m, rest'⟩, hread, hvalue⟩ := Option.map_eq_some_iff.mp h
    obtain ⟨rfl, rfl⟩ := Prod.mk.inj hvalue
    obtain ⟨used, hbs, hterminated, hlength, hgroups, hfits⟩ := readWithin_sound hread
    refine ⟨used, hbs, hterminated, hlength, ?_⟩
    rw [hgroups, UInt64.toNat_ofNat_of_lt' (two_mul_bound ▸ hfits)]
  · rintro ⟨used, rfl, h⟩
    have hfits : groups used < 2 * bound 9 := by
      rw [h.groups_eq, two_mul_bound]
      exact n.toNat_lt
    have hread : readWithin maxBytes (used ++ rest) = some (groups used, rest) :=
      readWithin_complete h.terminated h.length_le hfits rest
    simp [hread, h.groups_eq]

/-! ## Writing -/

/-- A number that needs more than one group has places for the others. -/
theorem places_pos {places n : Nat} (h : n < bound places * 128) (hn : ¬n < 128) : 0 < places := by
  rcases Nat.eq_zero_or_pos places with rfl | hpos
  · rw [bound_zero] at h
    omega
  · exact hpos

theorem groups_writeWithin {room n : Nat} (h : n < bound room) :
    groups (writeWithin room n) = n := by
  induction room generalizing n with
  | zero =>
    rw [bound_zero] at h
    simp only [writeWithin, groups]
    omega
  | succ room ih =>
    rw [bound_succ] at h
    by_cases hn : n < 128
    · simp only [writeWithin, hn, if_true, groups, UInt8.toNat_ofNat']
      omega
    · -- the byte holds the lowest group, and the top bit that says more follows
      have hhigh : groups (writeWithin room (n / 128)) = n / 128 := ih (by omega)
      simp only [writeWithin, hn, if_false, groups, hhigh, UInt8.toNat_ofNat']
      omega

theorem terminated_writeWithin {room n : Nat} (hroom : 0 < room) (h : n < bound room) :
    Terminated (writeWithin room n) := by
  induction room generalizing n with
  | zero => exact absurd hroom (Nat.lt_irrefl 0)
  | succ room ih =>
    rw [bound_succ] at h
    by_cases hn : n < 128
    · simp only [writeWithin, hn, if_true]
      refine .last ?_
      rw [lt_128_iff, UInt8.toNat_ofNat']
      omega
    · simp only [writeWithin, hn, if_false]
      refine .more ?_ (ih ?_ (by omega))
      · rw [lt_128_iff, UInt8.toNat_ofNat']
        omega
      · exact places_pos h hn

theorem length_writeWithin_le (room n : Nat) : (writeWithin room n).length ≤ room := by
  induction room generalizing n with
  | zero => simp [writeWithin]
  | succ room ih =>
    unfold writeWithin
    split
    · simp
    · simpa using ih (n / 128)

theorem toNat_lt_bound (n : UInt64) : n.toNat < bound maxBytes :=
  Nat.lt_of_lt_of_le n.toNat_lt (by decide)

theorem spells_write (n : UInt64) : Spells (write n) n := by
  have hfits := toNat_lt_bound n
  exact ⟨terminated_writeWithin (by decide) hfits, length_writeWithin_le _ _,
    groups_writeWithin hfits⟩

/-! ## Sizes -/

theorem log2_half {n : Nat} (h : 2 ≤ n) : n.log2 = (n / 2).log2 + 1 := by
  rw [Nat.log2_def, if_pos h]

/-- The lowest bit is not the highest, or there is only one. -/
theorem log2_or_one (n : Nat) : (n ||| 1).log2 = n.log2 := by
  by_cases h : n < 2
  · obtain rfl | rfl : n = 0 ∨ n = 1 := by omega
    · rfl
    · rfl
  · have hge : n ≤ n ||| 1 := Nat.left_le_or
    have hhalf : (n ||| 1) / 2 = n / 2 := by simp [Nat.or_div_two]
    rw [log2_half (by omega), log2_half (n := n) (by omega), hhalf]

/-- Without its lowest bits a number loses as many places. -/
theorem log2_shift (places : Nat) {n : Nat} (h : Nat.pow 2 places ≤ n) :
    n.log2 = (n / Nat.pow 2 places).log2 + places := by
  induction places generalizing n with
  | zero => simp
  | succ places ih =>
    have hpow : Nat.pow 2 (places + 1) = Nat.pow 2 places * 2 := rfl
    have hpos : 0 < Nat.pow 2 places := Nat.pow_pos (by decide)
    rw [hpow] at h ⊢
    rw [log2_half (by omega), ih (by omega), Nat.div_div_eq_div_mul, Nat.mul_comm 2]
    omega

/-- A number takes one byte for each seven bits up to its highest one. -/
theorem length_writeWithin {room n : Nat} (hroom : 0 < room) (h : n < bound room) :
    (writeWithin room n).length = n.log2 / 7 + 1 := by
  induction room generalizing n with
  | zero => exact absurd hroom (Nat.lt_irrefl 0)
  | succ room ih =>
    rw [bound_succ] at h
    by_cases hn : n < 128
    · have hlog : n.log2 < 7 := by
        by_cases hzero : n = 0
        · subst hzero
          decide
        · exact (Nat.log2_lt hzero).mpr hn
      simp only [writeWithin, hn, if_true, List.length_singleton]
      omega
    · have hlog : n.log2 = (n / 128).log2 + 7 := log2_shift 7 (Nat.le_of_not_lt hn)
      have hrest := ih (places_pos h hn) (n := n / 128) (by omega)
      simp only [writeWithin, hn, if_false, List.length_cons, hrest]
      omega

/-- The size of a number in bytes, by its highest bit. -/
theorem size_eq (n : UInt64) : size n = n.toNat.log2 / 7 + 1 := by
  have hlog : n.toNat.log2 < 64 := by
    by_cases hzero : n.toNat = 0
    · rw [hzero]
      decide
    · exact (Nat.log2_lt hzero).mpr n.toNat_lt
  have hor : (n ||| 1).toNat.log2 = n.toNat.log2 := by
    rw [UInt64.toNat_or]
    exact log2_or_one n.toNat
  unfold size
  rw [hor]
  omega

theorem length_write (n : UInt64) : (write n).length = size n := by
  rw [size_eq]
  exact length_writeWithin (by decide) (toNat_lt_bound n)

theorem size_pos (n : UInt64) : 0 < size n := by
  rw [size_eq]
  omega

theorem bound_eq (places : Nat) : bound places = Nat.pow 2 (7 * places) :=
  (Nat.pow_mul 2 7 places).symm

theorem bound_add (a b : Nat) : bound (a + b) = bound a * bound b :=
  Nat.pow_add 128 a b

theorem le_bound {places : Nat} (h : 0 < places) : 128 ≤ bound places := by
  obtain ⟨places, rfl⟩ : ∃ p, places = p + 1 := ⟨places - 1, by omega⟩
  have hpos := bound_pos places
  rw [bound_succ]
  omega

/-- A number takes at most so many bytes exactly if so many groups of seven bits hold it. -/
theorem size_le_iff {places : Nat} (hplaces : 0 < places) (n : UInt64) :
    size n ≤ places ↔ n.toNat < bound places := by
  rw [size_eq, bound_eq]
  by_cases hzero : n.toNat = 0
  · have hpos : 0 < Nat.pow 2 (7 * places) := Nat.pow_pos (by decide)
    rw [hzero, Nat.log2_zero]
    omega
  · have hlog : n.toNat.log2 < 7 * places ↔ n.toNat < Nat.pow 2 (7 * places) := Nat.log2_lt hzero
    omega

theorem lt_bound_size (n : UInt64) : n.toNat < bound (size n) :=
  (size_le_iff (size_pos n) n).mp (Nat.le_refl _)

theorem size_le_maxBytes (n : UInt64) : size n ≤ maxBytes :=
  (size_le_iff (by decide) n).mpr (toNat_lt_bound n)

theorem size_mono {n n' : UInt64} (h : n.toNat ≤ n'.toNat) : size n ≤ size n' := by
  rw [size_le_iff (size_pos n')]
  exact Nat.lt_of_le_of_lt h (lt_bound_size n')

/-- A sum takes at most the bytes of its parts together, even where one of them is doubled. -/
theorem size_add_double_le {n n' sum : UInt64} (h : sum.toNat ≤ n.toNat + 2 * n'.toNat) :
    size sum ≤ size n + size n' := by
  have hpos := size_pos n
  have hfits := lt_bound_size n
  have hfits' := lt_bound_size n'
  have hmul : 128 * bound (size n') ≤ bound (size n) * bound (size n') :=
    Nat.mul_le_mul_right _ (le_bound hpos)
  have hmul' : bound (size n) * 128 ≤ bound (size n) * bound (size n') :=
    Nat.mul_le_mul_left _ (le_bound (size_pos n'))
  rw [size_le_iff (by omega), bound_add]
  omega

theorem groups_lt_bound (bs : Bytes) : groups bs < bound bs.length := by
  induction bs with
  | nil => decide
  | cons b bs ih =>
    rw [List.length_cons, bound_succ]
    simp only [groups]
    omega

theorem Spells.lt_bound {bs : Bytes} {n : UInt64} (h : Spells bs n) : n.toNat < bound bs.length :=
  h.groups_eq ▸ groups_lt_bound bs

/-- No spelling is shorter than what is written. -/
theorem Spells.size_le {bs : Bytes} {n : UInt64} (h : Spells bs n) : size n ≤ bs.length :=
  (size_le_iff h.length_pos n).mpr h.lt_bound

end LaptopCatalogue.Wire.Varint
