import LaptopCatalogue.Proofs.Wire.Sizes

/-!
# How far a message can grow

A message that was read can take more bytes than the input it was read from: a negative number of an
enumeration is written with its sign extended to ten bytes, where five were enough to spell it. It
takes at most twice as many. So the lengths in a message that was read from an input that a memory
can hold fit the 64 bits that they have on the wire.

* `Scalar.Spells.size_le`: a scalar takes at most twice the bytes that spell it.
* `Grows`, `Records.size_le`: a bound for one record, and from it for a sequence of them.
* `Schema.grows_sets`: one record makes a message larger by at most twice its bytes.
* `encodedSize_le_of_decode`: the statement about messages.
-/

namespace LaptopCatalogue.Wire

/-! ## Scalars and keys -/

/-- The low half of a number with its sign extended is larger than the number only where the half
has its highest bit set. -/
theorem signExtended_le (n : UInt64) :
    n.toUInt32.toInt32.toInt64.toUInt64.toNat ≤ n.toNat ∨ 0x80000000 ≤ n.toNat := by
  change (BitVec.signExtend 64 n.toUInt32.toBitVec).toNat ≤ n.toNat ∨ _
  rw [BitVec.toNat_signExtend, BitVec.msb_eq_decide]
  have hlow : n.toUInt32.toBitVec.toNat = n.toNat % 4294967296 := UInt64.toNat_toUInt32 n
  simp only [hlow, BitVec.toNat_setWidth, decide_eq_true_eq]
  split
  · omega
  · omega

theorem Scalar.Spells.size_le {kind : Scalar} {bs : Bytes} {v : kind.Value}
    (h : kind.Spells bs v) : kind.size v ≤ 2 * bs.length := by
  cases kind with
  | text =>
    obtain ⟨⟨length, rfl, hlength⟩, hfits⟩ := h
    have hsize := hlength.size_le
    simp only [size, List.length_append]
    rw [length_textBytes] at hsize ⊢
    omega
  | uint32 =>
    obtain ⟨n, hn, rfl⟩ := h
    have hsize := hn.size_le
    have hmono : Varint.size n.toUInt32.toUInt64 ≤ Varint.size n :=
      Varint.size_mono (by simpa using Nat.mod_le _ _)
    simp only [size]
    omega
  | uint64 =>
    have hsize := Varint.Spells.size_le h
    simp only [size]
    omega
  | int64 =>
    obtain ⟨n, hn, rfl⟩ := h
    have hsize := hn.size_le
    simp only [size, UInt64.toUInt64_toInt64]
    omega
  | enumeration =>
    obtain ⟨n, hn, rfl⟩ := h
    have hsize := hn.size_le
    simp only [size]
    rcases signExtended_le n with hmono | hlarge
    · have hmono := Varint.size_mono hmono
      omega
    · -- a negative number takes ten bytes, and no fewer than five spell its low half
      have hmax := Varint.size_le_maxBytes n.toUInt32.toInt32.toInt64.toUInt64
      have hfive : ¬Varint.size n ≤ 4 := by
        rw [Varint.size_le_iff (by decide), show Varint.bound 4 = 0x10000000 from rfl]
        omega
      rw [show Varint.maxBytes = 10 from rfl] at hmax
      omega
  | bool =>
    obtain ⟨n, hn, rfl⟩ := h
    have hpos := hn.length_pos
    simp only [size]
    omega
  | float =>
    have hlength : bs.length = 4 := h ▸ length_littleEndian 4 _
    simp only [size]
    omega
  | double =>
    have hlength : bs.length = 8 := h ▸ length_littleEndian 8 _
    simp only [size]
    omega

theorem SpellsKey.keySize_le {bs : Bytes} {number : Nat} {wireType : WireType}
    (h : SpellsKey bs number wireType) : keySize number ≤ bs.length := by
  have hmax : maxKey < UInt64.size := by decide
  have hfits := h.fits
  have hmono : keySize number ≤ Varint.size (UInt64.ofNat (8 * number + wireType.code)) := by
    refine Varint.size_mono ?_
    rw [UInt64.toNat_ofNat_of_lt' (by omega), UInt64.toNat_ofNat_of_lt' (by omega)]
    omega
  exact Nat.le_trans hmono h.spelled.size_le

/-! ## Records -/

section

variable {σ : Type} {size : σ → Nat} {m m' : σ} {bs : Bytes}

/-- One record makes a state larger by at most its key and twice the bytes of its value. The sizes
must fit 64 bits, since a larger one is not what its length prefix says. -/
def Grows (size : σ → Nat) (field : Nat → WireType → σ → Bytes → σ → Prop) : Prop :=
  ∀ number wireType m value m', field number wireType m value m' →
    size m + 2 * value.length < UInt64.size →
    size m' ≤ size m + keySize number + 2 * value.length

/-- A sequence of records makes a state larger by at most twice its bytes. -/
theorem Records.size_le {field : Nat → WireType → σ → Bytes → σ → Prop} (hgrows : Grows size field)
    (h : Records field m bs m') (hfits : size m + 2 * bs.length < UInt64.size) :
    size m' ≤ size m + 2 * bs.length := by
  induction h with
  | nil m => exact Nat.le_add_right _ _
  | @cons number wireType key value rest m m₁ m₂ hkey hvalue _ ih =>
    simp only [List.length_append] at hfits ⊢
    have hlength := hkey.keySize_le
    have hfirst := hgrows number wireType m value m₁ hvalue (by omega)
    have hrest := ih (by omega)
    omega

/-- A nested message and its length grow together by less than twice the bytes of both. -/
theorem Nested.size_le {field : Nat → Nat → WireType → σ → Bytes → σ → Prop}
    (hgrows : ∀ budget, Grows size (field budget)) {budget : Nat} {wireType : WireType}
    (h : Nested field budget wireType m bs m') (hfits : size m + 2 * bs.length < UInt64.size) :
    Varint.size (UInt64.ofNat (size m')) + size m' <
      Varint.size (UInt64.ofNat (size m)) + size m + 2 * bs.length := by
  match budget, wireType, h with
  | budget + 1, .lengthDelimited, ⟨payload, ⟨⟨length, hsplit, hlength⟩, _⟩, hrecords⟩ =>
    subst hsplit
    simp only [List.length_append] at hfits ⊢
    have hinner := hrecords.size_le (hgrows budget) (by omega)
    have hprefix := hlength.size_le
    have hpos := hlength.length_pos
    -- the message grew by twice its payload at most, so the new length takes no more bytes than the
    -- old one and the length of the payload together
    have hsum : Varint.size (UInt64.ofNat (size m')) ≤
        Varint.size (UInt64.ofNat (size m)) + Varint.size (UInt64.ofNat payload.length) := by
      refine Varint.size_add_double_le ?_
      rw [UInt64.toNat_ofNat_of_lt' (by omega), UInt64.toNat_ofNat_of_lt' (by omega),
        UInt64.toNat_ofNat_of_lt' (by omega)]
      exact hinner
    omega

end

/-! ## Messages -/

namespace Schema

theorem size_empty (schema : Schema) : schema.size schema.empty = 0 := by
  induction schema with
  | done => rfl
  | plain name number kind rest ih => simp [size, empty, Scalar.isDefault_default, ih]
  | optional name number kind rest ih => simp [size, empty, ih]
  | choice name left leftKind right rightKind rest ih => simp [size, empty, ih]
  | message name number inner rest _ ih => simp [size, empty, ih]
  | repeated name number inner rest _ ih => simp [size, totalSize, empty, ih]

/-- A nested message that was not there before is no larger than twice the bytes of its value. -/
theorem nested_size_le {inner : Schema} {budget : Nat} {wireType : WireType} {bs : Bytes}
    {m : inner.Record} (hgrows : ∀ budget, Grows inner.size (inner.Sets budget))
    (h : Nested inner.Sets budget wireType inner.empty bs m)
    (hfits : 2 * bs.length < UInt64.size) :
    Varint.size (UInt64.ofNat (inner.size m)) + inner.size m ≤ 2 * bs.length := by
  have hgrowth := Nested.size_le hgrows h (by rw [size_empty]; omega)
  rw [size_empty, show Varint.size (UInt64.ofNat 0) = 1 from rfl] at hgrowth
  omega

/-- Setting a field replaces what it held, adds to it, or leaves it. -/
theorem grows_sets (schema : Schema) (budget : Nat) : Grows schema.size (schema.Sets budget) := by
  induction schema generalizing budget with
  | done =>
    intro number wireType r value r' _ _
    exact Nat.le_trans (Nat.le_add_right _ _) (Nat.le_add_right _ _)
  | plain name declared kind rest ih =>
    rintro number wireType ⟨v, r⟩ value ⟨v', r'⟩ hsets hfits
    simp only [size] at hfits ⊢
    by_cases hnumber : number = declared
    · subst hnumber
      simp only [Sets, if_true] at hsets
      obtain ⟨-, hspells, rfl⟩ := hsets
      have hsize := hspells.size_le
      split <;> omega
    · simp only [Sets, hnumber, if_false] at hsets
      obtain ⟨rfl, hrest⟩ := hsets
      have hgrowth := ih budget number wireType r value r' hrest (by omega)
      omega
  | optional name declared kind rest ih =>
    rintro number wireType ⟨v, r⟩ value ⟨v', r'⟩ hsets hfits
    simp only [size] at hfits ⊢
    by_cases hnumber : number = declared
    · subst hnumber
      simp only [Sets, if_true] at hsets
      obtain ⟨-, ⟨w, hspells, rfl⟩, rfl⟩ := hsets
      have hsize := hspells.size_le
      simp only
      omega
    · simp only [Sets, hnumber, if_false] at hsets
      obtain ⟨rfl, hrest⟩ := hsets
      have hgrowth := ih budget number wireType r value r' hrest (by omega)
      omega
  | choice name left leftKind right rightKind rest ih =>
    rintro number wireType ⟨v, r⟩ value ⟨v', r'⟩ hsets hfits
    simp only [size] at hfits ⊢
    by_cases hleft : number = left
    · subst hleft
      simp only [Sets, if_true] at hsets
      obtain ⟨-, ⟨w, hspells, rfl⟩, rfl⟩ := hsets
      have hsize := hspells.size_le
      simp only
      omega
    · by_cases hright : number = right
      · subst hright
        simp only [Sets, hleft, if_false, if_true] at hsets
        obtain ⟨-, ⟨w, hspells, rfl⟩, rfl⟩ := hsets
        have hsize := hspells.size_le
        simp only
        omega
      · simp only [Sets, hleft, hright, if_false] at hsets
        obtain ⟨rfl, hrest⟩ := hsets
        have hgrowth := ih budget number wireType r value r' hrest (by omega)
        omega
  | message name declared inner rest ihInner ih =>
    rintro number wireType ⟨m, r⟩ value ⟨m', r'⟩ hsets hfits
    simp only [size] at hfits ⊢
    by_cases hnumber : number = declared
    · subst hnumber
      simp only [Sets, if_true] at hsets
      obtain ⟨⟨w, hnested, rfl⟩, rfl⟩ := hsets
      cases m with
      | none =>
        have hgrowth := nested_size_le ihInner hnested (by omega)
        simp only
        omega
      | some m =>
        simp only at hfits
        have hgrowth := hnested.size_le ihInner (by rw [Option.getD_some]; omega)
        simp only [Option.getD_some] at hgrowth ⊢
        omega
    · simp only [Sets, hnumber, if_false] at hsets
      obtain ⟨rfl, hrest⟩ := hsets
      have hgrowth := ih budget number wireType r value r' hrest (by omega)
      omega
  | repeated name declared inner rest ihInner ih =>
    rintro number wireType ⟨ms, r⟩ value ⟨ms', r'⟩ hsets hfits
    simp only [size] at hfits ⊢
    by_cases hnumber : number = declared
    · subst hnumber
      simp only [Sets, if_true] at hsets
      obtain ⟨⟨w, hnested, rfl⟩, rfl⟩ := hsets
      have hgrowth := nested_size_le ihInner hnested (by omega)
      simp only [totalSize_append, totalSize]
      omega
    · simp only [Sets, hnumber, if_false] at hsets
      obtain ⟨rfl, hrest⟩ := hsets
      have hgrowth := ih budget number wireType r value r' hrest (by omega)
      omega

end Schema

section

variable {α : Type} [Message α]

/-- A message takes at most twice the bytes of the input it was read from. -/
theorem encodedSize_le_of_decode {m : α} {bs : Bytes} (h : decode bs = .ok m)
    (hfits : 2 * bs.length < UInt64.size) : encodedSize m ≤ 2 * bs.length := by
  have hchanges : Changes emptyMessage bs m := (merge_eq_ok_iff emptyMessage m bs).mp h
  unfold Changes at hchanges
  rw [emptyMessage, Message.toRecord_ofRecord] at hchanges
  have hgrowth := hchanges.size_le (Schema.grows_sets _ _) (by rw [Schema.size_empty]; omega)
  rw [Schema.size_empty, Nat.zero_add] at hgrowth
  exact hgrowth

end

end LaptopCatalogue.Wire
