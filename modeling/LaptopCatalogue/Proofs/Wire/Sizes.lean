import LaptopCatalogue.Proofs.Wire.Acceptance

/-!
# Sizes of messages

The size of a message is computed from its fields, without its bytes: a number by its highest bit, a
key without its wire type, a nested message by its own size. It is the number of bytes written.

* `length_writeKey`, `Scalar.length_write`: the sizes of keys and scalars.
* `Schema.length_encode`: the size of a message of a sound schema is the length of its bytes.
-/

namespace LaptopCatalogue.Wire

/-! ## Keys and scalars -/

/-- A number that a key can carry gives a key with every wire type. -/
theorem spellsKey_writeKey {number : Nat} (h : Schema.IsNumber number) (wireType : WireType) :
    SpellsKey (writeKey number wireType) number wireType := by
  have hcode := wireType.code_lt
  have hfits := h.2
  exact ⟨Varint.spells_write _, h.1, by omega⟩

/-- The wire type stands in the low bits of a key and does not make it longer. -/
theorem length_writeKey {number : Nat} (h : Schema.IsNumber number) (wireType : WireType) :
    (writeKey number wireType).length = keySize number := by
  have hcode := wireType.code_lt
  have hpos := h.1
  have hfits := h.2
  have hmax : maxKey < UInt64.size := by decide
  have hlog (low : Nat) (hlow : low < 8) : (8 * number + low).log2 = number.log2 + 3 := by
    rw [Varint.log2_shift 3 (by rw [show Nat.pow 2 3 = 8 from rfl]; omega),
      show (8 * number + low) / Nat.pow 2 3 = number by
        rw [show Nat.pow 2 3 = 8 from rfl]; omega]
  rw [writeKey, keySize, Varint.length_write, Varint.size_eq, Varint.size_eq,
    UInt64.toNat_ofNat_of_lt' (by omega), UInt64.toNat_ofNat_of_lt' (by omega),
    hlog _ hcode, show 8 * number = 8 * number + 0 from rfl, hlog 0 (by decide)]

theorem Scalar.isDefault_default (kind : Scalar) : kind.isDefault kind.default = true := by
  cases kind <;> decide

theorem length_textBytes (text : String) : (textBytes text).length = text.utf8ByteSize := rfl

theorem Scalar.length_write (kind : Scalar) (v : kind.Value) :
    (kind.write v).length = kind.size v := by
  cases kind with
  | text =>
    simp only [write, size, List.length_append, Varint.length_write, length_textBytes]
  | uint32 => exact Varint.length_write _
  | uint64 => exact Varint.length_write _
  | int64 => exact Varint.length_write _
  | enumeration => exact Varint.length_write _
  | bool => cases v <;> rfl
  | float => exact length_littleEndian 4 _
  | double => exact length_littleEndian 8 _

/-! ## Messages -/

namespace Schema

theorem totalSize_append {α : Type} (size : α → Nat) (ms ms' : List α) :
    totalSize size (ms ++ ms') = totalSize size ms + totalSize size ms' := by
  induction ms with
  | nil => exact (Nat.zero_add _).symm
  | cons m ms ih =>
    simp only [List.cons_append, totalSize, ih]
    omega

theorem totalSize_map {α β : Type} (size : β → Nat) (f : α → β) (ms : List α) :
    totalSize size (ms.map f) = totalSize (fun m => size (f m)) ms := by
  induction ms with
  | nil => rfl
  | cons m ms ih => simp only [List.map_cons, totalSize, ih]

theorem length_flatMap {α : Type} (write : α → Bytes) (ms : List α) :
    (ms.flatMap write).length = totalSize (fun m => (write m).length) ms := by
  induction ms with
  | nil => rfl
  | cons m ms ih => simp only [List.flatMap_cons, List.length_append, totalSize, ih]

theorem length_encode {schema : Schema} (h : schema.Distinct) (r : schema.Record) :
    (schema.encode r).length = schema.size r := by
  induction schema with
  | done => rfl
  | plain name number kind rest ih =>
    obtain ⟨v, r⟩ := r
    obtain ⟨hnumber, _, hrest⟩ := h
    simp only [encode, size, List.length_append, ih hrest r]
    split
    · rfl
    · rw [List.length_append, length_writeKey hnumber, kind.length_write]
  | optional name number kind rest ih =>
    obtain ⟨v, r⟩ := r
    obtain ⟨hnumber, _, hrest⟩ := h
    simp only [encode, size, List.length_append, ih hrest r]
    cases v with
    | none => rfl
    | some v => simp only [List.length_append, length_writeKey hnumber, kind.length_write]
  | choice name left leftKind right rightKind rest ih =>
    obtain ⟨v, r⟩ := r
    obtain ⟨hleft, hright, _, _, _, hrest⟩ := h
    simp only [encode, size, List.length_append, ih hrest r]
    rcases v with _ | v | v
    · rfl
    · simp only [List.length_append, length_writeKey hleft, leftKind.length_write]
    · simp only [List.length_append, length_writeKey hright, rightKind.length_write]
  | message name number inner rest ihInner ih =>
    obtain ⟨m, r⟩ := r
    obtain ⟨hnumber, _, hinner, hrest⟩ := h
    simp only [encode, size, List.length_append, ih hrest r]
    cases m with
    | none => rfl
    | some m =>
      simp only [List.length_append, length_writeKey hnumber, Varint.length_write,
        ihInner hinner m]
  | repeated name number inner rest ihInner ih =>
    obtain ⟨ms, r⟩ := r
    obtain ⟨hnumber, _, hinner, hrest⟩ := h
    simp only [encode, size, List.length_append, ih hrest r, length_flatMap,
      length_writeKey hnumber, Varint.length_write, ihInner hinner]

end Schema

end LaptopCatalogue.Wire
