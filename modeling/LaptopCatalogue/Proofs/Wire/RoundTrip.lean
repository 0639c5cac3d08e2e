import LaptopCatalogue.Proofs.Wire.Growth
import LaptopCatalogue.Proofs.Wire.Combining

/-!
# Messages on the wire and back

The bytes of a message are a sequence of records in the grammar, and whatever message they are read
into is combined with the one that was written. Read on its own it is the same message again, where
only a negative zero in a plain field has lost its sign: such a field is left out, since its value
equals the default.

* `Schema.unsignZeros`: a message without negative zeros in plain fields.
* `Schema.records_encode`: what is written is a sequence of records that combines messages.
* `Schema.empty_combine`: combining with the empty message only takes signs from zeros.
* `Schema.encode_unsignZeros`: the bytes of a message do not depend on these signs.
* `encode_decodes_back`: the statement about every message.
-/

namespace LaptopCatalogue.Wire

/-! ## Scalars -/

namespace Scalar

/-- A value in which a zero has no sign. -/
def unsignZero : (kind : Scalar) → kind.Value → kind.Value
  | .float, v => if Binary32.isZero v then Binary32.zero else v
  | .double, v => if Binary64.isZero v then Binary64.zero else v
  | .text, v | .uint32, v | .uint64, v | .int64, v | .enumeration, v | .bool, v => v

/-- A value that is left out is read as the default. -/
theorem unsignZero_of_isDefault {kind : Scalar} {v : kind.Value} (h : kind.isDefault v = true) :
    kind.unsignZero v = kind.default := by
  cases kind <;> simp_all [isDefault, unsignZero, default]

theorem unsignZero_of_not_isDefault {kind : Scalar} {v : kind.Value}
    (h : ¬kind.isDefault v = true) : kind.unsignZero v = v := by
  cases kind <;> simp_all [isDefault, unsignZero]

theorem override_default (kind : Scalar) (v : kind.Value) :
    kind.override kind.default v = kind.unsignZero v := by
  by_cases h : kind.isDefault v = true
  · rw [override_of_isDefault _ h, unsignZero_of_isDefault h]
  · rw [override_of_not_isDefault _ h, unsignZero_of_not_isDefault h]

theorem isDefault_unsignZero (kind : Scalar) (v : kind.Value) :
    kind.isDefault (kind.unsignZero v) = kind.isDefault v := by
  by_cases h : kind.isDefault v = true
  · rw [unsignZero_of_isDefault h, isDefault_default, h]
  · rw [unsignZero_of_not_isDefault h]

/-- A signed number of 32 bits is the low half of its extension. -/
theorem low_signExtended (v : Int32) : v.toInt64.toUInt64.toUInt32.toInt32 = v := by
  apply Int32.toBitVec_inj.mp
  have h := congrArg Int32.toBitVec (Int32.toInt32_toInt64 v)
  rw [Int64.toBitVec_toInt32, BitVec.signExtend_eq_setWidth_of_le _ (by decide)] at h
  exact h

/-- What is written of a value spells it. -/
theorem spells_write {kind : Scalar} {v : kind.Value} (h : kind.size v < UInt64.size) :
    kind.Spells (kind.write v) v := by
  cases kind with
  | text =>
    refine ⟨⟨_, rfl, Varint.spells_write _⟩, ?_⟩
    simp only [size] at h
    rw [length_textBytes]
    omega
  | uint32 => exact ⟨_, Varint.spells_write _, by simp⟩
  | uint64 => exact Varint.spells_write v
  | int64 => exact ⟨_, Varint.spells_write _, by simp⟩
  | enumeration => exact ⟨_, Varint.spells_write _, low_signExtended v⟩
  | bool => exact ⟨_, Varint.spells_write _, by cases v <;> rfl⟩
  | float => rfl
  | double => rfl

end Scalar

/-! ## Sequences of records -/

section

variable {σ : Type} {field : Nat → WireType → σ → Bytes → σ → Prop}

theorem Records.append {m m₁ m₂ : σ} {bs bs' : Bytes} (h : Records field m bs m₁)
    (h' : Records field m₁ bs' m₂) : Records field m (bs ++ bs') m₂ := by
  induction h with
  | nil _ => exact h'
  | cons hkey hvalue _ ih =>
    simp only [List.append_assoc]
    exact .cons hkey hvalue (ih h')

theorem Records.single {number : Nat} {wireType : WireType} {m m' : σ} {value : Bytes}
    (hnumber : Schema.IsNumber number) (hvalue : field number wireType m value m') :
    Records field m (writeKey number wireType ++ value) m' := by
  simpa using Records.cons (spellsKey_writeKey hnumber wireType) hvalue (.nil m')

end

namespace Schema

/-! ## What is written -/

/-- A message in whose plain fields no zero has a sign. Values that are optional or a choice keep
theirs. -/
def unsignZeros : (schema : Schema) → schema.Record → schema.Record
  | .done, r => r
  | .plain _ _ kind rest, (v, r) => (kind.unsignZero v, rest.unsignZeros r)
  | .optional _ _ _ rest, (v, r) => (v, rest.unsignZeros r)
  | .choice _ _ _ _ _ rest, (v, r) => (v, rest.unsignZeros r)
  | .message _ _ inner rest, (m, r) => (m.map inner.unsignZeros, rest.unsignZeros r)
  | .repeated _ _ inner rest, (ms, r) => (ms.map inner.unsignZeros, rest.unsignZeros r)

section

variable {σ : Type} {field : Nat → WireType → σ → Bytes → σ → Prop}

/-- Whether records with the numbers of a schema can stand in a larger message, of which `put` makes
a state from those fields. -/
def Fits (schema : Schema) (budget : Nat) (field : Nat → WireType → σ → Bytes → σ → Prop)
    (put : schema.Record → σ) : Prop :=
  ∀ number ∈ schema.numbers, ∀ wireType r bs r',
    schema.Sets budget number wireType r bs r' → field number wireType (put r) bs (put r')

theorem fits_self (schema : Schema) (budget : Nat) :
    schema.Fits budget (schema.Sets budget) id :=
  fun _ _ _ _ _ _ hsets => hsets

/-- The last fields of a schema fit where the schema fits, behind values for the first ones. -/
theorem Fits.behind {schema rest : Schema} {budget : Nat} {put : schema.Record → σ}
    {front : rest.Record → schema.Record} (hfits : schema.Fits budget field put)
    (h : ∀ number ∈ rest.numbers, number ∈ schema.numbers ∧ ∀ wireType r bs r',
      rest.Sets budget number wireType r bs r' →
        schema.Sets budget number wireType (front r) bs (front r')) :
    rest.Fits budget field fun r => put (front r) := by
  intro number hnumber wireType r bs r' hsets
  obtain ⟨hmem, hfront⟩ := h number hnumber
  exact hfits number hmem wireType (front r) bs (front r') (hfront wireType r bs r' hsets)

/-- A nested message is written as a field of its own. -/
theorem nested_encode {inner : Schema} {budget : Nat} {m m₀ m₁ : inner.Record}
    (hdistinct : inner.Distinct) (hsize : inner.size m < UInt64.size)
    (hrecords : Records (inner.Sets budget) m₀ (inner.encode m) m₁) :
    Nested inner.Sets (budget + 1) .lengthDelimited m₀
      (Varint.write (UInt64.ofNat (inner.size m)) ++ inner.encode m) m₁ := by
  rw [← length_encode hdistinct] at hsize ⊢
  exact ⟨inner.encode m, ⟨⟨_, rfl, Varint.spells_write _⟩, hsize⟩, hrecords⟩

/-- The members of a list are written one after another, and are read behind the ones that are there
already. -/
theorem list_encode {inner : Schema} {number : Nat} (budget : Nat) (put : List inner.Record → σ)
    (hnumber : IsNumber number) (hdistinct : inner.Distinct)
    (happends : ∀ ms bs m, Nested inner.Sets (budget + 1) .lengthDelimited inner.empty bs m →
      field number .lengthDelimited (put ms) bs (put (ms ++ [m])))
    (hrecords : ∀ m, inner.size m < UInt64.size →
      Records (inner.Sets budget) inner.empty (inner.encode m) (inner.combine inner.empty m))
    (present ms : List inner.Record)
    (hsize : totalSize (fun m =>
      keySize number + Varint.size (UInt64.ofNat (inner.size m)) + inner.size m) ms
        < UInt64.size) :
    Records field (put present)
      (ms.flatMap fun m =>
        writeKey number .lengthDelimited ++ Varint.write (UInt64.ofNat (inner.size m))
          ++ inner.encode m)
      (put (present ++ ms.map (inner.combine inner.empty))) := by
  induction ms generalizing present with
  | nil =>
    rw [List.map_nil, List.append_nil]
    exact .nil _
  | cons m ms ih =>
    simp only [totalSize] at hsize
    have hsizeInner : inner.size m < UInt64.size := by omega
    have hfirst := Records.single hnumber
      (happends present _ _ (nested_encode hdistinct hsizeInner (hrecords m hsizeInner)))
    have hrest := ih (present ++ [inner.combine inner.empty m]) (by omega)
    rw [← List.append_assoc] at hfirst
    rw [List.append_assoc, List.singleton_append] at hrest
    exact hfirst.append hrest

/-- What is written of a message is a sequence of records that combines any message with it, one
field after another. The fields may be the last ones of a larger message: only records with their
own numbers are written. -/
theorem records_encode (schema : Schema) {budget : Nat} (hdistinct : schema.Distinct)
    (hdepth : schema.depth ≤ budget) {put : schema.Record → σ}
    (hfits : schema.Fits budget field put) (r₀ : schema.Record) {r : schema.Record}
    (hsize : schema.size r < UInt64.size) :
    Records field (put r₀) (schema.encode r) (put (schema.combine r₀ r)) := by
  -- each field is written in front of the others, which are unchanged while it is read
  induction schema generalizing σ budget with
  | done => exact .nil _
  | plain name number kind rest ih =>
    obtain ⟨v₀, r₀⟩ := r₀
    obtain ⟨v, r⟩ := r
    obtain ⟨hnumber, hfresh, hdistinct⟩ := hdistinct
    simp only [size] at hsize
    have hbehind : rest.Fits budget field fun r => put (kind.override v₀ v, r) := by
      refine hfits.behind fun other hother => ⟨List.mem_cons_of_mem _ hother, ?_⟩
      have hne : other ≠ number := fun heq => hfresh (heq ▸ hother)
      simp [Sets, hne]
    refine Records.append ?_ (ih hdistinct hdepth hbehind r₀ (by omega))
    by_cases hdefault : kind.isDefault v = true
    · -- nothing is written, and the field keeps what it holds
      rw [if_pos hdefault, Scalar.override_of_isDefault v₀ hdefault]
      exact .nil _
    · rw [if_neg hdefault, Scalar.override_of_not_isDefault v₀ hdefault]
      rw [if_neg hdefault] at hsize
      refine Records.single hnumber
        (hfits number List.mem_cons_self _ (v₀, r₀) _ (v, r₀) ?_)
      simp only [Sets, if_true]
      exact ⟨trivial, Scalar.spells_write (by omega), trivial⟩
  | optional name number kind rest ih =>
    obtain ⟨v₀, r₀⟩ := r₀
    obtain ⟨v, r⟩ := r
    obtain ⟨hnumber, hfresh, hdistinct⟩ := hdistinct
    simp only [size] at hsize
    have hbehind : rest.Fits budget field fun r => put (v.or v₀, r) := by
      refine hfits.behind fun other hother => ⟨List.mem_cons_of_mem _ hother, ?_⟩
      have hne : other ≠ number := fun heq => hfresh (heq ▸ hother)
      simp [Sets, hne]
    refine Records.append ?_ (ih hdistinct hdepth hbehind r₀ (by omega))
    cases v with
    | none => exact .nil _
    | some v =>
      simp only at hsize
      refine Records.single hnumber
        (hfits number List.mem_cons_self _ (v₀, r₀) _ (some v, r₀) ?_)
      simp only [Sets, if_true]
      exact ⟨trivial, ⟨v, Scalar.spells_write (by omega), rfl⟩, trivial⟩
  | choice name left leftKind right rightKind rest ih =>
    obtain ⟨v₀, r₀⟩ := r₀
    obtain ⟨v, r⟩ := r
    obtain ⟨hleft, hright, hdiffer, hfreshLeft, hfreshRight, hdistinct⟩ := hdistinct
    simp only [size] at hsize
    have hbehind : rest.Fits budget field fun r => put (v.or v₀, r) := by
      refine hfits.behind fun other hother =>
        ⟨List.mem_cons_of_mem _ (List.mem_cons_of_mem _ hother), ?_⟩
      have hneLeft : other ≠ left := fun heq => hfreshLeft (heq ▸ hother)
      have hneRight : other ≠ right := fun heq => hfreshRight (heq ▸ hother)
      simp [Sets, hneLeft, hneRight]
    refine Records.append ?_ (ih hdistinct hdepth hbehind r₀ (by omega))
    rcases v with _ | v | v
    · exact .nil _
    · simp only at hsize
      refine Records.single hleft
        (hfits left List.mem_cons_self _ (v₀, r₀) _ (some (.inl v), r₀) ?_)
      simp only [Sets, if_true]
      exact ⟨trivial, ⟨v, Scalar.spells_write (by omega), rfl⟩, trivial⟩
    · simp only at hsize
      refine Records.single hright (hfits right (List.mem_cons_of_mem _ List.mem_cons_self) _
        (v₀, r₀) _ (some (.inr v), r₀) ?_)
      simp only [Sets, if_neg hdiffer.symm, if_true]
      exact ⟨trivial, ⟨v, Scalar.spells_write (by omega), rfl⟩, trivial⟩
  | message name number inner rest ihInner ih =>
    obtain ⟨m₀, r₀⟩ := r₀
    obtain ⟨m, r⟩ := r
    obtain ⟨hnumber, hfresh, hinner, hdistinct⟩ := hdistinct
    simp only [size] at hsize
    simp only [depth] at hdepth
    have hbehind (m₁ : Option inner.Record) : rest.Fits budget field fun r => put (m₁, r) := by
      refine hfits.behind fun other hother => ⟨List.mem_cons_of_mem _ hother, ?_⟩
      have hne : other ≠ number := fun heq => hfresh (heq ▸ hother)
      simp [Sets, hne]
    refine Records.append ?_ (ih hdistinct (by omega) (hbehind _) r₀ (by omega))
    cases m with
    | none => exact .nil _
    | some m =>
      -- the depth of the schema leaves a level of the budget for the message inside
      simp only at hsize
      obtain ⟨budget, rfl⟩ : ∃ b, budget = b + 1 := ⟨budget - 1, by omega⟩
      have hsizeInner : inner.size m < UInt64.size := by omega
      have hrecords : Records (inner.Sets budget) (m₀.getD inner.empty) (inner.encode m)
          (inner.combine (m₀.getD inner.empty) m) :=
        ihInner hinner (by omega) (inner.fits_self budget) _ hsizeInner
      simp only [List.append_assoc]
      refine Records.single hnumber (hfits number List.mem_cons_self _ (m₀, r₀) _
        (some (inner.combine (m₀.getD inner.empty) m), r₀) ?_)
      simp only [Sets, if_true]
      exact ⟨⟨_, nested_encode hinner hsizeInner hrecords, rfl⟩, trivial⟩
  | repeated name number inner rest ihInner ih =>
    obtain ⟨ms₀, r₀⟩ := r₀
    obtain ⟨ms, r⟩ := r
    obtain ⟨hnumber, hfresh, hinner, hdistinct⟩ := hdistinct
    simp only [size] at hsize
    simp only [depth] at hdepth
    have hbehind (ms₁ : List inner.Record) : rest.Fits budget field fun r => put (ms₁, r) := by
      refine hfits.behind fun other hother => ⟨List.mem_cons_of_mem _ hother, ?_⟩
      have hne : other ≠ number := fun heq => hfresh (heq ▸ hother)
      simp [Sets, hne]
    refine Records.append ?_ (ih hdistinct (by omega) (hbehind _) r₀ (by omega))
    obtain ⟨budget, rfl⟩ : ∃ b, budget = b + 1 := ⟨budget - 1, by omega⟩
    refine list_encode budget (fun ms => put (ms, r₀)) hnumber hinner ?_ ?_ ms₀ ms (by omega)
    · intro ms bs m hnested
      refine hfits number List.mem_cons_self _ (ms, r₀) bs (ms ++ [m], r₀) ?_
      simp only [Sets, if_true]
      exact ⟨⟨m, hnested, rfl⟩, trivial⟩
    · intro m hsizeInner
      exact ihInner hinner (by omega) (inner.fits_self budget) inner.empty hsizeInner

end

/-- Combining the empty message with another one gives that message, without the signs of zeros in
plain fields. -/
theorem empty_combine (schema : Schema) (r : schema.Record) :
    schema.combine schema.empty r = schema.unsignZeros r := by
  induction schema with
  | done => rfl
  | plain name number kind rest ih =>
    obtain ⟨v, r⟩ := r
    simp only [combine, empty, unsignZeros, kind.override_default, ih r]
    rfl
  | optional name number kind rest ih =>
    obtain ⟨v, r⟩ := r
    simp only [combine, empty, unsignZeros, Option.or_none, ih r]
    rfl
  | choice name left leftKind right rightKind rest ih =>
    obtain ⟨v, r⟩ := r
    simp only [combine, empty, unsignZeros, Option.or_none, ih r]
    rfl
  | message name number inner rest ihInner ih =>
    obtain ⟨m, r⟩ := r
    cases m with
    | none =>
      simp only [combine, empty, unsignZeros, Option.map_none, ih r]
      rfl
    | some m =>
      simp only [combine, empty, unsignZeros, Option.map_some, Option.getD_none, ihInner m, ih r]
      rfl
  | repeated name number inner rest ihInner ih =>
    obtain ⟨ms, r⟩ := r
    have hmembers : inner.combine inner.empty = inner.unsignZeros := funext ihInner
    simp only [combine, empty, unsignZeros, hmembers, List.nil_append, ih r]
    rfl

/-! ## Canonical bytes -/

theorem size_unsignZeros (schema : Schema) (r : schema.Record) :
    schema.size (schema.unsignZeros r) = schema.size r := by
  induction schema with
  | done => rfl
  | plain name number kind rest ih =>
    obtain ⟨v, r⟩ := r
    simp only [size, unsignZeros, Scalar.isDefault_unsignZero, ih r]
    split
    · rfl
    · rename_i hdefault
      rw [Scalar.unsignZero_of_not_isDefault hdefault]
  | optional name number kind rest ih =>
    obtain ⟨v, r⟩ := r
    simp only [size, unsignZeros, ih r]
  | choice name left leftKind right rightKind rest ih =>
    obtain ⟨v, r⟩ := r
    simp only [size, unsignZeros, ih r]
  | message name number inner rest ihInner ih =>
    obtain ⟨m, r⟩ := r
    simp only [size, unsignZeros, ih r]
    cases m with
    | none => rfl
    | some m => simp only [Option.map_some, ihInner m]
  | repeated name number inner rest ihInner ih =>
    obtain ⟨ms, r⟩ := r
    simp only [size, unsignZeros, ih r, totalSize_map, ihInner]

/-- The bytes of a message do not depend on the signs of zeros in plain fields. -/
theorem encode_unsignZeros (schema : Schema) (r : schema.Record) :
    schema.encode (schema.unsignZeros r) = schema.encode r := by
  induction schema with
  | done => rfl
  | plain name number kind rest ih =>
    obtain ⟨v, r⟩ := r
    simp only [encode, unsignZeros, Scalar.isDefault_unsignZero, ih r]
    split
    · rfl
    · rename_i hdefault
      rw [Scalar.unsignZero_of_not_isDefault hdefault]
  | optional name number kind rest ih =>
    obtain ⟨v, r⟩ := r
    simp only [encode, unsignZeros, ih r]
  | choice name left leftKind right rightKind rest ih =>
    obtain ⟨v, r⟩ := r
    simp only [encode, unsignZeros, ih r]
  | message name number inner rest ihInner ih =>
    obtain ⟨m, r⟩ := r
    simp only [encode, unsignZeros, ih r]
    cases m with
    | none => rfl
    | some m => simp only [Option.map_some, ihInner m, size_unsignZeros]
  | repeated name number inner rest ihInner ih =>
    obtain ⟨ms, r⟩ := r
    simp only [encode, unsignZeros, ih r, List.flatMap_map, ihInner, size_unsignZeros]

end Schema

section

variable {α : Type} [Message α]

/-- A message in whose plain fields, at any depth, no zero has a sign. -/
def unsignZeros (m : α) : α :=
  Message.ofRecord ((Message.schema α).unsignZeros (Message.toRecord m))

theorem length_encode (m : α) : (encode m).length = encodedSize m :=
  Schema.length_encode (Message.sound (α := α)).1 _

theorem encode_unsignZeros (m : α) : encode (unsignZeros m) = encode m := by
  unfold encode unsignZeros
  rw [Message.toRecord_ofRecord, Schema.encode_unsignZeros]

/-- What is written of a message combines any message that it is read into with it. -/
theorem merge_encode (m : α) {m' : α} (h : encodedSize m' < UInt64.size) :
    merge m (encode m') = .ok (combine m m') := by
  obtain ⟨hdistinct, hdepth⟩ := Message.sound (α := α)
  rw [merge_eq_ok_iff, Changes, combine, Message.toRecord_ofRecord]
  exact Schema.records_encode _ hdistinct hdepth (Schema.fits_self _ _) (Message.toRecord m) h

theorem emptyMessage_combine (m : α) : combine emptyMessage m = unsignZeros m := by
  rw [combine, emptyMessage, Message.toRecord_ofRecord, Schema.empty_combine, unsignZeros]

/-- What is written of a message is read as the message, without the signs of zeros. -/
theorem decode_encode {m : α} (h : encodedSize m < UInt64.size) :
    decode (encode m) = .ok (unsignZeros m) := by
  rw [decode, merge_encode _ h, emptyMessage_combine]

/-- Every message is read back from its bytes, as long as the lengths in it fit 64 bits: the same
message, except that a negative zero in a plain field comes back as zero. A value that is optional
or a choice keeps its sign, and a nested message is there again even if nothing is set in it. The
bytes are a canonical form: reading and writing once more gives the same ones. For a message that
was itself read, from an input that a memory can hold, the lengths always fit. And the computed size
is the number of bytes. -/
theorem encode_decodes_back (m : α) :
    encodedSize m = (encode m).length ∧
    (encodedSize m < UInt64.size →
      decode (encode m) = .ok (unsignZeros m) ∧ encode (unsignZeros m) = encode m) ∧
    ∀ bs, decode bs = .ok m → bs.length < Nat.pow 2 63 →
      ∃ m' : α, decode (encode m) = .ok m' ∧ encode m' = encode m := by
  refine ⟨(length_encode m).symm, fun hsize => ⟨decode_encode hsize, encode_unsignZeros m⟩, ?_⟩
  intro bs hread hlength
  have hsize : 2 * Nat.pow 2 63 = UInt64.size := rfl
  have hgrowth := encodedSize_le_of_decode hread (by omega)
  exact ⟨unsignZeros m, decode_encode (by omega), encode_unsignZeros m⟩

/-- A filter with negative zeros and an empty memory, and one that was read from a negative unit in
five bytes. -/
theorem encode_decodes_back_filters :
    let filter : Filter :=
      { maxPriceUsd := some ⟨0x8000000000000000⟩, minCpuGhz := ⟨0x8000000000000000⟩,
        minRam := some {} }
    let bs : Bytes := [0x22, 6, 0x10, 0xff, 0xff, 0xff, 0xff, 0x0f]
    let negative : Filter := { minRam := some { unit := -1 } }
    encodedSize filter < UInt64.size ∧
      decode (encode filter) = .ok { filter with minCpuGhz := Binary64.zero } ∧
      decode bs = .ok negative ∧ bs.length < Nat.pow 2 63 ∧ (encode negative).length = 13 ∧
      ∃ m' : Filter, decode (encode negative) = .ok m' ∧ encode m' = encode negative := by
  intro filter bs negative
  have hsize : encodedSize filter < UInt64.size := by decide
  have hcanonical : unsignZeros filter = { filter with minCpuGhz := Binary64.zero } := by
    unfold filter
    rfl
  have hwritten := ((encode_decodes_back filter).2.1 hsize).1
  rw [hcanonical] at hwritten
  have hread : decode bs = .ok negative := by rfl
  have hlength : bs.length < Nat.pow 2 63 := by decide
  exact ⟨hsize, hwritten, hread, hlength, by rfl,
    (encode_decodes_back negative).2.2 bs hread hlength⟩

end

end LaptopCatalogue.Wire
