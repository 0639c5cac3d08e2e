import LaptopCatalogue.Proofs.Wire.Takes

/-!
# Decoding accepts the grammar

The records of a nested message are bounded only by the whole input, and running past its end is
noticed afterwards. A reference reads them from the slice of its length alone. Both take the grammar
of messages, so they accept the same inputs, with the same message, and no field of a nested message
is ever read from beyond it.

* `skips_skip`: skipping takes the values of fields that are not declared.
* `readRecords_sound`, `readRecords_complete`: a run of records stops at the limit exactly if a
  sequence of records ends there.
* `takes_readNested`, `takes_readSliced`: both ways to read a nested message take its grammar.
* `Schema.takes_mergeFieldBy`: the reader of a field takes what the schema says of it.
* `decode_accepts_grammar`: the statement about every message and all inputs.
-/

namespace LaptopCatalogue.Wire

variable {α σ : Type}

/-! ## Unknown fields -/

theorem SpellsKey.length_pos {bs : Bytes} {number : Nat} {wireType : WireType}
    (h : SpellsKey bs number wireType) : 0 < bs.length :=
  h.spelled.length_pos

section

variable {skipField : Nat → WireType → Bytes → Except Failure Bytes}
  {field : Nat → WireType → Bytes → Prop}

/-- The fields of an open group and its end. -/
def Group (field : Nat → WireType → Bytes → Prop) (number : Nat) (bs : Bytes) : Prop :=
  ∃ fields close, bs = fields ++ close ∧ SpellsKey close number .endGroup ∧
    Records (fun inner wireType (_ : Unit) value _ => field inner wireType value) () fields ()

theorem skipGroup_sound (h : ∀ number wireType, Skips (skipField number wireType)
      (field number wireType)) {number fuel : Nat} {bs rest : Bytes}
    (hskip : skipGroup skipField number fuel bs = .ok rest) :
    ∃ used, bs = used ++ rest ∧ Group field number used := by
  induction fuel generalizing bs with
  | zero => simp [skipGroup] at hskip
  | succ fuel ih =>
    simp only [skipGroup, bind_eq_ok_iff] at hskip
    obtain ⟨⟨⟨inner, wireType⟩, bs₁⟩, hread, hskip⟩ := hskip
    obtain ⟨key, rfl, hkey⟩ := takes_readKey.sound hread
    by_cases hend : wireType = .endGroup
    · subst hend
      by_cases hnumber : inner = number
      · obtain rfl : bs₁ = rest := by simpa [hnumber] using hskip
        exact ⟨key, rfl, [], key, rfl, hnumber ▸ hkey, .nil ()⟩
      · simp [hnumber] at hskip
    · simp only [hend, if_false, bind_eq_ok_iff] at hskip
      obtain ⟨bs₂, hvalue', hrest⟩ := hskip
      obtain ⟨value, rfl, hvalue⟩ := (h inner wireType _ _).mp hvalue'
      obtain ⟨used, rfl, fields, close, rfl, hclose, hfields⟩ := ih hrest
      exact ⟨key ++ (value ++ (fields ++ close)), by simp, key ++ (value ++ fields), close, by simp,
        hclose, .cons hkey hvalue hfields⟩

theorem skipGroup_complete (h : ∀ number wireType, Skips (skipField number wireType)
      (field number wireType)) (hend : ∀ number bs, ¬field number .endGroup bs)
    {number fuel : Nat} {fields close : Bytes} {u u' : Unit}
    (hclose : SpellsKey close number .endGroup)
    (hfields : Records (fun inner wireType (_ : Unit) value _ => field inner wireType value)
      u fields u')
    (rest : Bytes) (hfuel : (fields ++ close ++ rest).length ≤ fuel) :
    skipGroup skipField number fuel (fields ++ close ++ rest) = .ok rest := by
  -- the fuel lasts, since a key takes a byte at least
  induction hfields generalizing fuel with
  | nil _ =>
    have hpos := hclose.length_pos
    cases fuel with
    | zero =>
      simp only [List.length_append] at hfuel
      omega
    | succ fuel =>
      have hread := takes_readKey.complete (v := (number, .endGroup)) hclose rest
      simp [skipGroup, hread, bind, Except.bind]
  | @cons inner wireType key value fields _ _ _ hkey hvalue _ ih =>
    have hpos := hkey.length_pos
    cases fuel with
    | zero =>
      simp only [List.length_append] at hfuel
      omega
    | succ fuel =>
      -- a field in between is not taken for the end of the group
      have hopen : wireType ≠ .endGroup := by
        rintro rfl
        exact hend inner value hvalue
      have hread := takes_readKey.complete (v := (inner, wireType)) hkey
        (value ++ (fields ++ close ++ rest))
      have hskip := (h inner wireType).complete hvalue (fields ++ close ++ rest)
      have hless : (fields ++ close ++ rest).length ≤ fuel := by
        simp only [List.length_append] at hfuel ⊢
        omega
      have hrest := ih hless
      simp only [List.append_assoc] at hread hskip hrest ⊢
      simp [skipGroup, hread, hopen, hskip, hrest, bind, Except.bind]

end

/-- Skipping takes the values of fields that are not declared. -/
theorem skips_skip (budget number : Nat) (wireType : WireType) :
    Skips (skip budget number wireType) (Unknown budget number wireType) := by
  induction budget generalizing number wireType with
  | zero =>
    intro bs rest
    simp [skip, Unknown]
  | succ budget ih =>
    cases wireType with
    | varint => exact takes_readVarint.skips
    | sixtyFourBit => exact (takes_takeBytes 8).skips.congr fun used => by simp [Unknown]
    | thirtyTwoBit => exact (takes_takeBytes 4).skips.congr fun used => by simp [Unknown]
    | lengthDelimited => exact takes_takeDelimited.skips
    | startGroup =>
      intro bs rest
      constructor
      · exact skipGroup_sound ih
      · rintro ⟨used, rfl, fields, close, rfl, hclose, hfields⟩
        refine skipGroup_complete ih ?_ hclose hfields rest (Nat.le_refl _)
        intro inner bs hend
        cases budget <;> exact hend
    | endGroup =>
      intro bs rest
      simp [skip, Unknown]

/-! ## Sequences of records -/

section

variable {step : Nat → WireType → σ → Bytes → Except Failure (σ × Bytes)}
  {field : Nat → WireType → σ → Bytes → σ → Prop} {limit : Nat} {m m' : σ} {bs rest : Bytes}

theorem readRecords_sound
    (h : ∀ number wireType m, Takes (step number wireType m) (field number wireType m))
    {fuel : Nat} (hfuel : bs.length ≤ fuel)
    (hread : readRecords step limit fuel m bs = .ok (m', rest)) :
    rest.length ≤ limit ∧ ∃ used, bs = used ++ rest ∧ Records field m used m' := by
  induction fuel generalizing m bs with
  | zero =>
    obtain ⟨rfl, rfl⟩ : m = m' ∧ bs = rest := by simpa [readRecords] using hread
    exact ⟨by omega, [], rfl, .nil m⟩
  | succ fuel ih =>
    by_cases hdone : bs.length ≤ limit
    · obtain ⟨rfl, rfl⟩ : m = m' ∧ bs = rest := by simpa [readRecords, hdone] using hread
      exact ⟨hdone, [], rfl, .nil m⟩
    · simp only [readRecords, hdone, if_false, bind_eq_ok_iff] at hread
      obtain ⟨⟨⟨number, wireType⟩, bs₁⟩, hkey', ⟨m₁, bs₂⟩, hvalue', hread⟩ := hread
      obtain ⟨key, rfl, hkey⟩ := takes_readKey.sound hkey'
      obtain ⟨value, rfl, hvalue⟩ := (h number wireType m).sound hvalue'
      have hpos := hkey.length_pos
      have hless : bs₂.length ≤ fuel := by
        simp only [List.length_append] at hfuel
        omega
      obtain ⟨hend, used, rfl, hrecords⟩ := ih hless hread
      exact ⟨hend, key ++ (value ++ used), by simp, .cons hkey hvalue hrecords⟩

theorem readRecords_complete
    (h : ∀ number wireType m, Takes (step number wireType m) (field number wireType m))
    {fuel : Nat} {used : Bytes} (hrecords : Records field m used m')
    (hfuel : (used ++ rest).length ≤ fuel) (hlimit : rest.length = limit) :
    readRecords step limit fuel m (used ++ rest) = .ok (m', rest) := by
  induction hrecords generalizing fuel with
  | nil m =>
    cases fuel with
    | zero => rfl
    | succ fuel => simp [readRecords, hlimit]
  | @cons number wireType key value fields m m₁ m₂ hkey hvalue _ ih =>
    have hpos := hkey.length_pos
    cases fuel with
    | zero =>
      simp only [List.length_append] at hfuel
      omega
    | succ fuel =>
      -- the key alone reaches beyond the limit, so the run does not stop in front of it
      have hmore : ¬(key ++ (value ++ (fields ++ rest))).length ≤ limit := by
        simp only [List.length_append]
        omega
      have hread := takes_readKey.complete (v := (number, wireType)) hkey
        (value ++ (fields ++ rest))
      have hset := (h number wireType m).complete hvalue (fields ++ rest)
      have hless : (fields ++ rest).length ≤ fuel := by
        simp only [List.length_append] at hfuel ⊢
        omega
      have hrest := ih hless
      simp only [List.append_assoc]
      simp only [readRecords, hmore, if_false, hread, hset, hrest, bind, Except.bind]

/-- A run over the whole input accepts the sequences of records. -/
theorem readRecords_all_iff
    (h : ∀ number wireType m, Takes (step number wireType m) (field number wireType m)) :
    readRecords step 0 bs.length m bs = .ok (m', rest) ↔ rest = [] ∧ Records field m bs m' := by
  constructor
  · intro hread
    obtain ⟨hend, used, rfl, hrecords⟩ := readRecords_sound h (Nat.le_refl _) hread
    obtain rfl : rest = [] := List.length_eq_zero_iff.mp (Nat.le_zero.mp hend)
    rw [List.append_nil]
    exact ⟨rfl, hrecords⟩
  · rintro ⟨rfl, hrecords⟩
    have hread := readRecords_complete h hrecords (Nat.le_of_eq rfl) (rfl : ([] : Bytes).length = 0)
    rw [List.append_nil] at hread
    exact hread

end

/-- Records that must end after so many bytes are read from exactly these bytes: where a record runs
past them, the reader does not stop there. -/
theorem takes_filling {step : Nat → WireType → σ → Bytes → Except Failure (σ × Bytes)}
    {field : Nat → WireType → σ → Bytes → σ → Prop}
    (h : ∀ number wireType m, Takes (step number wireType m) (field number wireType m))
    (m : σ) (length : Nat) :
    Takes (fun bs =>
        if bs.length < length then refuse .underflow
        else do
          let (m, rest) ← readRecords step (bs.length - length) bs.length m bs
          if rest.length = bs.length - length then .ok (m, rest) else refuse .lengthExceeded)
      (fun used m' => used.length = length ∧ Records field m used m') := by
  intro bs m' rest
  constructor
  · intro hread
    by_cases hshort : bs.length < length
    · simp [hshort] at hread
    · simp only [hshort, if_false, bind_eq_ok_iff] at hread
      obtain ⟨⟨m₁, rest₁⟩, hrecords, hend⟩ := hread
      by_cases hlimit : rest₁.length = bs.length - length
      · -- what is left of the input says how much was read
        obtain ⟨rfl, rfl⟩ : m₁ = m' ∧ rest₁ = rest := by simpa [hlimit] using hend
        obtain ⟨_, used, rfl, hrecords'⟩ := readRecords_sound h (Nat.le_refl _) hrecords
        refine ⟨used, rfl, ?_, hrecords'⟩
        simp only [List.length_append] at hlimit hshort
        omega
      · simp [hlimit] at hend
  · rintro ⟨used, rfl, rfl, hrecords⟩
    have hlimit : rest.length = (used ++ rest).length - used.length := by
      simp only [List.length_append]
      omega
    have hshort : ¬(used ++ rest).length < used.length := by
      simp only [List.length_append]
      omega
    have hread := readRecords_complete h hrecords (Nat.le_refl _) hlimit
    simp only [hshort, if_false, hread, bind, Except.bind]
    rw [if_pos hlimit]

/-- What reads a nested message behind a check of its wire type and its budget takes the grammar of
nested messages, if it takes a sequence of records behind their length. -/
theorem takes_nested {field : Nat → Nat → WireType → σ → Bytes → σ → Prop} {m : σ}
    {read : (budget : Nat) → Bytes → Except Failure (σ × Bytes)}
    (h : ∀ budget, Takes (read budget) fun used m' =>
      ∃ payload, Delimited used payload ∧ Records (field budget) m payload m')
    (budget : Nat) (wireType : WireType) :
    Takes (fun bs => do
        expect .lengthDelimited wireType
        if budget = 0 then refuse .recursionLimit else read (budget - 1) bs)
      (Nested field budget wireType m) := by
  cases budget with
  | zero =>
    intro bs m' rest
    simp [bind_eq_ok_iff, Nested]
  | succ budget =>
    refine ((h budget).expecting .lengthDelimited wireType).congr ?_
    intro used m'
    cases wireType <;> simp [Nested]

section

variable {step : Nat → Nat → WireType → σ → Bytes → Except Failure (σ × Bytes)}
  {field : Nat → Nat → WireType → σ → Bytes → σ → Prop}

/-- A nested message is read from exactly its own bytes. -/
theorem takes_readNested
    (h : ∀ budget number wireType m,
      Takes (step budget number wireType m) (field budget number wireType m))
    (budget : Nat) (wireType : WireType) (m : σ) :
    Takes (readNested step budget wireType m) (Nested field budget wireType m) := by
  have hread (budget : Nat) :=
    takes_readVarint.bind fun length => takes_filling (h budget) m length.toNat
  refine takes_nested (fun budget => (hread budget).congr ?_) budget wireType
  intro used m'
  constructor
  · rintro ⟨length, front, payload, rfl, hlength, hcount, hrecords⟩
    refine ⟨payload, ⟨⟨front, rfl, ?_⟩, hcount ▸ length.toNat_lt⟩, hrecords⟩
    rw [hcount, UInt64.ofNat_toNat]
    exact hlength
  · rintro ⟨payload, ⟨⟨front, rfl, hlength⟩, hfits⟩, hrecords⟩
    exact ⟨_, front, payload, rfl, hlength, (UInt64.toNat_ofNat_of_lt' hfits).symm, hrecords⟩

/-- Reads a nested message from the slice of its length: its fields cannot see what follows. -/
def readSliced (step : Nat → Nat → WireType → σ → Bytes → Except Failure (σ × Bytes))
    (budget : Nat) (wireType : WireType) (m : σ) (bs : Bytes) : Except Failure (σ × Bytes) := do
  expect .lengthDelimited wireType
  if budget = 0 then refuse .recursionLimit
  else
    let (payload, bs) ← takeDelimited bs
    let (m, _) ← readRecords (step (budget - 1)) 0 payload.length m payload
    .ok (m, bs)

theorem takes_readSliced
    (h : ∀ budget number wireType m,
      Takes (step budget number wireType m) (field budget number wireType m))
    (budget : Nat) (wireType : WireType) (m : σ) :
    Takes (readSliced step budget wireType m) (Nested field budget wireType m) := by
  have hslice (budget : Nat) (payload : Bytes) : Takes (fun bs => do
        let (m, _) ← readRecords (step budget) 0 payload.length m payload
        .ok (m, bs))
      (fun used m' => used = [] ∧ Records (field budget) m payload m') := by
    intro bs m' rest
    simp only [bind_eq_ok_iff, Prod.exists, readRecords_all_iff (h budget)]
    grind
  refine takes_nested (fun budget => (takes_takeDelimited.bind (hslice budget)).congr ?_) budget
    wireType
  intro used m'
  constructor
  · rintro ⟨payload, front, back, rfl, hdelimited, rfl, hrecords⟩
    rw [List.append_nil]
    exact ⟨payload, hdelimited, hrecords⟩
  · rintro ⟨payload, hdelimited, hrecords⟩
    exact ⟨payload, used, [], (List.append_nil used).symm, hdelimited, rfl, hrecords⟩

end

/-! ## Messages -/

namespace Schema

/-- A way to read nested messages takes their grammar, if the reader of their fields takes that of
the fields. -/
def NestedReader.TakesNested (nested : NestedReader) : Prop :=
  ∀ (σ : Type) (step : Nat → Nat → WireType → σ → Bytes → Except Failure (σ × Bytes))
    (field : Nat → Nat → WireType → σ → Bytes → σ → Prop),
    (∀ budget number wireType m,
      Takes (step budget number wireType m) (field budget number wireType m)) →
    ∀ budget wireType m, Takes (nested σ step budget wireType m) (Nested field budget wireType m)

/-- The reader of a field takes what the schema says of it. -/
theorem takes_mergeFieldBy {nested : NestedReader} (h : nested.TakesNested) (schema : Schema)
    (budget number : Nat) (wireType : WireType) (r : schema.Record) :
    Takes (schema.mergeFieldBy nested budget number wireType r)
      (schema.Sets budget number wireType r) := by
  induction schema generalizing budget number wireType with
  | done =>
    exact ((skips_skip budget number wireType).put r).congr fun used r' => and_iff_left rfl
  | plain name declared kind rest ih =>
    obtain ⟨v, r⟩ := r
    have hset := ((kind.takes_read wireType).inField name).put fun w => (w, r)
    have hrest := (ih budget number wireType r).put fun r => (v, r)
    refine (hset.ite (number = declared) hrest).congr ?_
    rintro used ⟨v', r'⟩
    simp only [Sets, Prod.mk.injEq]
    grind
  | optional name declared kind rest ih =>
    obtain ⟨v, r⟩ := r
    have hset := ((kind.takes_read wireType).inField name).put fun w => (some w, r)
    have hrest := (ih budget number wireType r).put fun r => (v, r)
    refine (hset.ite (number = declared) hrest).congr ?_
    rintro used ⟨v', r'⟩
    simp only [Sets, Prod.mk.injEq]
    grind
  | choice name left leftKind right rightKind rest ih =>
    obtain ⟨v, r⟩ := r
    have hleft := ((leftKind.takes_read wireType).inField name).put fun w =>
      ((some (.inl w) : Option (leftKind.Value ⊕ rightKind.Value)), r)
    have hright := ((rightKind.takes_read wireType).inField name).put fun w =>
      ((some (.inr w) : Option (leftKind.Value ⊕ rightKind.Value)), r)
    have hrest := (ih budget number wireType r).put fun r => (v, r)
    refine (hleft.ite (number = left) (hright.ite (number = right) hrest)).congr ?_
    rintro used ⟨v', r'⟩
    simp only [Sets, Prod.mk.injEq]
    grind
  | message name declared inner rest ihInner ih =>
    obtain ⟨m, r⟩ := r
    have hnested := h inner.Record _ _ ihInner budget wireType (m.getD inner.empty)
    have hset := (hnested.inField name).put fun w => (some w, r)
    have hrest := (ih budget number wireType r).put fun r => (m, r)
    refine (hset.ite (number = declared) hrest).congr ?_
    rintro used ⟨m', r'⟩
    simp only [Sets, Prod.mk.injEq]
    grind
  | repeated name declared inner rest ihInner ih =>
    obtain ⟨ms, r⟩ := r
    have hnested := h inner.Record _ _ ihInner budget wireType inner.empty
    have hset := (hnested.inField name).put fun w => (ms ++ [w], r)
    have hrest := (ih budget number wireType r).put fun r => (ms, r)
    refine (hset.ite (number = declared) hrest).congr ?_
    rintro used ⟨ms', r'⟩
    simp only [Sets, Prod.mk.injEq]
    grind

theorem takes_mergeField (schema : Schema) (budget number : Nat) (wireType : WireType)
    (r : schema.Record) :
    Takes (schema.mergeField budget number wireType r) (schema.Sets budget number wireType r) :=
  takes_mergeFieldBy (fun _ _ _ => takes_readNested) schema budget number wireType r

theorem merge_eq_ok_iff (schema : Schema) (r r' : schema.Record) (bs : Bytes) :
    schema.merge r bs = .ok r' ↔ Records (schema.Sets maxNesting) r bs r' := by
  simp [merge, map_eq_ok_iff, readRecords_all_iff (schema.takes_mergeField maxNesting)]

/-- Reads a message, and each nested message in it from the slice of its length. -/
def decodeSliced (schema : Schema) (bs : Bytes) : Except Failure schema.Record :=
  (readRecords (schema.mergeFieldBy @readSliced maxNesting) 0 bs.length schema.empty bs).map
    Prod.fst

theorem decodeSliced_eq_ok_iff (schema : Schema) (r : schema.Record) (bs : Bytes) :
    schema.decodeSliced bs = .ok r ↔ Records (schema.Sets maxNesting) schema.empty bs r := by
  have hfield := takes_mergeFieldBy (fun _ _ _ => takes_readSliced) schema maxNesting
  simp [decodeSliced, map_eq_ok_iff, readRecords_all_iff hfield]

end Schema

section

variable [Message α]

theorem ofRecord_eq_iff (r : (Message.schema α).Record) (m : α) :
    Message.ofRecord r = m ↔ r = Message.toRecord m := by
  constructor
  · rintro rfl
    exact (Message.toRecord_ofRecord r).symm
  · rintro rfl
    exact Message.ofRecord_toRecord m

theorem merge_eq_ok_iff (m m' : α) (bs : Bytes) : merge m bs = .ok m' ↔ Changes m bs m' := by
  unfold merge
  simp only [map_eq_ok_iff, ofRecord_eq_iff, exists_eq_right]
  exact (Message.schema α).merge_eq_ok_iff _ _ bs

/-- Reads a message, and each nested message in it from the slice of its length. -/
def decodeSliced (bs : Bytes) : Except Failure α :=
  ((Message.schema α).decodeSliced bs).map Message.ofRecord

theorem decodeSliced_eq_ok_iff (m : α) (bs : Bytes) :
    decodeSliced bs = .ok m ↔ Changes emptyMessage bs m := by
  unfold decodeSliced
  simp only [map_eq_ok_iff, ofRecord_eq_iff, exists_eq_right]
  rw [Changes, emptyMessage, Message.toRecord_ofRecord]
  exact (Message.schema α).decodeSliced_eq_ok_iff _ bs

/-- Decoding accepts what the reference accepts, with the same message, and that is what the grammar
of messages says. The grammar and the reference confine a nested message to the bytes of its length,
and so does the reader, although it looks at the whole input: each field, at any depth and whatever
follows, takes exactly the bytes of its value. -/
theorem decode_accepts_grammar (bs : Bytes) (m : α) :
    (decode bs = .ok m ↔ decodeSliced bs = .ok m) ∧
    (decodeSliced bs = .ok m ↔ Changes emptyMessage bs m) ∧
    ∀ (schema : Schema) (budget number : Nat) (wireType : WireType) (r : schema.Record),
      Takes (schema.mergeField budget number wireType r)
        (schema.Sets budget number wireType r) := by
  have hdecode : decode bs = .ok m ↔ Changes emptyMessage bs m := merge_eq_ok_iff emptyMessage m bs
  have hsliced := decodeSliced_eq_ok_iff m bs
  exact ⟨hdecode.trans hsliced.symm, hsliced, Schema.takes_mergeField⟩

/-- A memory of one byte, whose first number would have to be read from the byte behind it: that too
much was read is noticed, and there is no message. -/
example : (decode [0x2a, 1, 0x08, 5] : Except Failure Gpu) =
    .error ⟨[⟨"Gpu", "memory"⟩], .lengthExceeded⟩ := by
  rfl

end

end LaptopCatalogue.Wire
