import LaptopCatalogue.Proofs.Wire.Concatenation

/-!
# Fields that are not declared

Between the records of a message, and of every message inside it, there may be records with numbers
that the schema does not declare. They can be of every wire type, groups with all that is in them
among them, and whoever reads the message sees nothing of them.

* `Schema.Undeclared`: a record that a message may be padded with.
* `Schema.Padded`: a message with one such record more, at any depth.
* `Schema.sets_of_notMem_numbers`: the step; such a record leaves the message as it is.
* `Schema.sets_iff_nested`: what a value at the number of a nested message does to the one around
  it.
* `Schema.Padded.records_iff`: a padded message and the message make the same of every state.
* `undeclared_fields_are_transparent`: the statement about every message and all inputs.
-/

namespace LaptopCatalogue.Wire

variable {σ : Type}

/-- Where every value is one for every state, a sequence of records is one from every state. -/
theorem Records.from_any {field : Nat → WireType → σ → Bytes → σ → Prop}
    (h : ∀ number wireType m value m', field number wireType m value m' →
      ∀ s, ∃ s', field number wireType s value s')
    {m m' : σ} {bs : Bytes} (hrecords : Records field m bs m') (s : σ) :
    ∃ s', Records field s bs s' := by
  induction hrecords generalizing s with
  | nil _ => exact ⟨s, .nil s⟩
  | cons hkey hvalue _ ih =>
    obtain ⟨s₁, hvalue'⟩ := h _ _ _ _ _ hvalue s
    obtain ⟨s₂, hrest⟩ := ih s₁
    exact ⟨s₂, .cons hkey hvalue' hrest⟩

/-- The bytes of a nested message are its length and its payload. -/
theorem nested_iff_of_delimited {field : Nat → Nat → WireType → σ → Bytes → σ → Prop}
    {budget : Nat} {bs payload : Bytes} (h : Delimited bs payload) (m m' : σ) :
    Nested field (budget + 1) .lengthDelimited m bs m' ↔ Records (field budget) m payload m' := by
  constructor
  · rintro ⟨payload', h', hrecords⟩
    obtain ⟨-, rfl, -⟩ := takes_takeDelimited.unique h h' (rfl : bs ++ [] = bs ++ [])
    exact hrecords
  · intro hrecords
    exact ⟨payload, h, hrecords⟩

namespace Schema

/-! ## What is declared -/

/-- The schema of the nested message that is declared with a number. -/
def nested? : Schema → Nat → Option Schema
  | .done, _ => none
  | .plain _ declared _ rest, number | .optional _ declared _ rest, number =>
    if number = declared then none else rest.nested? number
  | .choice _ left _ right _ rest, number =>
    if number = left ∨ number = right then none else rest.nested? number
  | .message _ declared inner rest, number | .repeated _ declared inner rest, number =>
    if number = declared then some inner else rest.nested? number

/-- Whether a byte string is a sequence of records of a message. -/
def IsRecords (schema : Schema) (budget : Nat) (bs : Bytes) : Prop :=
  ∃ r r', Records (schema.Sets budget) r bs r'

/-- A complete record whose number is not declared: a key and the value behind it, which may be a
group with all that is in it, as far as the budget reaches. -/
def Undeclared (schema : Schema) (budget : Nat) (record : Bytes) : Prop :=
  ∃ key value number wireType, record = key ++ value ∧ SpellsKey key number wireType ∧
    number ∉ schema.numbers ∧ Unknown budget number wireType value

/-- The second byte string is the first one with a record more that is not declared: it stands
between two records of the message, or of a nested message whose length is then another one. -/
inductive Padded : Schema → Nat → Bytes → Bytes → Prop where
  | here {schema : Schema} {budget : Nat} {front record back : Bytes}
      (hfront : schema.IsRecords budget front) (hrecord : schema.Undeclared budget record) :
      Padded schema budget (front ++ back) (front ++ (record ++ back))
  | inside {schema inner : Schema} {budget number : Nat}
      {front key value value' payload payload' back : Bytes}
      (hfront : schema.IsRecords (budget + 1) front)
      (hkey : SpellsKey key number .lengthDelimited) (hnested : schema.nested? number = some inner)
      (hvalue : Delimited value payload) (hvalue' : Delimited value' payload')
      (hpadded : Padded inner budget payload payload') :
      Padded schema (budget + 1) (front ++ (key ++ (value ++ back)))
        (front ++ (key ++ (value' ++ back)))

/-! ## One record -/

/-- A record that is not declared leaves the message as it is. -/
theorem sets_of_notMem_numbers {schema : Schema} {budget number : Nat}
    (h : number ∉ schema.numbers) {wireType : WireType} {bs : Bytes}
    (hvalue : Unknown budget number wireType bs) (r : schema.Record) :
    schema.Sets budget number wireType r bs r := by
  induction schema with
  | done => exact hvalue
  | plain name declared kind rest ih | optional name declared kind rest ih =>
    obtain ⟨v, r⟩ := r
    obtain ⟨hne, hrest⟩ := List.ne_and_not_mem_of_not_mem_cons h
    simp only [Sets, hne, if_false]
    exact ⟨trivial, ih hrest r⟩
  | choice name left leftKind right rightKind rest ih =>
    obtain ⟨v, r⟩ := r
    obtain ⟨hneLeft, hrest⟩ := List.ne_and_not_mem_of_not_mem_cons h
    obtain ⟨hneRight, hrest⟩ := List.ne_and_not_mem_of_not_mem_cons hrest
    simp only [Sets, hneLeft, hneRight, if_false]
    exact ⟨trivial, ih hrest r⟩
  | message name declared inner rest _ ih | repeated name declared inner rest _ ih =>
    obtain ⟨m, r⟩ := r
    obtain ⟨hne, hrest⟩ := List.ne_and_not_mem_of_not_mem_cons h
    simp only [Sets, hne, if_false]
    exact ⟨trivial, ih hrest r⟩

/-- What is a value of a nested message in one state is one in every state, if the same holds of the
values inside. -/
theorem nested_from_any {inner : Schema}
    (h : ∀ {budget number wireType r bs r'}, inner.Sets budget number wireType r bs r' →
      ∀ s, ∃ s', inner.Sets budget number wireType s bs s')
    {budget : Nat} {wireType : WireType} {m m' : inner.Record} {bs : Bytes}
    (hnested : Nested inner.Sets budget wireType m bs m') (s : inner.Record) :
    ∃ s', Nested inner.Sets budget wireType s bs s' := by
  match budget, wireType, hnested with
  | budget + 1, .lengthDelimited, ⟨payload, hdelimited, hrecords⟩ =>
    obtain ⟨s', hrecords'⟩ := hrecords.from_any (fun _ _ _ _ _ hvalue => h hvalue) s
    exact ⟨s', payload, hdelimited, hrecords'⟩

/-- Whether bytes are a value of a field does not depend on what the message holds. -/
theorem sets_from_any {schema : Schema} {budget number : Nat} {wireType : WireType}
    {r r' : schema.Record} {bs : Bytes} (h : schema.Sets budget number wireType r bs r')
    (s : schema.Record) : ∃ s', schema.Sets budget number wireType s bs s' := by
  -- the field with the number takes the value whatever it held, the other fields keep theirs
  induction schema generalizing budget number wireType bs with
  | done => exact ⟨s, h⟩
  | plain name declared kind rest ih | optional name declared kind rest ih =>
    obtain ⟨v, r⟩ := r
    obtain ⟨v', r'⟩ := r'
    obtain ⟨w, s⟩ := s
    by_cases hnumber : number = declared
    · refine ⟨(v', s), ?_⟩
      simp only [Sets, hnumber, if_true] at h ⊢
      exact ⟨h.1, h.2.1, trivial⟩
    · simp only [Sets, hnumber, if_false] at h
      obtain ⟨s', hrest⟩ := ih h.2 s
      refine ⟨(w, s'), ?_⟩
      simp only [Sets, hnumber, if_false]
      exact ⟨trivial, hrest⟩
  | choice name left leftKind right rightKind rest ih =>
    obtain ⟨v, r⟩ := r
    obtain ⟨v', r'⟩ := r'
    obtain ⟨w, s⟩ := s
    by_cases hleft : number = left
    · refine ⟨(v', s), ?_⟩
      simp only [Sets, hleft, if_true] at h ⊢
      exact ⟨h.1, h.2.1, trivial⟩
    · by_cases hright : number = right
      · refine ⟨(v', s), ?_⟩
        simp only [Sets, if_neg hleft, if_pos hright] at h ⊢
        exact ⟨h.1, h.2.1, trivial⟩
      · simp only [Sets, hleft, hright, if_false] at h
        obtain ⟨s', hrest⟩ := ih h.2 s
        refine ⟨(w, s'), ?_⟩
        simp only [Sets, hleft, hright, if_false]
        exact ⟨trivial, hrest⟩
  | message name declared inner rest ihInner ih =>
    obtain ⟨m, r⟩ := r
    obtain ⟨m', r'⟩ := r'
    obtain ⟨w, s⟩ := s
    by_cases hnumber : number = declared
    · simp only [Sets, hnumber, if_true] at h
      obtain ⟨⟨_, hnested, _⟩, _⟩ := h
      obtain ⟨w', hnested'⟩ := nested_from_any ihInner hnested (w.getD inner.empty)
      refine ⟨(some w', s), ?_⟩
      simp only [Sets, hnumber, if_true]
      exact ⟨⟨w', hnested', rfl⟩, trivial⟩
    · simp only [Sets, hnumber, if_false] at h
      obtain ⟨s', hrest⟩ := ih h.2 s
      refine ⟨(w, s'), ?_⟩
      simp only [Sets, hnumber, if_false]
      exact ⟨trivial, hrest⟩
  | repeated name declared inner rest _ ih =>
    obtain ⟨ms, r⟩ := r
    obtain ⟨ms', r'⟩ := r'
    obtain ⟨ws, s⟩ := s
    by_cases hnumber : number = declared
    · simp only [Sets, hnumber, if_true] at h
      -- a member of a list is read into the empty message and not into what is there
      obtain ⟨⟨w, hnested, _⟩, _⟩ := h
      refine ⟨(ws ++ [w], s), ?_⟩
      simp only [Sets, hnumber, if_true]
      exact ⟨⟨w, hnested, rfl⟩, trivial⟩
    · simp only [Sets, hnumber, if_false] at h
      obtain ⟨s', hrest⟩ := ih h.2 s
      refine ⟨(ws, s'), ?_⟩
      simp only [Sets, hnumber, if_false]
      exact ⟨trivial, hrest⟩

/-- At the number of a nested message, all that a value does to the message around it is to make
something of one that it holds there, or of the empty one, and to put that in. -/
theorem sets_iff_nested {schema inner : Schema} {number : Nat}
    (hnested : schema.nested? number = some inner) :
    ∃ (held : schema.Record → inner.Record) (put : schema.Record → inner.Record → schema.Record),
      ∀ {budget wireType r bs r'}, schema.Sets budget number wireType r bs r' ↔
        ∃ m', Nested inner.Sets budget wireType (held r) bs m' ∧ r' = put r m' := by
  induction schema with
  | done => cases hnested
  | plain name declared kind rest ih | optional name declared kind rest ih =>
    by_cases hnumber : number = declared
    · simp [nested?, hnumber] at hnested
    · simp only [nested?, hnumber, if_false] at hnested
      obtain ⟨held, put, hsets⟩ := ih hnested
      refine ⟨fun r => held r.2, fun r m' => (r.1, put r.2 m'), ?_⟩
      rintro budget wireType ⟨v, r⟩ bs ⟨v', r'⟩
      simp only [Sets, hnumber, if_false, hsets]
      grind
  | choice name left leftKind right rightKind rest ih =>
    by_cases hnumber : number = left ∨ number = right
    · simp [nested?, hnumber] at hnested
    · simp only [nested?, hnumber, if_false] at hnested
      obtain ⟨hleft, hright⟩ := not_or.mp hnumber
      obtain ⟨held, put, hsets⟩ := ih hnested
      refine ⟨fun r => held r.2, fun r m' => (r.1, put r.2 m'), ?_⟩
      rintro budget wireType ⟨v, r⟩ bs ⟨v', r'⟩
      simp only [Sets, hleft, hright, if_false, hsets]
      grind
  | message name declared inner rest _ ih =>
    by_cases hnumber : number = declared
    · simp only [nested?, hnumber, if_true, Option.some.injEq] at hnested
      subst hnested
      refine ⟨fun r => r.1.getD inner.empty, fun r m' => (some m', r.2), ?_⟩
      rintro budget wireType ⟨v, r⟩ bs ⟨v', r'⟩
      simp only [Sets, hnumber, if_true]
      grind
    · simp only [nested?, hnumber, if_false] at hnested
      obtain ⟨held, put, hsets⟩ := ih hnested
      refine ⟨fun r => held r.2, fun r m' => (r.1, put r.2 m'), ?_⟩
      rintro budget wireType ⟨v, r⟩ bs ⟨v', r'⟩
      simp only [Sets, hnumber, if_false, hsets]
      grind
  | repeated name declared inner rest _ ih =>
    by_cases hnumber : number = declared
    · simp only [nested?, hnumber, if_true, Option.some.injEq] at hnested
      subst hnested
      refine ⟨fun _ => inner.empty, fun r m' => (r.1 ++ [m'], r.2), ?_⟩
      rintro budget wireType ⟨v, r⟩ bs ⟨v', r'⟩
      simp only [Sets, hnumber, if_true]
      grind
    · simp only [nested?, hnumber, if_false] at hnested
      obtain ⟨held, put, hsets⟩ := ih hnested
      refine ⟨fun r => held r.2, fun r m' => (r.1, put r.2 m'), ?_⟩
      rintro budget wireType ⟨v, r⟩ bs ⟨v', r'⟩
      simp only [Sets, hnumber, if_false, hsets]
      grind

/-- Values that make the same of a nested message make the same of the message around it. -/
theorem sets_congr_nested {schema inner : Schema} {number : Nat}
    (hnested : schema.nested? number = some inner) {budget : Nat} {wireType : WireType}
    {bs bs' : Bytes}
    (h : ∀ m m', Nested inner.Sets budget wireType m bs m' ↔
      Nested inner.Sets budget wireType m bs' m')
    (r r' : schema.Record) :
    schema.Sets budget number wireType r bs r' ↔ schema.Sets budget number wireType r bs' r' := by
  obtain ⟨held, put, hsets⟩ := sets_iff_nested hnested
  simp only [hsets, h]

/-! ## Sequences of records -/

/-- Where records end does not depend on what the message holds. -/
theorem IsRecords.from_any {schema : Schema} {budget : Nat} {bs : Bytes}
    (h : schema.IsRecords budget bs) (s : schema.Record) :
    ∃ s', Records (schema.Sets budget) s bs s' := by
  obtain ⟨r, r', hrecords⟩ := h
  exact hrecords.from_any (fun _ _ _ _ _ hvalue => sets_from_any hvalue) s

/-- A sequence of records may be cut where some of its records end. -/
theorem records_append_iff {schema : Schema} {budget : Nat} {r r₁ r' : schema.Record}
    {front : Bytes} (h : Records (schema.Sets budget) r front r₁) (back : Bytes) :
    Records (schema.Sets budget) r (front ++ back) r' ↔
      Records (schema.Sets budget) r₁ back r' := by
  -- both sides are what the reader makes of the bytes, and it goes on from where the front ends
  have hrun := readRecords_append (schema.takes_mergeField budget) h back (Nat.le_refl _)
  have hwhole (m m' : schema.Record) (bs : Bytes) :
      readRecords (schema.mergeField budget) 0 bs.length m bs = .ok (m', []) ↔
        Records (schema.Sets budget) m bs m' := by
    rw [readRecords_all_iff (schema.takes_mergeField budget)]
    exact and_iff_right rfl
  rw [← hwhole, ← hwhole, hrun]

/-- A record with a nested message comes first in a sequence of records exactly if it makes
something of the message that the rest goes on with. -/
theorem records_nested_iff {schema inner : Schema} {budget number : Nat}
    {key value payload back : Bytes} (hkey : SpellsKey key number .lengthDelimited)
    (hnested : schema.nested? number = some inner) (hvalue : Delimited value payload)
    (r r' : schema.Record) :
    Records (schema.Sets budget) r (key ++ (value ++ back)) r' ↔
      ∃ r₁, schema.Sets budget number .lengthDelimited r value r₁ ∧
        Records (schema.Sets budget) r₁ back r' := by
  constructor
  · intro hrecords
    generalize hbs : key ++ (value ++ back) = bs at hrecords
    cases hrecords with
    | nil _ =>
      have hpos := hkey.length_pos
      have hlength := congrArg List.length hbs
      simp only [List.length_append, List.length_nil] at hlength
      omega
    | @cons number' wireType' key' value' back' _ r₁ _ hkey' hvalue' hrest =>
      -- the bytes say where the key ends, and behind it where the value does
      have hspells : (fun used key => SpellsKey used key.1 key.2) key' (number', wireType') := hkey'
      obtain ⟨-, hsame, hbehind⟩ := takes_readKey.unique (v := (number, .lengthDelimited)) hkey
        hspells hbs
      obtain ⟨rfl, rfl⟩ := Prod.mk.inj hsame
      obtain ⟨held, put, hsets⟩ := sets_iff_nested hnested
      obtain ⟨m', hinner, _⟩ := hsets.mp hvalue'
      obtain ⟨payload', hdelimited⟩ : ∃ payload', Delimited value' payload' := by
        cases budget with
        | zero => cases hinner
        | succ budget =>
          obtain ⟨payload', hdelimited, _⟩ := hinner
          exact ⟨payload', hdelimited⟩
      obtain ⟨rfl, -, rfl⟩ := takes_takeDelimited.unique hvalue hdelimited hbehind
      exact ⟨r₁, hvalue', hrest⟩
  · rintro ⟨r₁, hsets, hrest⟩
    exact .cons hkey hsets hrest

/-- A message and the same with a record more that is not declared make the same of every state. -/
theorem Padded.records_iff {schema : Schema} {budget : Nat} {bs bs' : Bytes}
    (h : schema.Padded budget bs bs') (r r' : schema.Record) :
    Records (schema.Sets budget) r bs r' ↔ Records (schema.Sets budget) r bs' r' := by
  induction h with
  | @here schema budget front record back hfront hrecord =>
    obtain ⟨r₁, hfront⟩ := hfront.from_any r
    obtain ⟨key, value, number, wireType, rfl, hkey, hnumber, hvalue⟩ := hrecord
    have hrecord : Records (schema.Sets budget) r₁ (key ++ value) r₁ := by
      simpa using Records.cons hkey (sets_of_notMem_numbers hnumber hvalue r₁) (.nil r₁)
    rw [records_append_iff hfront, records_append_iff hfront, records_append_iff hrecord]
  | @inside schema inner budget number front key value value' payload payload' back hfront hkey
      hnested hvalue hvalue' hpadded ih =>
    obtain ⟨r₁, hfront⟩ := hfront.from_any r
    -- the two lengths differ, but each takes in just its payload
    have hsame (m m' : inner.Record) :
        Nested inner.Sets (budget + 1) .lengthDelimited m value m' ↔
          Nested inner.Sets (budget + 1) .lengthDelimited m value' m' := by
      rw [nested_iff_of_delimited hvalue, nested_iff_of_delimited hvalue', ih]
    rw [records_append_iff hfront, records_append_iff hfront,
      records_nested_iff hkey hnested hvalue, records_nested_iff hkey hnested hvalue']
    simp only [sets_congr_nested hnested hsame]

end Schema

section

variable {α : Type} [Message α]

/-- Fields that are not declared are transparent. Behind a message that can be read there may be any
complete record whose number the message does not declare: what follows it has the outcome, be it a
message or a failure, that it has without the record. And a message that can be read may have such a
record between two records of its own or of any message inside it, where the lengths of the messages
around it count the record: the same message is read, and what follows has the same outcome. -/
theorem undeclared_fields_are_transparent {m : α} {bs : Bytes} (h : decode bs = .ok m) :
    (∀ record, (Message.schema α).Undeclared Schema.maxNesting record → ∀ rest,
      (decode (bs ++ (record ++ rest)) : Except Failure α) = decode (bs ++ rest)) ∧
    ∀ padded, (Message.schema α).Padded Schema.maxNesting bs padded →
      decode padded = .ok m ∧
      ∀ rest, (decode (padded ++ rest) : Except Failure α) = decode (bs ++ rest) := by
  have hchanges : Changes emptyMessage bs m := (merge_eq_ok_iff _ m bs).mp h
  -- a padded message makes the same of the empty one, and all that follows goes on from there
  have hpadded (padded : Bytes) (hpadded : (Message.schema α).Padded Schema.maxNesting bs padded) :
      decode padded = .ok m ∧
      ∀ rest, (decode (padded ++ rest) : Except Failure α) = decode (bs ++ rest) := by
    have hread : decode padded = .ok m :=
      (merge_eq_ok_iff _ m padded).mpr ((hpadded.records_iff _ _).mp hchanges)
    refine ⟨hread, fun rest => ?_⟩
    exact (merge_append hread rest).trans (merge_append h rest).symm
  refine ⟨?_, hpadded⟩
  intro record hrecord rest
  have hbehind : (Message.schema α).Padded Schema.maxNesting (bs ++ []) (bs ++ (record ++ [])) :=
    .here ⟨_, _, hchanges⟩ hrecord
  rw [List.append_nil, List.append_nil] at hbehind
  rw [← List.append_assoc]
  exact (hpadded _ hbehind).2 rest

/-- A memory inside a laptop inside a request, padded with a group that holds a number and a group
of its own, and a number behind all of it. -/
theorem undeclared_fields_are_transparent_group :
    let bs : Bytes := [0x0a, 4, 0x2a, 2, 0x08, 5]
    let padded : Bytes := [0x0a, 10, 0x2a, 8, 0x08, 5, 0x7b, 0x08, 1, 0x13, 0x14, 0x7c]
    let record : Bytes := [0x10, 7]
    let request : CreateRequest := { laptop := some { ram := some { value := 5 } } }
    decode bs = .ok request ∧
      (Message.schema CreateRequest).Padded Schema.maxNesting bs padded ∧
      (Message.schema CreateRequest).Undeclared Schema.maxNesting record ∧
      decode padded = .ok request ∧
      (decode (padded ++ [0x0b]) : Except Failure CreateRequest) = decode (bs ++ [0x0b]) ∧
      (decode (bs ++ (record ++ [0x0b])) : Except Failure CreateRequest) =
        decode (bs ++ [0x0b]) := by
  intro bs padded record request
  have hread : decode bs = .ok request := by rfl
  -- from the inside out: the memory with its group, the laptop around it, the request around that
  have hmemory : (Message.schema Memory).Padded 98 [0x08, 5]
      [0x08, 5, 0x7b, 0x08, 1, 0x13, 0x14, 0x7c] := by
    have hrun : readRecords ((Message.schema Memory).mergeField 98) 0 ([0x08, 5] : Bytes).length
        (Message.schema Memory).empty [0x08, 5] =
          .ok (Message.toRecord ({ value := 5 } : Memory), []) := by rfl
    have hfront : (Message.schema Memory).IsRecords 98 [0x08, 5] :=
      ⟨_, _, ((readRecords_all_iff ((Message.schema Memory).takes_mergeField 98)).mp hrun).2⟩
    have hkey : SpellsKey [0x7b] 15 .startGroup :=
      takes_readKey.whole (v := (15, .startGroup)) (by rfl)
    have hgroup : Unknown 98 15 .startGroup [0x08, 1, 0x13, 0x14, 0x7c] :=
      (skips_skip 98 15 .startGroup).whole (by rfl)
    show (Message.schema Memory).Padded 98 ([0x08, 5] ++ [])
      ([0x08, 5] ++ ([0x7b, 0x08, 1, 0x13, 0x14, 0x7c] ++ []))
    exact .here hfront ⟨_, _, 15, .startGroup, rfl, hkey, by decide, hgroup⟩
  have hlaptop : (Message.schema Laptop).Padded 99 [0x2a, 2, 0x08, 5]
      [0x2a, 8, 0x08, 5, 0x7b, 0x08, 1, 0x13, 0x14, 0x7c] := by
    have hfront : (Message.schema Laptop).IsRecords 99 [] :=
      ⟨_, _, .nil (Message.schema Laptop).empty⟩
    have hkey : SpellsKey [0x2a] 5 .lengthDelimited :=
      takes_readKey.whole (v := (5, .lengthDelimited)) (by rfl)
    have hvalue : Delimited [2, 0x08, 5] [0x08, 5] := takes_takeDelimited.whole (by rfl)
    have hvalue' : Delimited [8, 0x08, 5, 0x7b, 0x08, 1, 0x13, 0x14, 0x7c]
        [0x08, 5, 0x7b, 0x08, 1, 0x13, 0x14, 0x7c] := takes_takeDelimited.whole (by rfl)
    show (Message.schema Laptop).Padded 99 ([] ++ ([0x2a] ++ ([2, 0x08, 5] ++ [])))
      ([] ++ ([0x2a] ++ ([8, 0x08, 5, 0x7b, 0x08, 1, 0x13, 0x14, 0x7c] ++ [])))
    exact .inside hfront hkey rfl hvalue hvalue' hmemory
  have hpadded : (Message.schema CreateRequest).Padded Schema.maxNesting bs padded := by
    have hfront : (Message.schema CreateRequest).IsRecords Schema.maxNesting [] :=
      ⟨_, _, .nil (Message.schema CreateRequest).empty⟩
    have hkey : SpellsKey [0x0a] 1 .lengthDelimited :=
      takes_readKey.whole (v := (1, .lengthDelimited)) (by rfl)
    have hvalue : Delimited [4, 0x2a, 2, 0x08, 5] [0x2a, 2, 0x08, 5] :=
      takes_takeDelimited.whole (by rfl)
    have hvalue' : Delimited [10, 0x2a, 8, 0x08, 5, 0x7b, 0x08, 1, 0x13, 0x14, 0x7c]
        [0x2a, 8, 0x08, 5, 0x7b, 0x08, 1, 0x13, 0x14, 0x7c] := takes_takeDelimited.whole (by rfl)
    show (Message.schema CreateRequest).Padded Schema.maxNesting
      ([] ++ ([0x0a] ++ ([4, 0x2a, 2, 0x08, 5] ++ [])))
      ([] ++ ([0x0a] ++ ([10, 0x2a, 8, 0x08, 5, 0x7b, 0x08, 1, 0x13, 0x14, 0x7c] ++ [])))
    exact .inside hfront hkey rfl hvalue hvalue' hlaptop
  have hrecord : (Message.schema CreateRequest).Undeclared Schema.maxNesting record := by
    have hkey : SpellsKey [0x10] 2 .varint := takes_readKey.whole (v := (2, .varint)) (by rfl)
    have hvalue : Unknown Schema.maxNesting 2 .varint [7] :=
      (skips_skip Schema.maxNesting 2 .varint).whole (by rfl)
    exact ⟨[0x10], [7], 2, .varint, rfl, hkey, by decide, hvalue⟩
  obtain ⟨hbehind, hinside⟩ := undeclared_fields_are_transparent hread
  obtain ⟨hsame, hrest⟩ := hinside padded hpadded
  exact ⟨hread, hpadded, hrecord, hsame, hrest [0x0b], hbehind record hrecord [0x0b]⟩

end

end LaptopCatalogue.Wire
