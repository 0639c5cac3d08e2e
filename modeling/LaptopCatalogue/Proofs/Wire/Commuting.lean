import LaptopCatalogue.Proofs.Wire.Padding

/-!
# Records in another order

A record sets the field with its number and looks at no other one. So two records of different
fields may change places, and the records of a message may come in any order in which those of one
field, or of one choice, stand as they stood. A sender may write fields in any order, and two
messages may be mixed.

* `Schema.Together`: whether records with two numbers set the same field.
* `Schema.CompleteRecord`: a record that can be merged, with its key and its value.
* `Schema.sets_swap`: the step; two records of different fields may change places.
* `Schema.Reordered`: the orders that are allowed.
* `Schema.Reordered.steps`: the run; a sequence in another such order has the same outcome.
* `independent_records_commute`: the statement about every message.
-/

namespace LaptopCatalogue.Wire

namespace Schema

/-! ## Fields that belong together -/

/-- The pairs of numbers of which a message holds a value for one at most. -/
def choices : Schema → List (Nat × Nat)
  | .done => []
  | .plain _ _ _ rest | .optional _ _ _ rest | .message _ _ _ rest | .repeated _ _ _ rest =>
    rest.choices
  | .choice _ left _ right _ rest => (left, right) :: rest.choices

/-- Whether records with these numbers set the same field: the numbers are the same, or both are
members of one choice. -/
def Together (schema : Schema) (number number' : Nat) : Prop :=
  number = number' ∨ ∃ choice ∈ schema.choices,
    (number = choice.1 ∨ number = choice.2) ∧ (number' = choice.1 ∨ number' = choice.2)

instance (schema : Schema) (number number' : Nat) : Decidable (schema.Together number number') :=
  inferInstanceAs (Decidable (_ ∨ _))

/-- The only choice of a laptop is the one between two weights. -/
example : (Message.schema Laptop).choices = [(10, 11)] := rfl

theorem Together.refl (schema : Schema) (number : Nat) : schema.Together number number :=
  .inl rfl

theorem Together.symm {schema : Schema} {number number' : Nat}
    (h : schema.Together number number') : schema.Together number' number := by
  rcases h with rfl | ⟨choice, hchoice, hmember, hmember'⟩
  · exact .inl rfl
  · exact .inr ⟨choice, hchoice, hmember', hmember⟩

/-- Where two numbers belong together, so do any two numbers out of these. -/
theorem Together.of_mem {schema : Schema} {number number' a b : Nat}
    (h : schema.Together number number') (ha : a = number ∨ a = number')
    (hb : b = number ∨ b = number') : schema.Together a b := by
  rcases ha with rfl | rfl
  · rcases hb with rfl | rfl
    · exact .refl schema b
    · exact h
  · rcases hb with rfl | rfl
    · exact h.symm
    · exact .refl schema b

/-! ## One record -/

/-- What a record makes of the first field of a message and the fields behind it: it changes the
first one if it has its number, and else the others. -/
def FirstOrRest {X R : Type} (p : Prop) [Decidable p] (first : X → X → Prop) (rest : R → R → Prop)
    (r r' : X × R) : Prop :=
  if p then first r.1 r'.1 ∧ r'.2 = r.2 else r'.1 = r.1 ∧ rest r.2 r'.2

/-- Two such changes may change places if they do not both change the first field, and if they may
do so among the fields behind it. -/
theorem FirstOrRest.swap {X R : Type} {p p' : Prop} [Decidable p] [Decidable p']
    {first first' : X → X → Prop} {rest rest' : R → R → Prop} (hapart : ¬(p ∧ p'))
    (hrest : ∀ {r r₁ r₂}, rest r r₁ → rest' r₁ r₂ → ∃ r', rest' r r' ∧ rest r' r₂)
    {r r₁ r₂ : X × R} (h : FirstOrRest p first rest r r₁) (h' : FirstOrRest p' first' rest' r₁ r₂) :
    ∃ r', FirstOrRest p' first' rest' r r' ∧ FirstOrRest p first rest r' r₂ := by
  unfold FirstOrRest at h h' ⊢
  by_cases hp : p
  · have hp' : ¬p' := fun hp' => hapart ⟨hp, hp'⟩
    simp only [hp, hp', if_true, if_false] at h h' ⊢
    refine ⟨(r.1, r₂.2), ⟨rfl, ?_⟩, ?_, rfl⟩
    · rw [← h.2]
      exact h'.2
    · rw [h'.1]
      exact h.1
  · by_cases hp' : p'
    · simp only [hp, hp', if_true, if_false] at h h' ⊢
      refine ⟨(r₂.1, r.2), ⟨?_, rfl⟩, rfl, ?_⟩
      · rw [← h.1]
        exact h'.1
      · rw [h'.2]
        exact h.2
    · simp only [hp, hp', if_false] at h h' ⊢
      obtain ⟨hfirst, hstep⟩ := h
      obtain ⟨hfirst', hstep'⟩ := h'
      obtain ⟨r', hswapped, hswapped'⟩ := hrest hstep hstep'
      exact ⟨(r.1, r'), ⟨rfl, hswapped⟩, hfirst'.trans hfirst, hswapped'⟩

section

variable {name : FieldName} {declared left right : Nat} {kind leftKind rightKind : Scalar}
  {inner rest : Schema} {budget number : Nat} {wireType : WireType} {bs : Bytes}

theorem sets_plain_iff {r r' : (plain name declared kind rest).Record} :
    (plain name declared kind rest).Sets budget number wireType r bs r' ↔
      FirstOrRest (number = declared)
        (fun _ v' : kind.Value => wireType = kind.wireType ∧ kind.Spells bs v')
        (fun r r' : rest.Record => rest.Sets budget number wireType r bs r') r r' := by
  obtain ⟨v, r⟩ := r
  obtain ⟨v', r'⟩ := r'
  simp only [Sets, FirstOrRest, and_assoc]

theorem sets_optional_iff {r r' : (optional name declared kind rest).Record} :
    (optional name declared kind rest).Sets budget number wireType r bs r' ↔
      FirstOrRest (number = declared)
        (fun _ v' : Option kind.Value =>
          wireType = kind.wireType ∧ ∃ w, kind.Spells bs w ∧ v' = some w)
        (fun r r' : rest.Record => rest.Sets budget number wireType r bs r') r r' := by
  obtain ⟨v, r⟩ := r
  obtain ⟨v', r'⟩ := r'
  simp only [Sets, FirstOrRest, and_assoc]

theorem sets_choice_iff {r r' : (choice name left leftKind right rightKind rest).Record} :
    (choice name left leftKind right rightKind rest).Sets budget number wireType r bs r' ↔
      FirstOrRest (number = left ∨ number = right)
        (fun _ v' : Option (leftKind.Value ⊕ rightKind.Value) =>
          if number = left then
            wireType = leftKind.wireType ∧ ∃ w, leftKind.Spells bs w ∧ v' = some (.inl w)
          else wireType = rightKind.wireType ∧ ∃ w, rightKind.Spells bs w ∧ v' = some (.inr w))
        (fun r r' : rest.Record => rest.Sets budget number wireType r bs r') r r' := by
  obtain ⟨v, r⟩ := r
  obtain ⟨v', r'⟩ := r'
  by_cases hleft : number = left
  · simp only [Sets, FirstOrRest, hleft, true_or, if_true, and_assoc]
  · by_cases hright : number = right
    · simp only [Sets, FirstOrRest, if_neg hleft, if_pos hright,
        if_pos (Or.inr hright : number = left ∨ number = right), and_assoc]
    · simp only [Sets, FirstOrRest, hleft, hright, or_self, if_false]

theorem sets_message_iff {r r' : (message name declared inner rest).Record} :
    (message name declared inner rest).Sets budget number wireType r bs r' ↔
      FirstOrRest (number = declared)
        (fun m m' : Option inner.Record =>
          ∃ w, Nested inner.Sets budget wireType (m.getD inner.empty) bs w ∧ m' = some w)
        (fun r r' : rest.Record => rest.Sets budget number wireType r bs r') r r' := by
  obtain ⟨m, r⟩ := r
  obtain ⟨m', r'⟩ := r'
  simp only [Sets, FirstOrRest]

theorem sets_repeated_iff {r r' : (repeated name declared inner rest).Record} :
    (repeated name declared inner rest).Sets budget number wireType r bs r' ↔
      FirstOrRest (number = declared)
        (fun ms ms' : List inner.Record =>
          ∃ w, Nested inner.Sets budget wireType inner.empty bs w ∧ ms' = ms ++ [w])
        (fun r r' : rest.Record => rest.Sets budget number wireType r bs r') r r' := by
  obtain ⟨ms, r⟩ := r
  obtain ⟨ms', r'⟩ := r'
  simp only [Sets, FirstOrRest]

end

/-- Two records of different fields may change places. -/
theorem sets_swap {schema : Schema} {budget number number' : Nat}
    (hapart : ¬schema.Together number number') {wireType wireType' : WireType} {bs bs' : Bytes}
    {r r₁ r₂ : schema.Record} (h : schema.Sets budget number wireType r bs r₁)
    (h' : schema.Sets budget number' wireType' r₁ bs' r₂) :
    ∃ r', schema.Sets budget number' wireType' r bs' r' ∧
      schema.Sets budget number wireType r' bs r₂ := by
  have hne : number ≠ number' := fun heq => hapart (.inl heq)
  have hone (declared : Nat) : ¬(number = declared ∧ number' = declared) :=
    fun hboth => hne (hboth.1.trans hboth.2.symm)
  induction schema with
  | done => exact ⟨r, h', h⟩
  | plain name declared kind rest ih =>
    rw [sets_plain_iff] at h h'
    obtain ⟨r', hfirst, hsecond⟩ := FirstOrRest.swap (hone declared) (ih hapart) h h'
    exact ⟨r', sets_plain_iff.mpr hfirst, sets_plain_iff.mpr hsecond⟩
  | optional name declared kind rest ih =>
    rw [sets_optional_iff] at h h'
    obtain ⟨r', hfirst, hsecond⟩ := FirstOrRest.swap (hone declared) (ih hapart) h h'
    exact ⟨r', sets_optional_iff.mpr hfirst, sets_optional_iff.mpr hsecond⟩
  | choice name left leftKind right rightKind rest ih =>
    rw [sets_choice_iff] at h h'
    have hmembers : ¬((number = left ∨ number = right) ∧ (number' = left ∨ number' = right)) :=
      fun hboth => hapart (.inr ⟨(left, right), List.mem_cons_self, hboth⟩)
    have hrest : ¬rest.Together number number' := by
      rintro (heq | ⟨choice, hchoice, hboth⟩)
      · exact hne heq
      · exact hapart (.inr ⟨choice, List.mem_cons_of_mem _ hchoice, hboth⟩)
    obtain ⟨r', hfirst, hsecond⟩ := FirstOrRest.swap hmembers (ih hrest) h h'
    exact ⟨r', sets_choice_iff.mpr hfirst, sets_choice_iff.mpr hsecond⟩
  | message name declared inner rest _ ih =>
    rw [sets_message_iff] at h h'
    obtain ⟨r', hfirst, hsecond⟩ := FirstOrRest.swap (hone declared) (ih hapart) h h'
    exact ⟨r', sets_message_iff.mpr hfirst, sets_message_iff.mpr hsecond⟩
  | repeated name declared inner rest _ ih =>
    rw [sets_repeated_iff] at h h'
    obtain ⟨r', hfirst, hsecond⟩ := FirstOrRest.swap (hone declared) (ih hapart) h h'
    exact ⟨r', sets_repeated_iff.mpr hfirst, sets_repeated_iff.mpr hsecond⟩

/-! ## Sequences of records -/

/-- A complete record: a key and a value behind it that can be merged into some message. -/
structure CompleteRecord (schema : Schema) where
  number : Nat
  wireType : WireType
  key : Bytes
  value : Bytes
  spelled : SpellsKey key number wireType
  merges : ∃ r r', schema.Sets maxNesting number wireType r value r'

variable {schema : Schema}

/-- What the readers of keys and values take as a whole is a complete record. -/
def CompleteRecord.ofReads (key value : Bytes) {number : Nat} {wireType : WireType}
    {r : schema.Record} (hkey : readKey key = .ok ((number, wireType), []))
    (hvalue : schema.mergeField maxNesting number wireType schema.empty value = .ok (r, [])) :
    schema.CompleteRecord where
  number := number
  wireType := wireType
  key := key
  value := value
  spelled := takes_readKey.whole (v := (number, wireType)) hkey
  merges := ⟨schema.empty, r, (schema.takes_mergeField maxNesting number wireType _).whole hvalue⟩

def CompleteRecord.bytes (record : schema.CompleteRecord) : Bytes :=
  record.key ++ record.value

def bytesOf (records : List schema.CompleteRecord) : Bytes :=
  (records.map CompleteRecord.bytes).flatten

/-- What a record makes of a message. -/
def CompleteRecord.Step (record : schema.CompleteRecord) (r r' : schema.Record) : Prop :=
  schema.Sets maxNesting record.number record.wireType r record.value r'

/-- What a sequence of records makes of a message. -/
inductive Steps : List schema.CompleteRecord → schema.Record → schema.Record → Prop where
  | nil (r : schema.Record) : Steps [] r r
  | cons {record : schema.CompleteRecord} {records : List schema.CompleteRecord}
      {r r₁ r₂ : schema.Record} (hstep : record.Step r r₁) (hrest : Steps records r₁ r₂) :
      Steps (record :: records) r r₂

/-- Complete records can be merged into every message. -/
theorem exists_steps (records : List schema.CompleteRecord) (r : schema.Record) :
    ∃ r', Steps records r r' := by
  induction records generalizing r with
  | nil => exact ⟨r, .nil r⟩
  | cons record records ih =>
    obtain ⟨_, _, hmerges⟩ := record.merges
    obtain ⟨r₁, hstep⟩ := sets_from_any hmerges r
    obtain ⟨r₂, hrest⟩ := ih r₁
    exact ⟨r₂, .cons hstep hrest⟩

/-- A sequence of complete records is one of the grammar. -/
theorem Steps.records {records : List schema.CompleteRecord} {r r' : schema.Record}
    (h : Steps records r r') : Records (schema.Sets maxNesting) r (bytesOf records) r' := by
  induction h with
  | nil r => exact .nil r
  | @cons record records r r₁ r₂ hstep _ ih =>
    have hrecords := Records.cons record.spelled hstep ih
    rw [← List.append_assoc] at hrecords
    exact hrecords

theorem Steps.merge {records : List schema.CompleteRecord} {r r' : schema.Record}
    (h : Steps records r r') : schema.merge r (bytesOf records) = .ok r' :=
  (schema.merge_eq_ok_iff r r' _).mpr h.records

/-- A sequence of records of the grammar is one of complete records. -/
theorem exists_bytesOf_eq {r r' : schema.Record} {bs : Bytes}
    (h : Records (schema.Sets maxNesting) r bs r') :
    ∃ records : List schema.CompleteRecord, bytesOf records = bs := by
  induction h with
  | nil _ => exact ⟨[], rfl⟩
  | @cons number wireType key value rest m m₁ m₂ hkey hvalue _ ih =>
    obtain ⟨records, rfl⟩ := ih
    exact ⟨⟨number, wireType, key, value, hkey, m, m₁, hvalue⟩ :: records,
      List.append_assoc key value _⟩

/-- A record may be read before records of other fields that stand in front of it. -/
theorem Steps.to_front {record : schema.CompleteRecord}
    {front back : List schema.CompleteRecord} {r r' : schema.Record}
    (hapart : ∀ other ∈ front, ¬schema.Together other.number record.number)
    (h : Steps (front ++ record :: back) r r') : Steps (record :: (front ++ back)) r r' := by
  induction front generalizing r with
  | nil => exact h
  | cons first front ih =>
    cases h with
    | cons hfirst hrest =>
      have hfront := ih (fun other hother => hapart other (List.mem_cons_of_mem _ hother)) hrest
      cases hfront with
      | cons hrecord hbehind =>
        obtain ⟨r', hstep, hstep'⟩ := sets_swap (hapart first List.mem_cons_self) hfirst hrecord
        exact .cons hstep (.cons hstep' hbehind)

/-- The records of the second sequence are those of the first one in an order in which records of
the same field, or of the same choice, stand as they stood. -/
def Reordered (records records' : List schema.CompleteRecord) : Prop :=
  ∀ number number', schema.Together number number' →
    records.filter (fun record => record.number = number ∨ record.number = number') =
      records'.filter (fun record => record.number = number ∨ record.number = number')

theorem Reordered.eq_nil {records : List schema.CompleteRecord} (h : Reordered [] records) :
    records = [] := by
  cases records with
  | nil => rfl
  | cons record records =>
    have hfield := h record.number record.number (.refl schema record.number)
    simp at hfield

/-- The first record of a sequence stands behind records of other fields only, and the rest is
reordered. -/
theorem Reordered.exists_front {record : schema.CompleteRecord}
    {records records' : List schema.CompleteRecord} (h : Reordered (record :: records) records') :
    ∃ front back, records' = front ++ record :: back ∧
      (∀ other ∈ front, ¬schema.Together other.number record.number) ∧
      Reordered records (front ++ back) := by
  have hfield := h record.number record.number (.refl schema record.number)
  rw [List.filter_cons_of_pos (by simp)] at hfield
  obtain ⟨front, back, rfl, hfront, -, -⟩ := List.filter_eq_cons_iff.mp hfield.symm
  have hapart : ∀ other ∈ front, ¬schema.Together other.number record.number := by
    intro other hother htogether
    -- among the records of both numbers this one comes first, so none of them stands in front
    have hboth := h other.number record.number htogether
    rw [List.filter_cons_of_pos (by simp), List.filter_append] at hboth
    have hmem : other ∈ front.filter
        fun record' => record'.number = other.number ∨ record'.number = record.number :=
      List.mem_filter.mpr ⟨hother, by simp⟩
    rcases List.cons_eq_append_iff.mp hboth with ⟨hnone, -⟩ | ⟨others, hothers, -⟩
    · rw [hnone] at hmem
      cases hmem
    · have hrecord : record ∈ front.filter
          fun record' => record'.number = other.number ∨ record'.number = record.number := by
        rw [hothers]
        exact List.mem_cons_self
      have hmember := (List.mem_filter.mp hrecord).1
      simpa using hfront record hmember
  refine ⟨front, back, rfl, hapart, ?_⟩
  intro number number' htogether
  have hboth := h number number' htogether
  rw [List.filter_append] at hboth ⊢
  by_cases hnumber : record.number = number ∨ record.number = number'
  · -- the record is the first of its field in both sequences
    have hnone : front.filter (fun record => record.number = number ∨ record.number = number') =
        [] := by
      rw [List.filter_eq_nil_iff]
      intro other hother hother'
      exact hapart other hother (htogether.of_mem (by simpa using hother') hnumber)
    rw [List.filter_cons_of_pos (by simpa using hnumber),
      List.filter_cons_of_pos (by simpa using hnumber), hnone, List.nil_append] at hboth
    rw [hnone, List.nil_append]
    exact (List.cons.inj hboth).2
  · rw [List.filter_cons_of_neg (by simpa using hnumber),
      List.filter_cons_of_neg (by simpa using hnumber)] at hboth
    exact hboth

/-- Records in another order make the same of a message. -/
theorem Reordered.steps {records records' : List schema.CompleteRecord}
    (h : Reordered records records') {r r' : schema.Record} (hsteps : Steps records' r r') :
    Steps records r r' := by
  induction records generalizing records' r with
  | nil =>
    obtain rfl := h.eq_nil
    exact hsteps
  | cons record records ih =>
    obtain ⟨front, back, rfl, hapart, hrest⟩ := h.exists_front
    cases hsteps.to_front hapart with
    | cons hrecord hbehind => exact .cons hrecord (ih hrest hbehind)

/-- Two neighbours of different fields may stand in either order. -/
theorem Reordered.swap {a b : schema.CompleteRecord} (hapart : ¬schema.Together a.number b.number)
    (front back : List schema.CompleteRecord) :
    Reordered (front ++ a :: b :: back) (front ++ b :: a :: back) := by
  intro number number' htogether
  rw [List.filter_append, List.filter_append]
  by_cases ha : a.number = number ∨ a.number = number'
  · have hb : ¬(b.number = number ∨ b.number = number') := fun hb =>
      hapart (htogether.of_mem ha hb)
    simp [ha, hb]
  · by_cases hb : b.number = number ∨ b.number = number' <;> simp [ha, hb]

theorem Reordered.trans {records records' records'' : List schema.CompleteRecord}
    (h : Reordered records records') (h' : Reordered records' records'') :
    Reordered records records'' := by
  intro number number' htogether
  rw [h number number' htogether, h' number number' htogether]

/-- Records in another order are merged into the same message. -/
theorem Reordered.exists_merge {records records' : List schema.CompleteRecord}
    (h : Reordered records records') (r : schema.Record) :
    ∃ r', schema.merge r (bytesOf records) = .ok r' ∧
      schema.merge r (bytesOf records') = .ok r' := by
  obtain ⟨r', hsteps⟩ := exists_steps records' r
  exact ⟨r', (h.steps hsteps).merge, hsteps.merge⟩

end Schema

section

variable {α : Type} [Message α]

/-- Merging does not depend on the order of records of different fields. Two complete records whose
numbers differ, and are not members of one choice, make the same of every message in either order.
So do any records in two orders in which those with one number, and those of one choice, stand in
the same order. And whatever can be merged is a sequence of complete records, which in every such
order are merged into the same message. To decode is to merge into the empty message. -/
theorem independent_records_commute (m : α) :
    (∀ a b : (Message.schema α).CompleteRecord,
      ¬(Message.schema α).Together a.number b.number →
      ∃ m', merge m (a.bytes ++ b.bytes) = .ok m' ∧ merge m (b.bytes ++ a.bytes) = .ok m') ∧
    (∀ records records' : List (Message.schema α).CompleteRecord,
      Schema.Reordered records records' →
      ∃ m', merge m (Schema.bytesOf records) = .ok m' ∧
        merge m (Schema.bytesOf records') = .ok m') ∧
    ∀ bs, ∀ m' : α, merge m bs = .ok m' →
      ∃ records : List (Message.schema α).CompleteRecord, Schema.bytesOf records = bs ∧
        ∀ records', Schema.Reordered records records' →
          merge m (Schema.bytesOf records') = .ok m' := by
  have hreordered (records records' : List (Message.schema α).CompleteRecord)
      (h : Schema.Reordered records records') :
      ∃ m', merge m (Schema.bytesOf records) = .ok m' ∧
        merge m (Schema.bytesOf records') = .ok m' := by
    obtain ⟨r', hmerge, hmerge'⟩ := h.exists_merge (Message.toRecord m)
    exact ⟨Message.ofRecord r', by rw [merge, hmerge]; rfl, by rw [merge, hmerge']; rfl⟩
  refine ⟨?_, hreordered, ?_⟩
  · intro a b hapart
    have hpair := hreordered [a, b] [b, a] (.swap hapart [] [])
    simpa [Schema.bytesOf] using hpair
  · intro bs m' hmerge
    obtain ⟨records, rfl⟩ := Schema.exists_bytesOf_eq ((merge_eq_ok_iff m m' bs).mp hmerge)
    refine ⟨records, rfl, ?_⟩
    intro records' h
    obtain ⟨m'', hsame, hmerge'⟩ := hreordered records records' h
    rw [hmerge, Except.ok.injEq] at hsame
    rw [hsame]
    exact hmerge'

/-- A processor in two parts and a weight in two units: the parts and the units keep their order,
and nothing else does. -/
theorem independent_records_commute_laptop :
    ∃ m : Laptop,
      merge emptyMessage ([0x51, 0, 0, 0, 0, 0, 0, 0xf0, 0x3f] ++ ([0x22, 2, 0x18, 4] ++
        ([0x22, 2, 0x20, 8] ++ [0x59, 0, 0, 0, 0, 0, 0, 0, 0x40]))) = .ok m ∧
      merge emptyMessage ([0x22, 2, 0x18, 4] ++ ([0x51, 0, 0, 0, 0, 0, 0, 0xf0, 0x3f] ++
        ([0x59, 0, 0, 0, 0, 0, 0, 0, 0x40] ++ [0x22, 2, 0x20, 8]))) = .ok m := by
  let cores : (Message.schema Laptop).CompleteRecord :=
    .ofReads [0x22] [2, 0x18, 4] (by rfl) (by rfl)
  let threads : (Message.schema Laptop).CompleteRecord :=
    .ofReads [0x22] [2, 0x20, 8] (by rfl) (by rfl)
  let kilograms : (Message.schema Laptop).CompleteRecord :=
    .ofReads [0x51] [0, 0, 0, 0, 0, 0, 0xf0, 0x3f] (by rfl) (by rfl)
  let pounds : (Message.schema Laptop).CompleteRecord :=
    .ofReads [0x59] [0, 0, 0, 0, 0, 0, 0, 0x40] (by rfl) (by rfl)
  have hfirst : ¬(Message.schema Laptop).Together 10 4 := by decide
  have hlast : ¬(Message.schema Laptop).Together 4 11 := by decide
  have hfront :
      Schema.Reordered [kilograms, cores, threads, pounds] [cores, kilograms, threads, pounds] :=
    .swap hfirst [] [threads, pounds]
  have hback :
      Schema.Reordered [cores, kilograms, threads, pounds] [cores, kilograms, pounds, threads] :=
    .swap hlast [cores, kilograms] []
  have hreordered := hfront.trans hback
  obtain ⟨-, hmerges, -⟩ := independent_records_commute (emptyMessage : Laptop)
  obtain ⟨m, hmerge, hmerge'⟩ := hmerges _ _ hreordered
  exact ⟨m, hmerge, hmerge'⟩

end

end LaptopCatalogue.Wire
