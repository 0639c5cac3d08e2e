import LaptopCatalogue.Proofs.Wire.Padding
import LaptopCatalogue.Proofs.Wire.Sizes

/-!
# Messages inside of messages

A field that holds a message does with the bytes of its length what reading these bytes alone would
do, one level deeper and on top of the message that is there. What this gives is put into the field,
and if it fails, the failure is the same, seen from outside the field. So a failure names every
field on the way to its cause, the innermost one first.

* `Schema.NestedField`: a field that holds messages, by its place in the schema.
* `Schema.NestedField.held`, `Schema.NestedField.put`: the message that a value is merged into, and
  where the outcome goes.
* `Schema.NestedField.exists_of_nested?`: all numbers at which messages are declared are covered.
* `Schema.NestedField.mergeField_eq`: what a record of such a field does.
* `mergeWithin_nested`: the step from one level to the next.
* `nested_decoding_composes`: the statement about every message and every field that holds messages.
-/

namespace LaptopCatalogue.Wire

namespace Schema

/-! ## Fields that hold messages -/

/-- What is read is put into something. -/
theorem bind_put {α β : Type} (x : Except Failure (α × Bytes)) (f : α → β) :
    (x >>= fun (a, bs) => .ok (f a, bs)) = x.map fun (a, bs) => (f a, bs) := by
  cases x <;> rfl

/-- What is read and put into something is put into something else. -/
theorem bind_put_of_eq_map {α β γ : Type} {x : Except Failure (α × Bytes)}
    {y : Except Failure (β × Bytes)} {f : α → β} (h : y = x.map fun (a, bs) => (f a, bs))
    (g : β → γ) :
    (y >>= fun (b, bs) => .ok (g b, bs)) = x.map fun (a, bs) => (g (f a), bs) := by
  rw [h]
  cases x <;> rfl

/-- A field of a schema that holds messages of another one, by its place. -/
inductive NestedField : Schema → Schema → Type where
  | message (name : FieldName) (number : Nat) (inner rest : Schema) :
    NestedField (.message name number inner rest) inner
  | repeated (name : FieldName) (number : Nat) (inner rest : Schema) :
    NestedField (.repeated name number inner rest) inner
  | afterPlain {name : FieldName} {number : Nat} {kind : Scalar} {inner rest : Schema}
      (field : NestedField rest inner) : NestedField (.plain name number kind rest) inner
  | afterOptional {name : FieldName} {number : Nat} {kind : Scalar} {inner rest : Schema}
      (field : NestedField rest inner) : NestedField (.optional name number kind rest) inner
  | afterChoice {name : FieldName} {left right : Nat} {leftKind rightKind : Scalar}
      {inner rest : Schema} (field : NestedField rest inner) :
    NestedField (.choice name left leftKind right rightKind rest) inner
  | afterMessage {name : FieldName} {number : Nat} {other inner rest : Schema}
      (field : NestedField rest inner) : NestedField (.message name number other rest) inner
  | afterRepeated {name : FieldName} {number : Nat} {other inner rest : Schema}
      (field : NestedField rest inner) : NestedField (.repeated name number other rest) inner

namespace NestedField

def number : {schema inner : Schema} → schema.NestedField inner → Nat
  | _, _, .message _ number _ _ | _, _, .repeated _ number _ _ => number
  | _, _, .afterPlain field | _, _, .afterOptional field | _, _, .afterChoice field
  | _, _, .afterMessage field | _, _, .afterRepeated field => field.number

/-- The name of the field, with that of its message. -/
def name : {schema inner : Schema} → schema.NestedField inner → FieldName
  | _, _, .message name _ _ _ | _, _, .repeated name _ _ _ => name
  | _, _, .afterPlain field | _, _, .afterOptional field | _, _, .afterChoice field
  | _, _, .afterMessage field | _, _, .afterRepeated field => field.name

/-- The message that a value of the field is merged into: the one that is there, or an empty one if
there is none or the field is a list. -/
def held : {schema inner : Schema} → schema.NestedField inner → schema.Record → inner.Record
  | _, _, .message _ _ inner _, (m, _) => m.getD inner.empty
  | _, _, .repeated _ _ inner _, _ => inner.empty
  | _, _, .afterPlain field, (_, r) => field.held r
  | _, _, .afterOptional field, (_, r) => field.held r
  | _, _, .afterChoice field, (_, r) => field.held r
  | _, _, .afterMessage field, (_, r) => field.held r
  | _, _, .afterRepeated field, (_, r) => field.held r

/-- The message in which the field has a new value, which a list has as its last member, and every
other field the value that it had. -/
def put : {schema inner : Schema} → schema.NestedField inner → schema.Record → inner.Record →
    schema.Record
  | _, _, .message _ _ _ _, (_, r), m => (some m, r)
  | _, _, .repeated _ _ _ _, (ms, r), m => (ms ++ [m], r)
  | _, _, .afterPlain field, (v, r), m => (v, field.put r m)
  | _, _, .afterOptional field, (v, r), m => (v, field.put r m)
  | _, _, .afterChoice field, (v, r), m => (v, field.put r m)
  | _, _, .afterMessage field, (v, r), m => (v, field.put r m)
  | _, _, .afterRepeated field, (v, r), m => (v, field.put r m)

theorem number_mem_numbers {schema inner : Schema} (field : schema.NestedField inner) :
    field.number ∈ schema.numbers := by
  induction field with
  | message | repeated => exact List.mem_cons_self
  | afterPlain field ih | afterOptional field ih | afterMessage field ih | afterRepeated field ih =>
    exact List.mem_cons_of_mem _ ih
  | afterChoice field ih => exact List.mem_cons_of_mem _ (List.mem_cons_of_mem _ ih)

/-- Every number at which messages are declared is that of such a field. -/
theorem exists_of_nested? {schema inner : Schema} {number : Nat}
    (h : schema.nested? number = some inner) :
    ∃ field : schema.NestedField inner, field.number = number := by
  induction schema with
  | done => cases h
  | plain name declared kind rest ih =>
    by_cases hnumber : number = declared
    · simp [nested?, hnumber] at h
    · obtain ⟨field, hfield⟩ := ih (by simpa [nested?, hnumber] using h)
      exact ⟨.afterPlain field, hfield⟩
  | optional name declared kind rest ih =>
    by_cases hnumber : number = declared
    · simp [nested?, hnumber] at h
    · obtain ⟨field, hfield⟩ := ih (by simpa [nested?, hnumber] using h)
      exact ⟨.afterOptional field, hfield⟩
  | choice name left leftKind right rightKind rest ih =>
    by_cases hnumber : number = left ∨ number = right
    · simp [nested?, hnumber] at h
    · obtain ⟨field, hfield⟩ := ih (by simpa [nested?, hnumber] using h)
      exact ⟨.afterChoice field, hfield⟩
  | message name declared other rest _ ih =>
    by_cases hnumber : number = declared
    · obtain rfl : other = inner := by simpa [nested?, hnumber] using h
      exact ⟨.message name declared other rest, hnumber.symm⟩
    · obtain ⟨field, hfield⟩ := ih (by simpa [nested?, hnumber] using h)
      exact ⟨.afterMessage field, hfield⟩
  | repeated name declared other rest _ ih =>
    by_cases hnumber : number = declared
    · obtain rfl : other = inner := by simpa [nested?, hnumber] using h
      exact ⟨.repeated name declared other rest, hnumber.symm⟩
    · obtain ⟨field, hfield⟩ := ih (by simpa [nested?, hnumber] using h)
      exact ⟨.afterRepeated field, hfield⟩

/-- What a record of the field does: it reads a nested message into the one that is held, marks a
failure with its name, and puts the outcome in. -/
theorem mergeField_eq {schema inner : Schema} (field : schema.NestedField inner)
    (hdistinct : schema.Distinct) (budget : Nat) (wireType : WireType) (r : schema.Record)
    (bs : Bytes) :
    schema.mergeField budget field.number wireType r bs =
      (inField field.name (readNested inner.mergeField budget wireType (field.held r) bs)).map
        fun (m, bs) => (field.put r m, bs) := by
  induction field generalizing budget wireType bs with
  | message name number inner rest =>
    obtain ⟨m, r⟩ := r
    rw [mergeField, mergeFieldBy, NestedField.number, if_pos rfl]
    exact bind_put _ fun m => (some m, r)
  | repeated name number inner rest =>
    obtain ⟨ms, r⟩ := r
    rw [mergeField, mergeFieldBy, NestedField.number, if_pos rfl]
    exact bind_put _ fun m => (ms ++ [m], r)
  -- a field further behind has another number than the first one, which stays as it is
  | afterPlain field ih | afterOptional field ih =>
    obtain ⟨v, r⟩ := r
    obtain ⟨-, hnotMem, hrest⟩ := hdistinct
    have hne := ne_of_mem_of_not_mem field.number_mem_numbers hnotMem
    rw [mergeField, mergeFieldBy, NestedField.number, if_neg hne]
    exact bind_put_of_eq_map (ih hrest budget wireType r bs) fun r => (v, r)
  | afterChoice field ih =>
    obtain ⟨v, r⟩ := r
    obtain ⟨-, -, -, hnotMemLeft, hnotMemRight, hrest⟩ := hdistinct
    have hneLeft := ne_of_mem_of_not_mem field.number_mem_numbers hnotMemLeft
    have hneRight := ne_of_mem_of_not_mem field.number_mem_numbers hnotMemRight
    rw [mergeField, mergeFieldBy, NestedField.number, if_neg hneLeft, if_neg hneRight]
    exact bind_put_of_eq_map (ih hrest budget wireType r bs) fun r => (v, r)
  | afterMessage field ih | afterRepeated field ih =>
    obtain ⟨v, r⟩ := r
    obtain ⟨-, hnotMem, -, hrest⟩ := hdistinct
    have hne := ne_of_mem_of_not_mem field.number_mem_numbers hnotMem
    rw [mergeField, mergeFieldBy, NestedField.number, if_neg hne]
    exact bind_put_of_eq_map (ih hrest budget wireType r bs) fun r => (v, r)

end NestedField

/-! ## One level and the next -/

/-- A run over the whole input leaves nothing of it. -/
theorem readRecords_eq_map_mergeWithin (schema : Schema) (budget : Nat) (r : schema.Record)
    (bs : Bytes) :
    readRecords (schema.mergeField budget) 0 bs.length r bs =
      (schema.mergeWithin budget r bs).map fun r => (r, []) := by
  unfold mergeWithin
  cases hread : readRecords (schema.mergeField budget) 0 bs.length r bs with
  | error failure => rfl
  | ok result =>
    obtain ⟨r', rest⟩ := result
    obtain ⟨rfl, -⟩ := (readRecords_all_iff (schema.takes_mergeField budget)).mp hread
    rfl

/-- A single record is read by the reader of its field. -/
theorem mergeWithin_record {schema : Schema} {budget number : Nat} {wireType : WireType}
    {key value : Bytes} (hkey : SpellsKey key number wireType) {r : schema.Record}
    {outcome : Except Failure schema.Record}
    (h : schema.mergeField budget number wireType r value = outcome.map fun r => (r, [])) :
    schema.mergeWithin budget r (key ++ value) = outcome := by
  have hpos : 0 < (key ++ value).length := by
    have hkeyPos := hkey.length_pos
    simp only [List.length_append]
    omega
  -- the key is there, so the run has fuel for one record
  obtain ⟨fuel, hfuel⟩ := Nat.exists_eq_succ_of_ne_zero (Nat.ne_of_gt hpos)
  have hread := takes_readKey.complete (v := (number, wireType)) hkey value
  unfold mergeWithin
  rw [hfuel, readRecords, if_neg (by omega), hread]
  simp only [bind, Except.bind, h]
  cases outcome with
  | error failure => rfl
  | ok r' => cases fuel <;> rfl

/-- A nested message at the end of the input is what its own bytes are merged to, one level
deeper. -/
theorem readNested_whole (inner : Schema) (budget : Nat) (m : inner.Record) {length p : Bytes}
    (hlength : Varint.Spells length (UInt64.ofNat p.length)) (hfits : p.length < UInt64.size) :
    readNested inner.mergeField (budget + 1) .lengthDelimited m (length ++ p) =
      (inner.mergeWithin budget m p).map fun m => (m, []) := by
  have hread := takes_readVarint.complete hlength p
  have hcount : (UInt64.ofNat p.length).toNat = p.length := UInt64.toNat_ofNat_of_lt' hfits
  rw [readNested, expect, if_pos rfl, if_neg (Nat.succ_ne_zero budget), hread]
  -- nothing stands behind the payload, so its records may use up the input, and must
  simp only [bind, Except.bind, hcount, Nat.lt_irrefl, if_false, Nat.sub_self, Nat.add_sub_cancel,
    readRecords_eq_map_mergeWithin]
  cases inner.mergeWithin budget m p with
  | error failure => rfl
  | ok m' => rfl

namespace NestedField

variable {schema inner : Schema} (field : schema.NestedField inner) {key length p : Bytes}

/-- Behind other records, a record of the field has the outcome of its own bytes one level deeper,
marked with the name of the field and put into it. -/
theorem mergeWithin_append (hdistinct : schema.Distinct)
    (hkey : SpellsKey key field.number .lengthDelimited)
    (hlength : Varint.Spells length (UInt64.ofNat p.length)) (hfits : p.length < UInt64.size)
    {budget : Nat} {r r' : schema.Record} {a : Bytes}
    (h : schema.mergeWithin (budget + 1) r a = .ok r') :
    schema.mergeWithin (budget + 1) r (a ++ (key ++ (length ++ p))) =
      inField field.name ((inner.mergeWithin budget (field.held r') p).map (field.put r')) := by
  rw [Schema.mergeWithin_append h]
  apply mergeWithin_record hkey
  rw [field.mergeField_eq hdistinct, readNested_whole inner budget _ hlength hfits]
  cases inner.mergeWithin budget (field.held r') p with
  | error failure => rfl
  | ok m => rfl

/-- With no level left, a record of the field is refused, whatever its bytes are. -/
theorem mergeWithin_zero_append (hdistinct : schema.Distinct)
    (hkey : SpellsKey key field.number .lengthDelimited) (value : Bytes) {r r' : schema.Record}
    {a : Bytes} (h : schema.mergeWithin 0 r a = .ok r') :
    schema.mergeWithin 0 r (a ++ (key ++ value)) = .error ⟨[field.name], .recursionLimit⟩ := by
  rw [Schema.mergeWithin_append h]
  apply mergeWithin_record hkey
  rw [field.mergeField_eq hdistinct]
  rfl

end NestedField

end Schema

/-! ## Messages -/

/-- The text of a failure that is seen from outside a field names the fields of its path, then that
field, and then the cause. -/
theorem Failure.message_outside (path : List FieldName) (name : FieldName) (cause : Cause) :
    Failure.message ⟨path ++ [name], cause⟩ =
      "failed to decode Protobuf message: " ++
        (String.join (path.map fun name => name.message ++ "." ++ name.field ++ ": ") ++
          (name.message ++ "." ++ name.field ++ ": ")) ++ cause.message := by
  unfold Failure.message
  simp only [toString, List.map_append, List.map_cons, List.map_nil, String.join_append,
    String.join_cons, String.join_nil, String.append_empty]

section

variable {α β : Type} [Message α] [Message β]

/-- Reads bytes on top of a message, with so many levels of nesting left. -/
def mergeWithin (budget : Nat) (m : α) (bs : Bytes) : Except Failure α :=
  ((Message.schema α).mergeWithin budget (Message.toRecord m) bs).map Message.ofRecord

theorem merge_eq_mergeWithin (m : α) (bs : Bytes) :
    merge m bs = mergeWithin Schema.maxNesting m bs := rfl

namespace Schema.NestedField

/-- The message that a value of the field is merged into. -/
def current (field : (Message.schema α).NestedField (Message.schema β)) (m : α) : β :=
  Message.ofRecord (field.held (Message.toRecord m))

/-- The message in which the field has a new value. -/
def update (field : (Message.schema α).NestedField (Message.schema β)) (m : α) (u : β) : α :=
  Message.ofRecord (field.put (Message.toRecord m) (Message.toRecord u))

end Schema.NestedField

/-- The step from one level to the next: a record of the field has the outcome of its own bytes. -/
theorem mergeWithin_nested (field : (Message.schema α).NestedField (Message.schema β))
    {key length p a : Bytes} (hkey : SpellsKey key field.number .lengthDelimited)
    (hlength : Varint.Spells length (UInt64.ofNat p.length)) (hfits : p.length < UInt64.size)
    {budget : Nat} {m m₁ : α} (h : mergeWithin (budget + 1) m a = .ok m₁) :
    mergeWithin (budget + 1) m (a ++ (key ++ (length ++ p))) =
      inField field.name ((mergeWithin budget (field.current m₁) p).map (field.update m₁)) := by
  obtain ⟨r, hmerge, hrecord⟩ := map_eq_ok_iff.mp h
  obtain rfl := (ofRecord_eq_iff r m₁).mp hrecord
  have hdistinct := (Message.sound (α := α)).1
  unfold mergeWithin Schema.NestedField.current
  rw [field.mergeWithin_append hdistinct hkey hlength hfits hmerge, Message.toRecord_ofRecord]
  cases (Message.schema β).mergeWithin budget (field.held (Message.toRecord m₁)) p with
  | error failure => rfl
  | ok u =>
    have hput : field.update m₁ (Message.ofRecord u) =
        Message.ofRecord (field.put (Message.toRecord m₁) u) := by
      rw [Schema.NestedField.update, Message.toRecord_ofRecord]
    exact congrArg Except.ok hput.symm

/-- With no level left there is no step. -/
theorem mergeWithin_zero_nested (field : (Message.schema α).NestedField (Message.schema β))
    {key a : Bytes} (hkey : SpellsKey key field.number .lengthDelimited) (value : Bytes) {m m₁ : α}
    (h : mergeWithin 0 m a = .ok m₁) :
    mergeWithin 0 m (a ++ (key ++ value)) = .error ⟨[field.name], .recursionLimit⟩ := by
  obtain ⟨r, hmerge, -⟩ := map_eq_ok_iff.mp h
  have hdistinct := (Message.sound (α := α)).1
  unfold mergeWithin
  rw [field.mergeWithin_zero_append hdistinct hkey value hmerge]
  rfl

def memoryOfCard : (Message.schema Gpu).NestedField (Message.schema Memory) :=
  .afterPlain <| .afterPlain <| .afterPlain <| .afterPlain <| .message _ _ _ _

def cardsOfLaptop : (Message.schema Laptop).NestedField (Message.schema Gpu) :=
  .afterPlain <| .afterPlain <| .afterPlain <| .afterMessage <| .afterMessage <| .repeated _ _ _ _

/-- The memory of a card is replaced, and a laptop gets a card more; nothing else changes. -/
example (card : Gpu) (memory : Memory) (laptop : Laptop) :
    memoryOfCard.update card memory = { card with memory := some memory } ∧
      cardsOfLaptop.update laptop card = { laptop with gpus := laptop.gpus ++ [card] } := by
  refine ⟨rfl, ?_⟩
  have hput : Message.toRecord { laptop with gpus := laptop.gpus ++ [card] } =
      cardsOfLaptop.put (Message.toRecord laptop) (Message.toRecord card) := by
    show (_, _, _, _, _, (laptop.gpus ++ [card]).map Message.toRecord, _) = _
    rw [List.map_append]
    rfl
  rw [Schema.NestedField.update, ← hput, Message.ofRecord_toRecord]

/-- Reading a nested message is reading its bytes. Where the bytes in front are decoded to a
message, a record of a field that holds messages can be read behind them exactly if its bytes can be
merged, with one level of nesting less, into the message that the field holds, or into an empty one;
and the message then changes in that field only. If the bytes inside fail, the whole fails with the
same cause, and the field stands at the outer end of the path, so that the text names the innermost
field first. The same holds with any number of levels left, and with none left the record is
refused. -/
theorem nested_decoding_composes (field : (Message.schema α).NestedField (Message.schema β))
    {key length p : Bytes} (hkey : SpellsKey key field.number .lengthDelimited)
    (hlength : Varint.Spells length (UInt64.ofNat p.length)) (hfits : p.length < UInt64.size) :
    (∀ a, ∀ m₀ : α, decode a = .ok m₀ →
      (∀ m, decode (a ++ (key ++ (length ++ p))) = .ok m ↔
        ∃ u, mergeWithin (Schema.maxNesting - 1) (field.current m₀) p = .ok u ∧
          m = field.update m₀ u) ∧
      ∀ path cause,
        mergeWithin (Schema.maxNesting - 1) (field.current m₀) p = .error ⟨path, cause⟩ →
          (decode (a ++ (key ++ (length ++ p))) : Except Failure α) =
            .error ⟨path ++ [field.name], cause⟩ ∧
          Failure.message ⟨path ++ [field.name], cause⟩ =
            "failed to decode Protobuf message: " ++
              (String.join (path.map fun name => name.message ++ "." ++ name.field ++ ": ") ++
                (field.name.message ++ "." ++ field.name.field ++ ": ")) ++ cause.message) ∧
    ∀ a, ∀ m m₁ : α,
      (∀ budget, mergeWithin (budget + 1) m a = .ok m₁ →
        mergeWithin (budget + 1) m (a ++ (key ++ (length ++ p))) =
          inField field.name ((mergeWithin budget (field.current m₁) p).map (field.update m₁))) ∧
      (mergeWithin 0 m a = .ok m₁ →
        mergeWithin 0 m (a ++ (key ++ (length ++ p))) =
          .error ⟨[field.name], .recursionLimit⟩) := by
  refine ⟨?_, ?_⟩
  · intro a m₀ ha
    have hstep : decode (a ++ (key ++ (length ++ p))) = inField field.name
        ((mergeWithin (Schema.maxNesting - 1) (field.current m₀) p).map (field.update m₀)) := by
      rw [decode, merge_eq_mergeWithin] at ha ⊢
      exact mergeWithin_nested field hkey hlength hfits ha
    constructor
    · intro m
      rw [hstep, inField_eq_ok_iff, map_eq_ok_iff]
      simp only [eq_comm]
    · intro path cause hinner
      rw [hstep, hinner]
      exact ⟨rfl, Failure.message_outside path field.name cause⟩
  · intro a m m₁
    constructor
    · intro budget h
      exact mergeWithin_nested field hkey hlength hfits h
    · intro h
      exact mergeWithin_zero_nested field hkey (length ++ p) h

/-- A card whose memory gets a unit behind its value, and a laptop with a card whose memory cannot
be read: three fields are named, from the inside. -/
theorem nested_decoding_composes_cards :
    let card (memory : Memory) : Gpu := { memory := some memory }
    let path : List FieldName := [⟨"Memory", "value"⟩, ⟨"Gpu", "memory"⟩, ⟨"Laptop", "gpus"⟩]
    let cause : Cause := .wrongWireType .lengthDelimited .varint
    decode [0x2a, 2, 0x08, 5] = .ok (card { value := 5 }) ∧
      decode ([0x2a, 2, 0x08, 5] ++
        (writeKey 5 .lengthDelimited ++ (Varint.write 2 ++ [0x10, 3]))) =
          .ok (card { value := 5, unit := 3 }) ∧
      (decode ([] ++ (writeKey 6 .lengthDelimited ++ (Varint.write 4 ++ [0x2a, 2, 0x0a, 0]))) :
        Except Failure Laptop) = .error ⟨path, cause⟩ ∧
      Failure.message ⟨path, cause⟩ =
        "failed to decode Protobuf message: Memory.value: Gpu.memory: Laptop.gpus: " ++
          "invalid wire type: LengthDelimited (expected Varint)" := by
  intro card path cause
  have hfirst : decode [0x2a, 2, 0x08, 5] = .ok (card { value := 5 }) := by rfl
  have hempty : decode [] = .ok (emptyMessage : Laptop) := by rfl
  have hmemory : SpellsKey (writeKey 5 .lengthDelimited) memoryOfCard.number .lengthDelimited :=
    spellsKey_writeKey (by decide) .lengthDelimited
  have hcards : SpellsKey (writeKey 6 .lengthDelimited) cardsOfLaptop.number .lengthDelimited :=
    spellsKey_writeKey (by decide) .lengthDelimited
  obtain ⟨hcard, -⟩ := nested_decoding_composes memoryOfCard (p := [0x10, 3]) hmemory
    (Varint.spells_write 2) (by decide)
  obtain ⟨hlaptop, -⟩ := nested_decoding_composes cardsOfLaptop (p := [0x2a, 2, 0x0a, 0]) hcards
    (Varint.spells_write 4) (by decide)
  obtain ⟨hvalue, -⟩ := hcard _ _ hfirst
  obtain ⟨-, hfails⟩ := hlaptop _ _ hempty
  obtain ⟨hfailure, -⟩ := hfails [⟨"Memory", "value"⟩, ⟨"Gpu", "memory"⟩] cause (by rfl)
  refine ⟨hfirst, (hvalue _).mpr ⟨{ value := 5, unit := 3 }, by rfl, by rfl⟩, hfailure, ?_⟩
  rfl

end

end LaptopCatalogue.Wire
