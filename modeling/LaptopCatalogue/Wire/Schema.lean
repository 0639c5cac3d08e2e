import LaptopCatalogue.Wire.Scalar

/-!
# Messages by their schema

A schema lists the fields of a message in the order of their numbers. A nested message brings its
own schema along, so a schema is a finite tree and everything about messages goes by recursion on
it: what a message holds (`Record`), its bytes (`encode`), their count (`size`), and how one record
of input changes it (`mergeFieldBy`).

* `merge` reads records into a message that may hold values already: the last scalar wins, a nested
  message is merged into what is there, a repeated field grows, the last member of a choice stays,
  and an undeclared field is skipped.
* `decode` merges into a message in which nothing is set.
-/

namespace LaptopCatalogue.Wire

/-- The fields of a message, the first one and the rest. -/
inductive Schema where
  | done
  /-- A scalar that is left out while it has its default value. -/
  | plain (name : FieldName) (number : Nat) (kind : Scalar) (rest : Schema)
  /-- A scalar that is written whenever it is set. -/
  | optional (name : FieldName) (number : Nat) (kind : Scalar) (rest : Schema)
  /-- Two scalars of which at most one is set. -/
  | choice (name : FieldName) (left : Nat) (leftKind : Scalar) (right : Nat) (rightKind : Scalar)
      (rest : Schema)
  | message (name : FieldName) (number : Nat) (inner : Schema) (rest : Schema)
  | repeated (name : FieldName) (number : Nat) (inner : Schema) (rest : Schema)
deriving DecidableEq, Repr

namespace Schema

/-- What a message holds, field by field. -/
def Record : Schema → Type
  | .done => Unit
  | .plain _ _ kind rest => kind.Value × rest.Record
  | .optional _ _ kind rest => Option kind.Value × rest.Record
  | .choice _ _ leftKind _ rightKind rest =>
    Option (leftKind.Value ⊕ rightKind.Value) × rest.Record
  | .message _ _ inner rest => Option inner.Record × rest.Record
  | .repeated _ _ inner rest => List inner.Record × rest.Record

def empty : (schema : Schema) → schema.Record
  | .done => ()
  | .plain _ _ kind rest => (kind.default, rest.empty)
  | .optional _ _ _ rest => (none, rest.empty)
  | .choice _ _ _ _ _ rest => (none, rest.empty)
  | .message _ _ _ rest => (none, rest.empty)
  | .repeated _ _ _ rest => ([], rest.empty)

/-! ## Sound schemas -/

/-- How deeply messages and groups may be nested below the outermost message. -/
def maxNesting : Nat := 100

def numbers : Schema → List Nat
  | .done => []
  | .plain _ number _ rest => number :: rest.numbers
  | .optional _ number _ rest => number :: rest.numbers
  | .choice _ left _ right _ rest => left :: right :: rest.numbers
  | .message _ number _ rest => number :: rest.numbers
  | .repeated _ number _ rest => number :: rest.numbers

/-- How many levels of messages lie below a message. -/
def depth : Schema → Nat
  | .done => 0
  | .plain _ _ _ rest => rest.depth
  | .optional _ _ _ rest => rest.depth
  | .choice _ _ _ _ _ rest => rest.depth
  | .message _ _ inner rest => max (inner.depth + 1) rest.depth
  | .repeated _ _ inner rest => max (inner.depth + 1) rest.depth

/-- Whether a key can carry a number, with every wire type. -/
def IsNumber (number : Nat) : Prop := 0 < number ∧ 8 * number + 7 ≤ maxKey

instance (number : Nat) : Decidable (IsNumber number) :=
  inferInstanceAs (Decidable (_ ∧ _))

/-- Whether the fields of a message, and of the messages inside it, can be told apart by their
numbers. -/
def Distinct : Schema → Prop
  | .done => True
  | .plain _ number _ rest => IsNumber number ∧ number ∉ rest.numbers ∧ rest.Distinct
  | .optional _ number _ rest => IsNumber number ∧ number ∉ rest.numbers ∧ rest.Distinct
  | .choice _ left _ right _ rest =>
    IsNumber left ∧ IsNumber right ∧ left ≠ right ∧ left ∉ rest.numbers ∧ right ∉ rest.numbers ∧
      rest.Distinct
  | .message _ number inner rest =>
    IsNumber number ∧ number ∉ rest.numbers ∧ inner.Distinct ∧ rest.Distinct
  | .repeated _ number inner rest =>
    IsNumber number ∧ number ∉ rest.numbers ∧ inner.Distinct ∧ rest.Distinct

/-- Distinctness can be decided, field by field. -/
def decideDistinct : (schema : Schema) → Decidable schema.Distinct
  | .done => inferInstanceAs (Decidable True)
  | .plain _ _ _ rest | .optional _ _ _ rest | .choice _ _ _ _ _ rest =>
    have := rest.decideDistinct
    inferInstanceAs (Decidable (_ ∧ _))
  | .message _ _ inner rest | .repeated _ _ inner rest =>
    have := inner.decideDistinct
    have := rest.decideDistinct
    inferInstanceAs (Decidable (_ ∧ _))

instance (schema : Schema) : Decidable schema.Distinct := schema.decideDistinct

/-- A schema by which messages can be written and read back: fields can be told apart, and messages
are not nested too deeply. -/
def Sound (schema : Schema) : Prop := schema.Distinct ∧ schema.depth ≤ maxNesting

instance (schema : Schema) : Decidable schema.Sound :=
  inferInstanceAs (Decidable (_ ∧ _))

/-! ## Writing -/

def totalSize {α : Type} (size : α → Nat) : List α → Nat
  | [] => 0
  | m :: ms => size m + totalSize size ms

/-- The number of bytes that `encode` gives. -/
def size : (schema : Schema) → schema.Record → Nat
  | .done, _ => 0
  | .plain _ number kind rest, (v, r) =>
    (if kind.isDefault v then 0 else keySize number + kind.size v) + rest.size r
  | .optional _ number kind rest, (v, r) =>
    (match v with
      | none => 0
      | some v => keySize number + kind.size v) + rest.size r
  | .choice _ left leftKind right rightKind rest, (v, r) =>
    (match v with
      | none => 0
      | some (.inl v) => keySize left + leftKind.size v
      | some (.inr v) => keySize right + rightKind.size v) + rest.size r
  | .message _ number inner rest, (m, r) =>
    (match m with
      | none => 0
      | some m =>
        let length := inner.size m
        keySize number + Varint.size (UInt64.ofNat length) + length) + rest.size r
  | .repeated _ number inner rest, (ms, r) =>
    totalSize (fun m =>
      let length := inner.size m
      keySize number + Varint.size (UInt64.ofNat length) + length) ms + rest.size r

/-- The bytes of a message: the fields that are set, in the order of the schema. -/
def encode : (schema : Schema) → schema.Record → Bytes
  | .done, _ => []
  | .plain _ number kind rest, (v, r) =>
    (if kind.isDefault v then [] else writeKey number kind.wireType ++ kind.write v)
      ++ rest.encode r
  | .optional _ number kind rest, (v, r) =>
    (match v with
      | none => []
      | some v => writeKey number kind.wireType ++ kind.write v) ++ rest.encode r
  | .choice _ left leftKind right rightKind rest, (v, r) =>
    (match v with
      | none => []
      | some (.inl v) => writeKey left leftKind.wireType ++ leftKind.write v
      | some (.inr v) => writeKey right rightKind.wireType ++ rightKind.write v) ++ rest.encode r
  | .message _ number inner rest, (m, r) =>
    (match m with
      | none => []
      | some m =>
        writeKey number .lengthDelimited ++ Varint.write (UInt64.ofNat (inner.size m))
          ++ inner.encode m) ++ rest.encode r
  | .repeated _ number inner rest, (ms, r) =>
    (ms.flatMap fun m =>
      writeKey number .lengthDelimited ++ Varint.write (UInt64.ofNat (inner.size m))
        ++ inner.encode m) ++ rest.encode r

/-! ## Reading -/

/-- A way to read a nested message into another one, where a reader of its fields is given for each
budget. -/
abbrev NestedReader : Type 1 :=
  (σ : Type) → (Nat → Nat → WireType → σ → Bytes → Except Failure (σ × Bytes)) →
    (budget : Nat) → WireType → σ → Bytes → Except Failure (σ × Bytes)

/-- Reads what stands behind the key with the given number and wire type and sets the field with
that number. The budget counts the levels of nesting that are still allowed. -/
def mergeFieldBy (nested : NestedReader) : (schema : Schema) → (budget number : Nat) → WireType →
    schema.Record → Bytes → Except Failure (schema.Record × Bytes)
  | .done, budget, number, wireType, r, bs => do
    let bs ← skip budget number wireType bs
    .ok (r, bs)
  | .plain name declared kind rest, budget, number, wireType, (v, r), bs =>
    if number = declared then do
      let (v, bs) ← inField name (kind.read wireType bs)
      .ok ((v, r), bs)
    else do
      let (r, bs) ← rest.mergeFieldBy nested budget number wireType r bs
      .ok ((v, r), bs)
  | .optional name declared kind rest, budget, number, wireType, (v, r), bs =>
    if number = declared then do
      let (v, bs) ← inField name (kind.read wireType bs)
      .ok ((some v, r), bs)
    else do
      let (r, bs) ← rest.mergeFieldBy nested budget number wireType r bs
      .ok ((v, r), bs)
  | .choice name left leftKind right rightKind rest, budget, number, wireType, (v, r), bs =>
    if number = left then do
      let (v, bs) ← inField name (leftKind.read wireType bs)
      .ok ((some (.inl v), r), bs)
    else if number = right then do
      let (v, bs) ← inField name (rightKind.read wireType bs)
      .ok ((some (.inr v), r), bs)
    else do
      let (r, bs) ← rest.mergeFieldBy nested budget number wireType r bs
      .ok ((v, r), bs)
  | .message name declared inner rest, budget, number, wireType, (m, r), bs =>
    if number = declared then do
      let (m, bs) ← inField name
        (nested inner.Record (inner.mergeFieldBy nested) budget wireType (m.getD inner.empty) bs)
      .ok ((some m, r), bs)
    else do
      let (r, bs) ← rest.mergeFieldBy nested budget number wireType r bs
      .ok ((m, r), bs)
  | .repeated name declared inner rest, budget, number, wireType, (ms, r), bs =>
    if number = declared then do
      let (m, bs) ← inField name
        (nested inner.Record (inner.mergeFieldBy nested) budget wireType inner.empty bs)
      .ok ((ms ++ [m], r), bs)
    else do
      let (r, bs) ← rest.mergeFieldBy nested budget number wireType r bs
      .ok ((ms, r), bs)

/-- Reads a field, where the records of a nested message are bounded by the whole input only. -/
def mergeField (schema : Schema) : (budget number : Nat) → WireType → schema.Record → Bytes →
    Except Failure (schema.Record × Bytes) :=
  schema.mergeFieldBy @readNested

/-- Reads every record of the input into a message. -/
def merge (schema : Schema) (r : schema.Record) (bs : Bytes) : Except Failure schema.Record :=
  (readRecords (schema.mergeField maxNesting) 0 bs.length r bs).map Prod.fst

def decode (schema : Schema) (bs : Bytes) : Except Failure schema.Record :=
  schema.merge schema.empty bs

end Schema

end LaptopCatalogue.Wire
