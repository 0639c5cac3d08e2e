import LaptopCatalogue.Wire.Message
import LaptopCatalogue.Proofs.Wire.Varint

/-!
# The grammar of messages

What a byte string must look like to be a message, said without a reader: it is a sequence of
records, each a key and a value, and every record changes what the message holds. A nested message
is a sequence of records of its own that fills exactly the bytes of its declared length. The budget
counts the levels of nesting that are still allowed.

* `SpellsKey`, `Delimited`, `Scalar.Spells`: keys, byte strings behind their length, scalars.
* `Records`: a sequence of records and what it makes of a state.
* `Unknown`: the value of a field that is not declared, a closed group among them.
* `Schema.Sets`: what the value behind a key makes of a message.
* `Changes`: the byte strings that take one message to another.
-/

namespace LaptopCatalogue.Wire

/-! ## Keys and scalars -/

/-- A key: a varint that fits 32 bits, with a field number above a wire type. -/
structure SpellsKey (bs : Bytes) (number : Nat) (wireType : WireType) : Prop where
  spelled : Varint.Spells bs (UInt64.ofNat (8 * number + wireType.code))
  number_pos : 0 < number
  fits : 8 * number + wireType.code ≤ maxKey

/-- A byte string behind its length. -/
structure Delimited (bs payload : Bytes) : Prop where
  split : ∃ length, bs = length ++ payload ∧
    Varint.Spells length (UInt64.ofNat payload.length)
  fits : payload.length < UInt64.size

/-- The spellings of the values of a scalar. Integers that are shorter than their varint keep its
low bits. -/
def Scalar.Spells : (kind : Scalar) → Bytes → kind.Value → Prop
  | .text, bs, v => Delimited bs (textBytes v)
  | .uint32, bs, v => ∃ n, Varint.Spells bs n ∧ n.toUInt32 = v
  | .uint64, bs, v => Varint.Spells bs v
  | .int64, bs, v => ∃ n, Varint.Spells bs n ∧ n.toInt64 = v
  | .enumeration, bs, v => ∃ n, Varint.Spells bs n ∧ n.toUInt32.toInt32 = v
  | .bool, bs, v => ∃ n, Varint.Spells bs n ∧ (n != 0) = v
  | .float, bs, v => bs = littleEndian 4 (Binary32.bits v).toNat
  | .double, bs, v => bs = littleEndian 8 (Binary64.bits v).toNat

/-! ## Records -/

/-- A sequence of records that takes a state to another, where `field` says which bytes behind a key
are a value and what they make of a state. -/
inductive Records {σ : Type} (field : Nat → WireType → σ → Bytes → σ → Prop) :
    σ → Bytes → σ → Prop where
  | nil (m : σ) : Records field m [] m
  | cons {number : Nat} {wireType : WireType} {key value rest : Bytes} {m m₁ m₂ : σ}
      (hkey : SpellsKey key number wireType) (hvalue : field number wireType m value m₁)
      (hrest : Records field m₁ rest m₂) :
      Records field m (key ++ (value ++ rest)) m₂

/-- The values of a field that is not declared. The fields of a group lie one level deeper than the
group, and its end bears its number. -/
def Unknown : (budget number : Nat) → WireType → Bytes → Prop
  | 0, _, _, _ => False
  | _ + 1, _, .varint, bs => ∃ n, Varint.Spells bs n
  | _ + 1, _, .sixtyFourBit, bs => bs.length = 8
  | _ + 1, _, .thirtyTwoBit, bs => bs.length = 4
  | _ + 1, _, .lengthDelimited, bs => ∃ payload, Delimited bs payload
  | budget + 1, number, .startGroup, bs =>
    ∃ fields close, bs = fields ++ close ∧ SpellsKey close number .endGroup ∧
      Records (fun inner wireType (_ : Unit) value _ => Unknown budget inner wireType value)
        () fields ()
  | _ + 1, _, .endGroup, _ => False

/-- A nested message: a sequence of records that fills the bytes of its length, one level deeper. -/
def Nested {σ : Type} (field : Nat → Nat → WireType → σ → Bytes → σ → Prop) :
    (budget : Nat) → WireType → σ → Bytes → σ → Prop
  | budget + 1, .lengthDelimited, m, bs, m' =>
    ∃ payload, Delimited bs payload ∧ Records (field budget) m payload m'
  | _, _, _, _, _ => False

/-! ## Messages -/

namespace Schema

/-- What the value behind a key makes of a message: it sets the field with the number of the key,
where it must have the declared wire type, and any other field stays. -/
def Sets : (schema : Schema) → (budget number : Nat) → WireType → schema.Record → Bytes →
    schema.Record → Prop
  | .done, budget, number, wireType, _, bs, _ => Unknown budget number wireType bs
  | .plain _ declared kind rest, budget, number, wireType, (v, r), bs, (v', r') =>
    if number = declared then wireType = kind.wireType ∧ kind.Spells bs v' ∧ r' = r
    else v' = v ∧ rest.Sets budget number wireType r bs r'
  | .optional _ declared kind rest, budget, number, wireType, (v, r), bs, (v', r') =>
    if number = declared then
      wireType = kind.wireType ∧ (∃ w, kind.Spells bs w ∧ v' = some w) ∧ r' = r
    else v' = v ∧ rest.Sets budget number wireType r bs r'
  | .choice _ left leftKind right rightKind rest, budget, number, wireType, (v, r), bs, (v', r') =>
    if number = left then
      wireType = leftKind.wireType ∧ (∃ w, leftKind.Spells bs w ∧ v' = some (.inl w)) ∧ r' = r
    else if number = right then
      wireType = rightKind.wireType ∧ (∃ w, rightKind.Spells bs w ∧ v' = some (.inr w)) ∧ r' = r
    else v' = v ∧ rest.Sets budget number wireType r bs r'
  | .message _ declared inner rest, budget, number, wireType, (m, r), bs, (m', r') =>
    if number = declared then
      (∃ w, Nested inner.Sets budget wireType (m.getD inner.empty) bs w ∧ m' = some w) ∧ r' = r
    else m' = m ∧ rest.Sets budget number wireType r bs r'
  | .repeated _ declared inner rest, budget, number, wireType, (ms, r), bs, (ms', r') =>
    if number = declared then
      (∃ w, Nested inner.Sets budget wireType inner.empty bs w ∧ ms' = ms ++ [w]) ∧ r' = r
    else ms' = ms ∧ rest.Sets budget number wireType r bs r'

end Schema

/-- Whether a byte string is a message that takes one value to another. -/
def Changes {α : Type} [Message α] (m : α) (bs : Bytes) (m' : α) : Prop :=
  Records ((Message.schema α).Sets Schema.maxNesting) (Message.toRecord m) bs (Message.toRecord m')

end LaptopCatalogue.Wire
