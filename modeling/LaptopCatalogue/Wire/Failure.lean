/-!
# Why a message cannot be read

A failure is a cause together with the path of the fields that enclose it. The path lists the
innermost field first; a field is added when the failure leaves it.
-/

namespace LaptopCatalogue.Wire

/-- How the bytes of one field are laid out. -/
inductive WireType where
  | varint
  | sixtyFourBit
  | lengthDelimited
  | startGroup
  | endGroup
  | thirtyTwoBit
deriving DecidableEq, Repr

namespace WireType

/-- The three bits that stand for a wire type in a key. -/
def code : WireType → Nat
  | .varint => 0
  | .sixtyFourBit => 1
  | .lengthDelimited => 2
  | .startGroup => 3
  | .endGroup => 4
  | .thirtyTwoBit => 5

/-- The wire type of a code. The codes 6 and 7 stand for none. -/
def ofCode? : Nat → Option WireType
  | 0 => some .varint
  | 1 => some .sixtyFourBit
  | 2 => some .lengthDelimited
  | 3 => some .startGroup
  | 4 => some .endGroup
  | 5 => some .thirtyTwoBit
  | _ => none

def name : WireType → String
  | .varint => "Varint"
  | .sixtyFourBit => "SixtyFourBit"
  | .lengthDelimited => "LengthDelimited"
  | .startGroup => "StartGroup"
  | .endGroup => "EndGroup"
  | .thirtyTwoBit => "ThirtyTwoBit"

theorem ofCode?_code (w : WireType) : ofCode? w.code = some w := by
  cases w <;> rfl

end WireType

/-- A field by the name of its message and its own name. -/
structure FieldName where
  message : String
  field : String
deriving DecidableEq, Repr

/-- Why reading stopped. -/
inductive Cause where
  /-- A varint is cut off, longer than ten bytes, or its value does not fit 64 bits. -/
  | invalidVarint
  | invalidKey (key : UInt64)
  /-- The three low bits of a key stand for no wire type. -/
  | invalidWireType (code : Nat)
  | zeroFieldNumber
  /-- A declared field has another wire type than declared. -/
  | wrongWireType (found expected : WireType)
  /-- A length or a fixed-size value needs more bytes than are left. -/
  | underflow
  /-- The fields of a nested message run past its end. -/
  | lengthExceeded
  | notUtf8
  | unexpectedEndGroup
  | recursionLimit
deriving DecidableEq, Repr

namespace Cause

def message : Cause → String
  | .invalidVarint => "invalid varint"
  | .invalidKey key => s!"invalid key value: {key.toNat}"
  | .invalidWireType code => s!"invalid wire type value: {code}"
  | .zeroFieldNumber => "invalid tag value: 0"
  | .wrongWireType found expected =>
    s!"invalid wire type: {found.name} (expected {expected.name})"
  | .underflow => "buffer underflow"
  | .lengthExceeded => "delimited length exceeded"
  | .notUtf8 => "invalid string value: data is not UTF-8 encoded"
  | .unexpectedEndGroup => "unexpected end group tag"
  | .recursionLimit => "recursion limit reached"

end Cause

/-- A failed reading: the enclosing fields, innermost first, and the cause. -/
structure Failure where
  path : List FieldName
  cause : Cause
deriving DecidableEq, Repr

namespace Failure

/-- A failure outside every field. -/
def of (cause : Cause) : Failure := ⟨[], cause⟩

/-- The same failure, seen from outside the field. -/
def inside (failure : Failure) (field : FieldName) : Failure :=
  { failure with path := failure.path ++ [field] }

/-- The whole text of a failure: each field of the path in front of the cause. -/
def message (failure : Failure) : String :=
  let path := failure.path.map fun name => s!"{name.message}.{name.field}: "
  s!"failed to decode Protobuf message: {String.join path}{failure.cause.message}"

end Failure

end LaptopCatalogue.Wire
