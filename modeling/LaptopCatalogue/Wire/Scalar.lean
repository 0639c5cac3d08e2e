import LaptopCatalogue.Wire.Read
import LaptopCatalogue.Number.Binary
import LaptopCatalogue.Text.Slice

/-!
# Scalar fields

The eight kinds of scalar that a field can hold, how each is written, and how it is read. Integers
of 32 bits and enumerations are read from a 64-bit varint by its low 32 bits; signed ones are
written with their sign extended to 64 bits. Fixed-size numbers put their lowest byte first.
-/

namespace LaptopCatalogue.Wire

inductive Scalar where
  | text
  | uint32
  | uint64
  | int64
  | enumeration
  | bool
  | float
  | double
deriving DecidableEq, Repr

/-- The `width` lowest bytes of a number, lowest first. -/
def littleEndian : Nat → Nat → Bytes
  | 0, _ => []
  | width + 1, n => UInt8.ofNat (n % 256) :: littleEndian width (n / 256)

/-- The number whose bytes are given, lowest first. -/
def ofLittleEndian : Bytes → Nat
  | [] => 0
  | b :: bs => b.toNat + 256 * ofLittleEndian bs

namespace Scalar

/-- What a field of each kind holds. -/
abbrev Value : Scalar → Type
  | .text => String
  | .uint32 => UInt32
  | .uint64 => UInt64
  | .int64 => Int64
  | .enumeration => Int32
  | .bool => Bool
  | .float => Binary32
  | .double => Binary64

/-- What a field holds that was never set. -/
def default : (kind : Scalar) → kind.Value
  | .text => ""
  | .uint32 => (0 : UInt32)
  | .uint64 => (0 : UInt64)
  | .int64 => (0 : Int64)
  | .enumeration => (0 : Int32)
  | .bool => false
  | .float => Binary32.zero
  | .double => Binary64.zero

/-- Whether a value is left out of a message: it equals the default, where both zeros of a
floating-point kind do. -/
def isDefault : (kind : Scalar) → kind.Value → Bool
  | .text, v => v = ""
  | .uint32, v => v = (0 : UInt32)
  | .uint64, v => v = (0 : UInt64)
  | .int64, v => v = (0 : Int64)
  | .enumeration, v => v = (0 : Int32)
  | .bool, v => v = false
  | .float, v => Binary32.isZero v
  | .double, v => Binary64.isZero v

def wireType : Scalar → WireType
  | .text => .lengthDelimited
  | .float => .thirtyTwoBit
  | .double => .sixtyFourBit
  | _ => .varint

/-- The bytes of a value, without a key. -/
def write : (kind : Scalar) → kind.Value → Bytes
  | .text, v =>
    let bs := textBytes v
    Varint.write (UInt64.ofNat bs.length) ++ bs
  | .uint32, v => Varint.write (UInt32.toUInt64 v)
  | .uint64, v => Varint.write v
  | .int64, v => Varint.write (Int64.toUInt64 v)
  | .enumeration, v => Varint.write (Int32.toInt64 v).toUInt64
  | .bool, v => Varint.write (Bool.toUInt64 v)
  | .float, v => littleEndian 4 (Binary32.bits v).toNat
  | .double, v => littleEndian 8 (Binary64.bits v).toNat

/-- The number of bytes that `write` gives. -/
def size : (kind : Scalar) → kind.Value → Nat
  | .text, v =>
    let length := String.utf8ByteSize v
    Varint.size (UInt64.ofNat length) + length
  | .uint32, v => Varint.size (UInt32.toUInt64 v)
  | .uint64, v => Varint.size v
  | .int64, v => Varint.size (Int64.toUInt64 v)
  | .enumeration, v => Varint.size (Int32.toInt64 v).toUInt64
  | .bool, _ => 1
  | .float, _ => 4
  | .double, _ => 8

/-- Reads the bytes of a value, whose wire type is known to be right. -/
def readPayload : (kind : Scalar) → Bytes → Except Failure (kind.Value × Bytes)
  | .text, bs => do
    let (payload, bs) ← takeDelimited bs
    match textOfBytes? payload with
    | some v => .ok (v, bs)
    | none => refuse .notUtf8
  | .uint32, bs => (readVarint bs).map fun (n, bs) => (n.toUInt32, bs)
  | .uint64, bs => readVarint bs
  | .int64, bs => (readVarint bs).map fun (n, bs) => (n.toInt64, bs)
  | .enumeration, bs => (readVarint bs).map fun (n, bs) => (n.toUInt32.toInt32, bs)
  | .bool, bs => (readVarint bs).map fun (n, bs) => (n != 0, bs)
  | .float, bs =>
    (takeBytes 4 bs).map fun (payload, bs) => (⟨UInt32.ofNat (ofLittleEndian payload)⟩, bs)
  | .double, bs =>
    (takeBytes 8 bs).map fun (payload, bs) => (⟨UInt64.ofNat (ofLittleEndian payload)⟩, bs)

/-- Reads a value behind a key with the given wire type. -/
def read (kind : Scalar) (found : WireType) (bs : Bytes) :
    Except Failure (kind.Value × Bytes) := do
  expect kind.wireType found
  kind.readPayload bs

end Scalar

end LaptopCatalogue.Wire
