import LaptopCatalogue.Wire.Varint
import LaptopCatalogue.Wire.Failure

/-!
# Reading parts of a message

A reader takes the bytes that are left of the whole input and gives a value and the bytes behind
it. Lengths are checked against everything that is left; whether a nested message kept to its own
length is checked by its reader afterwards.
-/

namespace LaptopCatalogue.Wire

/-- Refuses, for a reason that lies in no field. -/
def refuse {α : Type} (cause : Cause) : Except Failure α :=
  .error (.of cause)

/-- Marks every failure of a reader as lying inside a field. -/
def inField {α : Type} (field : FieldName) (result : Except Failure α) : Except Failure α :=
  result.mapError (·.inside field)

def readVarint (bs : Bytes) : Except Failure (UInt64 × Bytes) :=
  match Varint.read bs with
  | some result => .ok result
  | none => refuse .invalidVarint

def takeBytes (n : Nat) (bs : Bytes) : Except Failure (Bytes × Bytes) :=
  if bs.length < n then refuse .underflow else .ok (bs.take n, bs.drop n)

/-- Takes a byte string behind its length. -/
def takeDelimited (bs : Bytes) : Except Failure (Bytes × Bytes) := do
  let (length, bs) ← readVarint bs
  takeBytes length.toNat bs

/-- Checks the wire type of a declared field. -/
def expect (expected found : WireType) : Except Failure Unit :=
  if found = expected then .ok () else refuse (.wrongWireType found expected)

/-! ## Keys -/

def maxKey : Nat := Nat.pow 2 32 - 1

/-- The key of a field: its number above the three bits of its wire type. -/
def writeKey (number : Nat) (wireType : WireType) : Bytes :=
  Varint.write (UInt64.ofNat (8 * number + wireType.code))

def keySize (number : Nat) : Nat :=
  Varint.size (UInt64.ofNat (8 * number))

/-- Reads a key as a field number and a wire type. A key that is too large is refused before its
wire type is looked at, and the wire type before the field number. -/
def readKey (bs : Bytes) : Except Failure ((Nat × WireType) × Bytes) := do
  let (key, bs) ← readVarint bs
  if maxKey < key.toNat then refuse (.invalidKey key)
  else match WireType.ofCode? (key.toNat % 8) with
    | none => refuse (.invalidWireType (key.toNat % 8))
    | some wireType =>
      if key.toNat / 8 = 0 then refuse .zeroFieldNumber
      else .ok ((key.toNat / 8, wireType), bs)

/-! ## Skipping unknown fields -/

/-- Skips the fields of an open group up to and including its end, where `skipField` skips one
field. Each field takes a byte at least, so the number of bytes is fuel enough; with no byte left
the key of the next field is missing. -/
def skipGroup (skipField : Nat → WireType → Bytes → Except Failure Bytes) (number : Nat) :
    Nat → Bytes → Except Failure Bytes
  | 0, _ => refuse .invalidVarint
  | fuel + 1, bs => do
    let ((inner, wireType), bs) ← readKey bs
    if wireType = .endGroup then
      if inner = number then .ok bs else refuse .unexpectedEndGroup
    else
      let bs ← skipField inner wireType bs
      skipGroup skipField number fuel bs

/-- Skips the value of a field that is not declared. The budget counts the levels of nesting that
are still allowed; the fields of a group lie one level deeper than the group. -/
def skip : Nat → Nat → WireType → Bytes → Except Failure Bytes
  | 0, _, _, _ => refuse .recursionLimit
  | budget + 1, number, wireType, bs =>
    match wireType with
    | .varint => (readVarint bs).map Prod.snd
    | .sixtyFourBit => (takeBytes 8 bs).map Prod.snd
    | .thirtyTwoBit => (takeBytes 4 bs).map Prod.snd
    | .lengthDelimited => (takeDelimited bs).map Prod.snd
    | .startGroup => skipGroup (skip budget) number bs.length bs
    | .endGroup => refuse .unexpectedEndGroup

/-! ## Runs of records -/

/-- Applies `step` to one record after another until at most `limit` bytes are left. A record is a
key and what follows it. Each takes a byte at least, so the number of bytes is fuel enough. -/
def readRecords {σ : Type} (step : Nat → WireType → σ → Bytes → Except Failure (σ × Bytes))
    (limit : Nat) : Nat → σ → Bytes → Except Failure (σ × Bytes)
  | 0, m, bs => .ok (m, bs)
  | fuel + 1, m, bs =>
    if bs.length ≤ limit then .ok (m, bs)
    else do
      let ((number, wireType), bs) ← readKey bs
      let (m, bs) ← step number wireType m bs
      readRecords step limit fuel m bs

/-- Reads a nested message into `m`. Its records are read one level deeper; they are bounded only
by the whole input, and running past the end of the message is noticed when they stop. -/
def readNested {σ : Type}
    (step : Nat → Nat → WireType → σ → Bytes → Except Failure (σ × Bytes)) (budget : Nat)
    (wireType : WireType) (m : σ) (bs : Bytes) : Except Failure (σ × Bytes) := do
  expect .lengthDelimited wireType
  if budget = 0 then refuse .recursionLimit
  else
    let (length, bs) ← readVarint bs
    if bs.length < length.toNat then refuse .underflow
    else
      let limit := bs.length - length.toNat
      let (m, bs) ← readRecords (step (budget - 1)) limit bs.length m bs
      if bs.length = limit then .ok (m, bs) else refuse .lengthExceeded

end LaptopCatalogue.Wire
