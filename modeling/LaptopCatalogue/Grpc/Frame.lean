import LaptopCatalogue.Wire.Message
import LaptopCatalogue.Service.Status

/-!
# Frames

Messages travel in frames: a flag that tells whether the message is compressed, its length in four
bytes, the highest first, and the message. Compressed messages are not taken, nor are messages
beyond 4 MiB; both are refused as soon as the five bytes in front are there.
-/

namespace LaptopCatalogue.Grpc

open LaptopCatalogue.Wire (Bytes Message)

def maxMessageSize : Nat := 4 * 1024 * 1024

def frame {α : Type} [Message α] (m : α) : Bytes :=
  let bs := Wire.encode m
  0 :: (Wire.littleEndian 4 bs.length).reverse ++ bs

/-- The status for input that ends inside a frame. -/
def unexpectedEnd : Status := ⟨.internal, "Unexpected EOF decoding stream."⟩

def missingMessage : Status := ⟨.internal, "Missing request message."⟩

/-- The status for a flag other than 0. -/
def flagStatus (flag : UInt8) : Status :=
  ⟨.internal,
    if flag = 1 then
      "protocol error: received message with compressed-flag but no grpc-encoding was specified"
    else
      s!"protocol error: received message with invalid compression flag: {flag.toNat} " ++
        "(valid flags are 0 and 1), while sending request"⟩

def tooLong (length : Nat) : Status :=
  ⟨.outOfRange,
    s!"Error, decoded message length too large: found {length} bytes, " ++
      s!"the limit is: {maxMessageSize} bytes"⟩

/-- Takes the next message out of its frame, with the bytes behind it. There is none if the input
ends before a frame, or right behind the five bytes of one. -/
def nextFrame? (bs : Bytes) : Except Status (Option (Bytes × Bytes)) :=
  match bs with
  | [] => .ok none
  | flag :: l3 :: l2 :: l1 :: l0 :: rest =>
    if flag ≠ 0 then .error (flagStatus flag)
    else
      let length := Wire.ofLittleEndian [l0, l1, l2, l3]
      if maxMessageSize < length then .error (tooLong length)
      else if length ≤ rest.length then .ok (some (rest.take length, rest.drop length))
      else if rest = [] then .ok none
      else .error unexpectedEnd
  | _ => .error unexpectedEnd

/-- Reads the messages of all frames, of which there are fewer than bytes. -/
def messagesWithin (α : Type) [Message α] : Nat → Bytes → Except Status (List α)
  | 0, _ => .ok []
  | fuel + 1, bs => do
    match ← nextFrame? bs with
    | none => .ok []
    | some (payload, rest) =>
      let m ← (Wire.decode payload).mapError fun failure => ⟨.internal, failure.message⟩
      let ms ← messagesWithin α fuel rest
      .ok (m :: ms)

/-- Reads the one message of a request. Frames behind it must be in order, too, but nobody looks at
what they say. -/
def readMessage (α : Type) [Message α] (bs : Bytes) : Except Status α := do
  match ← messagesWithin α (bs.length + 1) bs with
  | m :: _ => .ok m
  | [] => .error missingMessage

end LaptopCatalogue.Grpc
