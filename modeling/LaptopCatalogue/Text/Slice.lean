/-!
# Texts and their bytes

A text is its bytes in UTF-8. A position in it counts the bytes in front; it lies between two
characters or in the middle of one, and only between characters a text can be cut.
-/

namespace LaptopCatalogue

/-- The UTF-8 bytes of a text. -/
def textBytes (text : String) : List UInt8 :=
  text.toByteArray.data.toList

/-- The text whose UTF-8 bytes are given, if they are UTF-8. -/
def textOfBytes? (bytes : List UInt8) : Option String :=
  String.fromUTF8? bytes.toByteArray

theorem toByteArray_textBytes (text : String) :
    (textBytes text).toByteArray = text.toByteArray := by
  apply ByteArray.ext
  rw [textBytes, List.data_toByteArray, Array.toArray_toList]

/-- Bytes are a text exactly if they are its UTF-8 bytes. -/
theorem textOfBytes?_eq_some_iff (bytes : List UInt8) (text : String) :
    textOfBytes? bytes = some text ↔ bytes = textBytes text := by
  unfold textOfBytes? String.fromUTF8?
  constructor
  · intro h
    split at h
    · cases h
      change bytes = bytes.toByteArray.data.toList
      simp
    · cases h
  · rintro rfl
    rw [toByteArray_textBytes, dif_pos text.isValidUTF8]
    rfl

def byteLength (cs : List Char) : Nat := cs.foldr (fun c bytes => c.utf8Size + bytes) 0

/-- The characters from a position on, if a text can be cut there. -/
def fromByte? (position : Nat) : List Char → Option (List Char)
  | [] => if position = 0 then some [] else none
  | c :: cs =>
    if position = 0 then some (c :: cs)
    else if c.utf8Size ≤ position then fromByte? (position - c.utf8Size) cs
    else none

/-- The characters up to a position, if a text can be cut there. -/
def upToByte? (position : Nat) : List Char → Option (List Char)
  | [] => if position = 0 then some [] else none
  | c :: cs =>
    if position = 0 then some []
    else if c.utf8Size ≤ position then (upToByte? (position - c.utf8Size) cs).map (c :: ·)
    else none

/-- The characters between two positions, if a text can be cut there. -/
def slice? (start stop : Nat) (cs : List Char) : Option (List Char) := do
  upToByte? (stop - start) (← fromByte? start cs)

end LaptopCatalogue
