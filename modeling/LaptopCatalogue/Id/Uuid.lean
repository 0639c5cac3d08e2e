import LaptopCatalogue.Text.Digits
import LaptopCatalogue.Text.Slice

/-!
# UUIDs and their texts

A UUID is sixteen bytes. Its plain text is 36 characters: 32 lower-case hexadecimal digits, with
hyphens between groups of 8, 4, 4, 4 and 12. A reader also takes upper-case digits, the digits
without hyphens, and the hyphenated form in braces or behind `urn:uuid:`.

* `Uuid.text`: the plain text.
* `Uuid.version4`: the id made from sixteen random bytes.
* `Uuid.parse`: the reader. Its refusals say what is wrong with the text.
-/

namespace LaptopCatalogue

/-- Sixteen bytes. -/
structure Uuid where
  bytes : List UInt8
  length_bytes : bytes.length = 16
deriving DecidableEq, Repr

namespace Uuid

/-! ## Hexadecimal digits -/

/-- The lower-case digit of a number below 16. -/
def digit (n : Nat) : Char :=
  if n < 10 then Char.ofNat ('0'.toNat + n) else Char.ofNat ('a'.toNat + (n - 10))

/-- The two digits of each byte. -/
def digits : List UInt8 → List Char
  | [] => []
  | b :: bs => digit (b.toNat / 16) :: digit (b.toNat % 16) :: digits bs

/-- The bytes whose digits are given. -/
def ofDigits? : List Char → Option (List UInt8)
  | [] => some []
  | [_] => none
  | high :: low :: cs => do
    let high ← hexValue? high
    let low ← hexValue? low
    let bs ← ofDigits? cs
    some (UInt8.ofNat (16 * high + low) :: bs)

/-! ## Groups -/

/-- How many digits stand between hyphens. -/
def groupSizes : List Nat := [8, 4, 4, 4, 12]

/-- Splits text into groups of the given sizes, with a hyphen in front of all but the first. -/
def hyphenate : List Nat → List Char → List Char
  | [], cs => cs
  | [_], cs => cs
  | n :: sizes, cs => cs.take n ++ '-' :: hyphenate sizes (cs.drop n)

/-- Takes out the hyphens of a text whose groups have exactly the given sizes. -/
def unhyphenate? : List Nat → List Char → Option (List Char)
  | [], cs => if cs = [] then some [] else none
  | [n], cs => if cs.length = n then some cs else none
  | n :: sizes, cs =>
    match cs.drop n with
    | '-' :: rest => (unhyphenate? sizes rest).map (cs.take n ++ ·)
    | _ => none

def text (uuid : Uuid) : String :=
  String.ofList (hyphenate groupSizes (digits uuid.bytes))

theorem text_ne_empty (uuid : Uuid) : uuid.text ≠ "" := by
  intro h
  have hchars : hyphenate groupSizes (digits uuid.bytes) = [] := by
    simpa [text] using congrArg String.toList h
  simp [hyphenate, groupSizes] at hchars

/-! ## Random ids -/

/-- Marks a byte as the one that holds the version, which is 4. -/
def stampVersion (b : UInt8) : UInt8 := (b &&& 0x0f) ||| 0x40

/-- Marks a byte as the one that holds the variant. -/
def stampVariant (b : UInt8) : UInt8 := (b &&& 0x3f) ||| 0x80

/-- The random id made of sixteen bytes: six of their bits give version and variant. -/
def version4 (entropy : Uuid) : Uuid where
  bytes := (entropy.bytes.modify 6 stampVersion).modify 8 stampVariant
  length_bytes := by simp [entropy.length_bytes]

/-- A short id for one call: the first digits of a random id. -/
def requestId (entropy : Uuid) : String :=
  String.ofList ((digits entropy.version4.bytes).take 8)

/-! ## Reading -/

/-- What is wrong with a text. Lengths and positions count bytes. -/
inductive ParseError where
  | length (found : Nat)
  | character (found : Char) (position : Nat)
  | groupCount (found : Nat)
  | groupLength (group expected found : Nat)
deriving DecidableEq, Repr

def ParseError.message : ParseError → String
  | .length found => s!"invalid length: found {found}"
  | .character found position => s!"invalid character: found `{found}` at {position}"
  | .groupCount found => s!"invalid group count: expected 5, found {found}"
  | .groupLength group expected found =>
    s!"invalid group length in group {group}: expected {expected}, found {found}"

/-- The beginning of the resource name of a UUID. -/
def resourceName : List Char := "urn:uuid:".toList

/-- Takes a text in front, in either case of its ASCII letters. -/
def dropIgnoringCase : List Char → List Char → Option (List Char)
  | [], cs => some cs
  | p :: ps, c :: cs => if c.toLower = p then dropIgnoringCase ps cs else none
  | _ :: _, [] => none

def unbrace? : List Char → Option (List Char)
  | '{' :: cs => if cs.getLast? = some '}' then some cs.dropLast else none
  | _ => none

/-- The digits of a text in one of the four forms. -/
def digitsOf? (cs : List Char) : Option (List Char) :=
  if cs.length = 32 then some cs
  else match unbrace? cs with
    | some inner => unhyphenate? groupSizes inner
    | none =>
      match dropIgnoringCase resourceName cs with
      | some rest => unhyphenate? groupSizes rest
      | none => unhyphenate? groupSizes cs

/-- The UUID of a text, if the text has one of the four forms. -/
def ofText? (cs : List Char) : Option Uuid := do
  let bytes ← ofDigits? (← digitsOf? cs)
  if h : bytes.length = 16 then some ⟨bytes, h⟩ else none

/-! ## Saying what is wrong -/

/-- How a text presents itself. -/
inductive Form where
  /-- Not known before the first hyphen. -/
  | undecided
  /-- With hyphens, in braces or behind the resource name. -/
  | hyphenated
deriving DecidableEq, Repr

/-- The part of a text that counts as the reason for its refusal: what is inside the braces or
behind the resource name, if its length fits the hyphenated form, and else all of it. -/
def blamed (cs : List Char) : List Char × Form :=
  if byteLength cs = 36 then (cs, .hyphenated)
  else match unbrace? cs, dropIgnoringCase resourceName cs with
    | some inner, _ => if byteLength inner = 36 then (inner, .hyphenated) else (cs, .undecided)
    | none, some rest => if byteLength rest = 36 then (rest, .hyphenated) else (cs, .undecided)
    | none, none => (cs, .undecided)

/-- The characters to look at, how many bytes stand in front of them, and the form. -/
def bounds (cs : List Char) : Form → List Char × Nat × Form
  | .hyphenated => (cs, 0, .hyphenated)
  | .undecided =>
    match unbrace? cs, dropIgnoringCase resourceName cs with
    | some inner, _ => (inner, 1, .hyphenated)
    | none, some rest => (rest, resourceName.length, .hyphenated)
    | none, none => (cs, 0, .undecided)

/-- The positions of the hyphens, or the first character that is neither digit nor hyphen with its
position. -/
def hyphenPositions : (position : Nat) → List Char → Except (Char × Nat) (List Nat)
  | _, [] => .ok []
  | position, c :: cs =>
    if c = '-' then
      (hyphenPositions (position + 1) cs).map (position :: ·)
    else if (hexValue? c).isSome then hyphenPositions (position + 1) cs
    else .error (c, position)

/-- The first of the groups in front of a hyphen whose length is wrong. The groups are given by
their number, where they should start, and their length. -/
def wrongGroup? : List (Nat × Nat × Nat) → List Nat → Option ParseError
  | (group, start, expected) :: groups, position :: positions =>
    if position = start + expected then wrongGroup? groups positions
    else some (.groupLength group expected (position - start))
  | _, _ => none

/-- The groups in front of a hyphen. -/
def closedGroups : List (Nat × Nat × Nat) := [(0, 0, 8), (1, 9, 4), (2, 14, 4), (3, 19, 4)]

/-- Why a text that is not a UUID is refused. -/
def reason (cs : List Char) : ParseError :=
  let (cs, form) := blamed cs
  let length := byteLength cs
  if length = 0 ∨ 45 < length then .length length
  else
    let (inner, offset, form) := bounds cs form
    match hyphenPositions 0 inner with
    | .error (c, position) => .character c (position + offset)
    | .ok positions =>
      if form = .undecided ∧ positions = [] then .length length
      else if positions.length ≠ 4 then .groupCount (positions.length + 1)
      else (wrongGroup? closedGroups positions).getD (.groupLength 4 12 (length - 24))

def parse (s : String) : Except ParseError Uuid :=
  match ofText? s.toList with
  | some uuid => .ok uuid
  | none => .error (reason s.toList)

end Uuid

end LaptopCatalogue
