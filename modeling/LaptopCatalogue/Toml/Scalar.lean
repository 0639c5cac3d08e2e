import LaptopCatalogue.Number.Nearest
import LaptopCatalogue.Toml.Text
import LaptopCatalogue.Toml.Value

/-!
# Numbers, booleans and moments of TOML

These values are words without quotes. A word is read as a whole: it runs as far as letters, digits
and the marks of numbers and moments go, and what it is follows from all of it.
-/

namespace LaptopCatalogue.Toml

/-! ## Digits -/

/-- Takes out the underscores of a run of digits. An underscore stands between two digits. -/
def withoutSeparators? (isDigit : Char → Bool) : List Char → Option (List Char)
  | [] => none
  | [c] => if isDigit c then some [c] else none
  | c :: '_' :: rest =>
    if isDigit c then (withoutSeparators? isDigit rest).map (c :: ·) else none
  | c :: rest => if isDigit c then (withoutSeparators? isDigit rest).map (c :: ·) else none

/-- The digits of a number in a base, without underscores. -/
def digitRun? (base : Nat) (cs : List Char) : Option (List Char) :=
  withoutSeparators? (isDigitIn base) cs

/-- Decimal digits that do not start with a zero, unless that is all. -/
def plainDigits? (cs : List Char) : Option (List Char) :=
  (digitRun? 10 cs).filter fun digits => digits = ['0'] || digits.head? ≠ some '0'

/-- The number that digits make. -/
def ofDigits (base : Nat) (digits : List Char) : Nat :=
  (numberOfDigits? base digits).getD 0

/-- Takes a sign away and says whether it is a minus. -/
def signed : List Char → Bool × List Char
  | '-' :: cs => (true, cs)
  | '+' :: cs => (false, cs)
  | cs => (false, cs)

/-! ## Integers -/

/-- An integer of 64 bits. Signs belong to decimals only. -/
def integer? (word : List Char) : Option Int :=
  let n? : Option Int := match word with
    | '0' :: 'x' :: cs => (digitRun? 16 cs).map fun ds => (ofDigits 16 ds : Int)
    | '0' :: 'o' :: cs => (digitRun? 8 cs).map fun ds => (ofDigits 8 ds : Int)
    | '0' :: 'b' :: cs => (digitRun? 2 cs).map fun ds => (ofDigits 2 ds : Int)
    | cs =>
      let (negative, digits) := signed cs
      (plainDigits? digits).map fun ds =>
        if negative then -(ofDigits 10 ds : Int) else ofDigits 10 ds
  n?.filter fun n => -Int.pow 2 63 ≤ n && n < Int.pow 2 63

/-! ## Floating-point numbers -/

/-- Splits a text at the first character of a kind, which belongs to neither part. -/
def splitAt? (mark : Char → Bool) (cs : List Char) : List Char × Option (List Char) :=
  match cs.dropWhile fun c => !mark c with
  | [] => (cs, none)
  | _ :: rest => (cs.takeWhile fun c => !mark c, some rest)

/-- Reads a part that may be missing. -/
def optional? {α β : Type} (read : α → Option β) (absent : β) : Option α → Option β
  | none => some absent
  | some part => read part

/-- The power of ten of a floating-point number. -/
def exponent? (cs : List Char) : Option Int :=
  let (negative, digits) := signed cs
  (digitRun? 10 digits).map fun ds => if negative then -(ofDigits 10 ds : Int) else ofDigits 10 ds

/-- A floating-point number in digits, with a fraction, an exponent or both. -/
def decimalFloat? (negative : Bool) (cs : List Char) : Option Binary64 := do
  let (mantissa, exponent) := splitAt? (fun c => c = 'e' || c = 'E') cs
  let (whole, fraction) := splitAt? (· = '.') mantissa
  if fraction = none ∧ exponent = none then none
  else
    let whole ← plainDigits? whole
    let fraction ← optional? (digitRun? 10) [] fraction
    let exponent ← optional? exponent? 0 exponent
    some (.ofDecimal negative (ofDigits 10 (whole ++ fraction)) (exponent - fraction.length))

/-- A floating-point number. Digits that stand for a number above all doubles are refused, those for
a number below all doubles are read as minus infinity. -/
def float? (word : List Char) : Option Binary64 :=
  let (negative, cs) := signed word
  if cs = ['i', 'n', 'f'] then some (.infinite negative)
  else if cs = ['n', 'a', 'n'] then some .nan
  else (decimalFloat? negative cs).filter fun x => x ≠ .infinite false

/-! ## Dates and times -/

/-- Reads exactly the given number of digits. -/
def number? (count : Nat) : Reader Nat := fun cs => do
  let digits := cs.take count
  if digits.length = count then
    some (← numberOfDigits? 10 digits, cs.drop count)
  else none

/-- Reads a number in a range behind a mark. -/
def marked? (mark : Char) (low high : Nat) : Reader Nat
  | c :: cs => do
    let (n, rest) ← number? 2 cs
    if c = mark ∧ low ≤ n ∧ n ≤ high then some (n, rest) else none
  | [] => none

def isLeapYear (year : Nat) : Bool :=
  year % 4 = 0 && (year % 100 ≠ 0 || year % 400 = 0)

def daysOfMonth (year month : Nat) : Nat :=
  if month = 2 then (if isLeapYear year then 29 else 28)
  else if month ∈ [4, 6, 9, 11] then 30
  else 31

/-- Takes a date away: year, month and day with hyphens between them. -/
def afterDate? (cs : List Char) : Option (List Char) := do
  let (year, rest) ← number? 4 cs
  let (month, rest) ← marked? '-' 1 12 rest
  let (_, rest) ← marked? '-' 1 (daysOfMonth year month) rest
  some rest

/-- Takes the fraction of a second away, if there is one. -/
def afterFraction? : List Char → Option (List Char)
  | '.' :: cs => if (cs.takeWhile Char.isDigit) = [] then none else some (cs.dropWhile Char.isDigit)
  | cs => some cs

/-- Takes a time of day away. The last minute of a day may have a leap second. -/
def afterTime? (cs : List Char) : Option (List Char) := do
  let (hour, rest) ← number? 2 cs
  let (_, rest) ← marked? ':' 0 59 rest
  let (_, rest) ← marked? ':' 0 60 rest
  if hour ≤ 23 then afterFraction? rest else none

/-- Whether a text is an offset from universal time, or nothing. -/
def isOffset : List Char → Bool
  | [] => true
  | [c] => c = 'Z' || c = 'z'
  | c :: cs =>
    (c = '+' || c = '-') &&
    match number? 2 cs with
    | some (hour, rest) => hour ≤ 23 && (marked? ':' 0 59 rest).any fun (_, rest) => rest = []
    | none => false

def isDate (cs : List Char) : Bool := afterDate? cs = some []

/-- Whether a text is a date, a time of day, or both. -/
def isMoment (cs : List Char) : Bool :=
  match afterDate? cs with
  | none => afterTime? cs = some []
  | some [] => true
  | some (c :: time) =>
    (c = 'T' || c = 't' || c = ' ') && (afterTime? time).any isOffset

/-! ## Words -/

def isWordChar (c : Char) : Bool :=
  c.isAlphanum || c = '_' || c = '+' || c = '-' || c = '.' || c = ':'

/-- The word in front of a text. A date and a time with one space between them are one word. -/
def word (cs : List Char) : List Char :=
  let first := cs.takeWhile isWordChar
  match cs.drop first.length with
  | ' ' :: c :: rest =>
    if isDate first && c.isDigit then first ++ ' ' :: (c :: rest).takeWhile isWordChar else first
  | _ => first

def Value.ofWord? (word : List Char) : Option Value :=
  if word = "true".toList then some (.boolean true)
  else if word = "false".toList then some (.boolean false)
  else if isMoment word then some (.moment (String.ofList word))
  else (integer? word).map .integer <|> (float? word).map .float

end LaptopCatalogue.Toml
