import LaptopCatalogue.Text.Digits

/-!
# Characters, strings and keys of TOML

Readers take characters off the front of a text and give what they read together with the rest.
They give nothing if the text does not begin as it should.

* `quotedText`: a string in one pair of double quotes.
* `longQuotedText`, `longPlainText`: a string in three quotes, which may run over several lines.
* `keyPath?`: keys with points between them.
-/

namespace LaptopCatalogue.Toml

/-- What a reader makes of a text: something, and the rest of the text. -/
abbrev Reader (α : Type) := List Char → Option (α × List Char)

/-! ## Character classes -/

/-- Space and tab. -/
def isBlankChar (c : Char) : Bool := c = ' ' || c = '\t'

/-- Tab and the characters that are no controls. They may stand in comments, and most of them in
strings. -/
def isTextChar (c : Char) : Bool :=
  c = '\t' || (0x20 ≤ c.toNat && c.toNat ≤ 0x7e) || 0x80 ≤ c.toNat

/-- The characters of a key without quotes. -/
def isKeyChar (c : Char) : Bool :=
  c.isAlphanum || c = '_' || c = '-'

def skipBlanks (cs : List Char) : List Char := cs.dropWhile isBlankChar

/-- Takes the end of a line away: a line feed, with or without a carriage return before it. -/
def endOfLine? : List Char → Option (List Char)
  | '\n' :: cs => some cs
  | '\r' :: '\n' :: cs => some cs
  | _ => none

/-- Drops a comment, which ends in front of the first character that may not stand in it. -/
def skipComment : List Char → List Char
  | '#' :: cs => cs.dropWhile isTextChar
  | cs => cs

/-- Drops blanks, ends of lines and comments. The budget is the number of lines to pass at most. -/
def skipLines : (budget : Nat) → List Char → List Char
  | 0, cs => cs
  | budget + 1, cs =>
    let cs := skipComment (skipBlanks cs)
    match endOfLine? cs with
    | some rest => skipLines budget rest
    | none => cs

/-- Drops all blanks, ends of lines and comments in front of something else. -/
def skipLayout (cs : List Char) : List Char := skipLines (cs.length + 1) cs

/-! ## Escapes -/

/-- The character with a code point given by its hexadecimal digits. -/
def charOfHex? (cs : List Char) : Option Char := do
  let n ← numberOfDigits? 16 cs
  if n.isValidChar then some (Char.ofNat n) else none

/-- The character for which a letter behind a backslash stands. -/
def escapeLetter? : Char → Option Char
  | 'b' => some '\x08'
  | 't' => some '\t'
  | 'n' => some '\n'
  | 'f' => some '\x0c'
  | 'r' => some '\r'
  | '"' => some '"'
  | '\\' => some '\\'
  | _ => none

def precede (c : Char) : List Char × List Char → List Char × List Char
  | (text, rest) => (c :: text, rest)

/-! ## Strings -/

/-- The rest of a string behind one double quote. -/
def quotedText : Reader (List Char)
  | [] => none
  | '"' :: rest => some ([], rest)
  | '\\' :: 'u' :: a :: b :: c :: d :: rest => do
    some (precede (← charOfHex? [a, b, c, d]) (← quotedText rest))
  | '\\' :: 'U' :: a :: b :: c :: d :: e :: f :: g :: h :: rest => do
    some (precede (← charOfHex? [a, b, c, d, e, f, g, h]) (← quotedText rest))
  | '\\' :: letter :: rest => do
    some (precede (← escapeLetter? letter) (← quotedText rest))
  | c :: rest => if isTextChar c then (quotedText rest).map (precede c) else none

/-- The rest of a string behind one single quote. Nothing is escaped there. -/
def plainText : Reader (List Char)
  | [] => none
  | '\'' :: rest => some ([], rest)
  | c :: rest => if isTextChar c then (plainText rest).map (precede c) else none

/-- Drops the end of a line at the beginning of a string in three quotes. -/
def dropFirstLineEnd (cs : List Char) : List Char := (endOfLine? cs).getD cs

/-- Whether a line ends here, except for blanks. -/
def lineEndsHere (cs : List Char) : Bool := (endOfLine? (skipBlanks cs)).isSome

/-- The rest of a string behind three double quotes. It ends with the first three quotes, and up to
two more of them right behind still belong to it. Behind a backslash at the end of a line all blanks
and ends of lines are skipped. -/
def longQuotedText (skipping : Bool) : Reader (List Char)
  | [] => none
  | '"' :: '"' :: '"' :: '"' :: '"' :: rest => some (['"', '"'], rest)
  | '"' :: '"' :: '"' :: '"' :: rest => some (['"'], rest)
  | '"' :: '"' :: '"' :: rest => some ([], rest)
  | '\r' :: '\n' :: rest =>
    if skipping then longQuotedText true rest
    else (longQuotedText false rest).map (precede '\n')
  | '\n' :: rest =>
    if skipping then longQuotedText true rest
    else (longQuotedText false rest).map (precede '\n')
  | '\\' :: 'u' :: a :: b :: c :: d :: rest => do
    some (precede (← charOfHex? [a, b, c, d]) (← longQuotedText false rest))
  | '\\' :: 'U' :: a :: b :: c :: d :: e :: f :: g :: h :: rest => do
    some (precede (← charOfHex? [a, b, c, d, e, f, g, h]) (← longQuotedText false rest))
  | '\\' :: letter :: rest =>
    if lineEndsHere (letter :: rest) then longQuotedText true (letter :: rest)
    else do some (precede (← escapeLetter? letter) (← longQuotedText false rest))
  | c :: rest =>
    if skipping && isBlankChar c then longQuotedText true rest
    else if isTextChar c then (longQuotedText false rest).map (precede c)
    else none

/-- The rest of a string behind three single quotes. -/
def longPlainText : Reader (List Char)
  | [] => none
  | '\'' :: '\'' :: '\'' :: '\'' :: '\'' :: rest => some (['\'', '\''], rest)
  | '\'' :: '\'' :: '\'' :: '\'' :: rest => some (['\''], rest)
  | '\'' :: '\'' :: '\'' :: rest => some ([], rest)
  | '\r' :: '\n' :: rest => (longPlainText rest).map (precede '\n')
  | '\n' :: rest => (longPlainText rest).map (precede '\n')
  | c :: rest => if isTextChar c then (longPlainText rest).map (precede c) else none

/-- A string in any of the four ways to quote. -/
def string? : Reader String := fun cs =>
  let text? := match cs with
    | '"' :: '"' :: '"' :: rest => longQuotedText false (dropFirstLineEnd rest)
    | '"' :: rest => quotedText rest
    | '\'' :: '\'' :: '\'' :: rest => longPlainText (dropFirstLineEnd rest)
    | '\'' :: rest => plainText rest
    | _ => none
  text?.map fun (text, rest) => (String.ofList text, rest)

/-! ## Keys -/

/-- One key: in double quotes, in single quotes, or bare. -/
def key? : Reader String
  | '"' :: rest => (quotedText rest).map fun (text, rest) => (String.ofList text, rest)
  | '\'' :: rest => (plainText rest).map fun (text, rest) => (String.ofList text, rest)
  | cs =>
    let bare := cs.takeWhile isKeyChar
    if bare = [] then none else some (String.ofList bare, cs.drop bare.length)

/-- Keys with points between them and blanks around them, given as all but the last key and the last
key. The budget is the number of keys that a path may have. -/
def keyPath? : (budget : Nat) → Reader (List String × String)
  | 0, _ => none
  | budget + 1, cs => do
    let (key, rest) ← key? (skipBlanks cs)
    match skipBlanks rest with
    | '.' :: rest =>
      let ((keys, last), rest) ← keyPath? budget rest
      some ((key :: keys, last), rest)
    | rest => some (([], key), rest)

def maxKeys : Nat := 79

end LaptopCatalogue.Toml
