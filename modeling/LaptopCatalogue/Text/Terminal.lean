/-!
# Text for a terminal

A program marks words in its messages with escape sequences, which a terminal takes as commands. If
no terminal reads along, the sequences are left out, and with them all controls that are no blanks.
Sequences that come from the outside, in an argument or in a variable, are left out in the same way,
and one that does not end takes what follows with it.

* `marked`: a word between two sequences.
* `withoutSequences`: what is left of a text for a reader without a terminal.
-/

namespace LaptopCatalogue

namespace Terminal

/-- The character that begins a sequence. -/
def escape : Char := '\x1b'

/-- A word in a message, with a sequence before and behind it. -/
def marked (word : String) : String :=
  String.ofList [escape, '[', '1', 'm'] ++ word ++ String.ofList [escape, '[', '0', 'm']

/-- Where a reader is in a sequence. -/
inductive Stage where
  /-- Outside of all sequences. -/
  | ground
  | escape
  /-- Behind the escape character and marks that belong to it. -/
  | marks
  /-- In a control sequence, which a letter ends. -/
  | control
  /-- In the parameters of a device control string. -/
  | device
  | string
  /-- In a command for the system behind the terminal, which a bell ends. -/
  | command
deriving DecidableEq, Repr

namespace Stage

/-- The stage behind the first character of a sequence. -/
def afterEscape (c : Char) : Stage :=
  if c < '0' then .marks
  else if c = '[' then .control
  else if c = ']' then .command
  else if c = 'P' then .device
  else if c = 'X' || c = '^' || c = '_' then .string
  else .ground

/-- The stage behind a printable ASCII character. -/
def next (stage : Stage) (c : Char) : Stage :=
  match stage with
  | .ground => .ground
  | .escape => afterEscape c
  | .marks => if c < '0' then .marks else .ground
  | .control => if c < '@' then .control else .ground
  | .device => if c < '@' then .device else .string
  | .string => .string
  | .command => .command

/-- Whether a character is written in more than one byte. -/
def isWide (c : Char) : Bool := 0x80 ≤ c.toNat

/-- Whether a character is a blank among the controls. -/
def isBlankControl (c : Char) : Bool := c = '\t' || c = '\n' || c = '\x0c' || c = '\r'

/-- Whether a character outside of all sequences stays. -/
def isShown (c : Char) : Bool :=
  if c < ' ' then isBlankControl c else c ≠ '\x7f'

/-- Whether a blank among the controls stays although it stands inside of a sequence. -/
def showsBlanks : Stage → Bool
  | .ground | .escape | .marks | .control => true
  | .device | .string | .command => false

/-- The stage behind a character. Two controls end every sequence, and so does the byte `0x9c` in
most strings, even if it is a part of a character. -/
def after (stage : Stage) (c : Char) : Stage :=
  if c = '\x18' || c = '\x1a' then .ground
  else if c = Terminal.escape then .escape
  else if c < ' ' then if c = '\x07' && stage = .command then .ground else stage
  else if c = '\x7f' then stage
  else if isWide c then
    if stage = .string && (String.utf8EncodeChar c).contains 0x9c then .ground else stage
  else stage.next c

def shows (stage : Stage) (c : Char) : Bool :=
  if stage = .ground then isShown c else isBlankControl c && stage.showsBlanks

end Stage

structure Reader where
  stage : Stage := .ground
  /-- Whether the last character stayed. Then the next one stays as if it stood outside of all
  sequences, even if a blank inside of one began this. -/
  showing : Bool := false
deriving DecidableEq, Repr

namespace Reader

/-- Whether the next character stays. -/
def shows (r : Reader) (c : Char) : Bool :=
  if r.showing && Stage.isShown c then true else r.stage.shows c

def after (r : Reader) (c : Char) : Reader :=
  if r.showing && Stage.isShown c then
    { r with stage := if Stage.isWide c then .ground else r.stage }
  else { stage := r.stage.after c, showing := r.stage.shows c }

/-- The characters of a text that stay. -/
def shown : Reader → List Char → List Char
  | _, [] => []
  | r, c :: cs => if r.shows c then c :: shown (r.after c) cs else shown (r.after c) cs

end Reader

/-- A text without sequences and without controls that are no blanks. -/
def withoutSequences (text : String) : String :=
  String.ofList (Reader.shown {} text.toList)

end Terminal

end LaptopCatalogue
