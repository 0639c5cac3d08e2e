import LaptopCatalogue.Text.Blank
import LaptopCatalogue.Text.Digits
import LaptopCatalogue.Text.Letters

/-!
# Patterns for the values of fields

A filter of the log may ask for the values of a field by a regular expression. Only its syntax
matters here, because the values belong to spans. A pattern stands between braces in a list with
commas, so it holds no closing brace and no repetition with a count.

There are tables for neither upper and lower case nor the classes of characters, so patterns that
ask for them are refused, unless they are restricted to ASCII. Such a restriction in turn refuses
what matches a part of a character.

* `Pattern.isValid`: whether a text is a pattern.
-/

namespace LaptopCatalogue

namespace Pattern

/-- The modes of a pattern that decide what it may say. -/
structure Modes where
  /-- Letters of either case match each other. -/
  anyCase : Bool := false
  /-- Blanks and comments between the parts mean nothing. -/
  spaced : Bool := false
  /-- The pattern speaks about all characters and not only about ASCII. -/
  unicode : Bool := true
deriving DecidableEq, Repr

/-! ## Parts of a pattern -/

/-- Drops blanks, and comments from a number sign to the end of the line. -/
def skipBlanks : (inComment : Bool) → List Char → List Char
  | _, [] => []
  | true, c :: cs => skipBlanks (c ≠ '\n') cs
  | false, c :: cs =>
    if isBlank c then skipBlanks false cs
    else if c = '#' then skipBlanks true cs
    else c :: cs

/-- Drops what means nothing in a mode. -/
def Modes.skip (m : Modes) (cs : List Char) : List Char :=
  if m.spaced then skipBlanks false cs else cs

/-- What a pattern says at one place, apart from its structure. -/
inductive Atom where
  | literal (c : Char)
  /-- A byte by its number that is no ASCII character. -/
  | highByte (c : Char)
  /-- A class of characters by a letter: digits, blanks, or letters of words. -/
  | letterClass (negated : Bool)
  /-- A class of characters by a property. -/
  | property
  | anchor
  | wordEnd
deriving DecidableEq, Repr

/-- Reads hexadecimal digits. Blanks between them are dropped in a mode with blanks. -/
def hexDigits? (m : Modes) : (count : Nat) → (number : Nat) → List Char → Option (Nat × List Char)
  | 0, number, cs => some (number, cs)
  | _ + 1, _, [] => none
  | count + 1, number, c :: cs => do
    hexDigits? m count (number * 16 + (← hexValue? c)) (m.skip cs)

/-- Reads the character with a number that has a fixed count of digits. -/
def coded? (m : Modes) (count : Nat) (cs : List Char) : Option (Char × List Char) := do
  let (number, rest) ← hexDigits? m count 0 (m.skip cs)
  if number.isValidChar then some (Char.ofNat number, rest) else none

/-- Whether a backslash in front of an ASCII mark stands for the mark itself. -/
def isMark (c : Char) : Bool := c.toNat < 0x80 && !c.isAlphanum && c ≠ '<' && c ≠ '>'

/-- Reads what follows a backslash. -/
def escaped? (m : Modes) : List Char → Option (Atom × List Char)
  | [] => none
  | 'x' :: cs => do
    let (c, rest) ← coded? m 2 cs
    some (if 0x80 ≤ c.toNat then .highByte c else .literal c, rest)
  | 'u' :: cs => do
    let (c, rest) ← coded? m 4 cs
    some (.literal c, rest)
  | 'U' :: cs => do
    let (c, rest) ← coded? m 8 cs
    some (.literal c, rest)
  | c :: cs =>
    if isMark c then some (.literal c, cs)
    else if c = 'd' || c = 's' || c = 'w' then some (.letterClass false, cs)
    else if c = 'D' || c = 'S' || c = 'W' then some (.letterClass true, cs)
    else if c = 'p' || c = 'P' then some (.property, cs)
    else if c = 'A' || c = 'z' then some (.anchor, cs)
    else if c = 'b' || c = 'B' || c = '<' || c = '>' then some (.wordEnd, cs)
    else
      let control? := [('a', '\x07'), ('f', '\x0c'), ('t', '\t'), ('n', '\n'), ('r', '\r'),
        ('v', '\x0b')].lookup c
      control?.map fun control => (.literal control, cs)

/-- Whether an atom outside of brackets is possible in a mode. -/
def Atom.stands (m : Modes) : Atom → Bool
  | .literal _ => !(m.unicode && m.anyCase)
  | .highByte _ => m.unicode && !m.anyCase
  | .letterClass negated => !m.unicode && !negated
  | .property => false
  | .anchor => true
  | .wordEnd => !m.unicode

/-- Whether an atom inside of brackets is possible in a mode. -/
def Atom.standsInBrackets (m : Modes) : Atom → Bool
  | .literal c => m.unicode || c.toNat < 0x80
  | .highByte _ => m.unicode
  | .letterClass negated => !m.unicode && !negated
  | .property | .anchor | .wordEnd => false

/-- The character of an atom that can be the end of a range. -/
def Atom.character? : Atom → Option Char
  | .literal c | .highByte c => some c
  | _ => none

/-! ## Brackets -/

def classNames : List String :=
  ["alnum", "alpha", "ascii", "blank", "cntrl", "digit", "graph", "lower", "print", "punct",
    "space", "upper", "word", "xdigit"]

/-- Reads an ASCII class behind its opening bracket, and whether it is negated. -/
def namedClass? (cs : List Char) : Option (Bool × List Char) :=
  match cs with
  | ':' :: cs =>
    let (negated, cs) := match cs with
      | '^' :: cs => (true, cs)
      | cs => (false, cs)
    let name := cs.takeWhile (· ≠ ':')
    match cs.drop name.length with
    | ':' :: ']' :: rest =>
      if classNames.contains (String.ofList name) then some (negated, rest) else none
    | _ => none
  | _ => none

/-- Reads one atom inside of brackets. -/
def bracketAtom? (m : Modes) : List Char → Option (Atom × List Char)
  | [] => none
  | '\\' :: cs => escaped? m cs
  | c :: cs => some (.literal c, cs)

/-- Reads an atom or a range inside of brackets. A hyphen in front of a closing bracket or of
another hyphen makes no range. -/
def bracketItem? (m : Modes) (cs : List Char) : Option (List Char) := do
  let (first, rest) ← bracketAtom? m cs
  let single := if first.standsInBrackets m then some (m.skip rest) else none
  match m.skip rest with
  | '-' :: behind =>
    match m.skip behind with
    | [] => none
    | ']' :: _ | '-' :: _ => single
    | next => do
      let (last, rest) ← bracketAtom? m next
      let low ← first.character?
      let high ← last.character?
      if low ≤ high && first.standsInBrackets m && last.standsInBrackets m then some rest else none
  | _ => single

/-- The height of a sequence: one more than its highest part, if it has several parts. -/
def sequenceHeight : List Nat → Nat
  | [] => 0
  | [height] => height
  | heights => heights.foldl max 0 + 1

structure OpenBrackets where
  /-- The heights of the items behind the last operator. -/
  items : List Nat := []
  /-- The height of what stands in front of the last operator. -/
  left : Option Nat := none
deriving DecidableEq, Repr

namespace OpenBrackets

def add (b : OpenBrackets) (height : Nat) : OpenBrackets := { b with items := height :: b.items }

/-- The height of what stands between the brackets. -/
def height (b : OpenBrackets) : Nat :=
  match b.left with
  | none => sequenceHeight b.items
  | some left => max left (sequenceHeight b.items) + 1

/-- The brackets behind an operator. -/
def operator (b : OpenBrackets) : OpenBrackets := { left := some b.height }

end OpenBrackets

/-- Reads hyphens, and counts them. -/
def hyphens (m : Modes) : (fuel : Nat) → List Char → Nat × List Char
  | fuel + 1, '-' :: cs =>
    let (count, rest) := hyphens m fuel (m.skip cs)
    (count + 1, rest)
  | _, cs => (0, cs)

/-- Reads what can stand only behind an opening bracket: a negation, hyphens, and a closing bracket
that stands for itself. -/
def bracketFront? (m : Modes) (cs : List Char) : Option (OpenBrackets × List Char) :=
  let cs := m.skip cs
  let (negated, cs) := match cs with
    | '^' :: cs => (true, m.skip cs)
    | cs => (false, cs)
  let (count, rest) := match cs with
    | ']' :: cs => (1, m.skip cs)
    | cs => hyphens m cs.length cs
  if (negated && !m.unicode) || rest = [] then none
  else some ({ items := List.replicate count 0 }, rest)

/-- Reads brackets up to the closing one, and gives their height. Brackets around them are open as
well, the nearest ones first. -/
def brackets? (m : Modes) :
    (fuel : Nat) → OpenBrackets → List OpenBrackets → List Char → Option (Nat × List Char)
  | 0, _, _, _ => none
  | fuel + 1, b, outer, cs =>
    match m.skip cs with
    | [] => none
    | ']' :: rest =>
      match outer with
      | [] => some (b.height + 1, rest)
      | next :: outer => brackets? m fuel (next.add (b.height + 1)) outer rest
    | '[' :: rest =>
      match namedClass? rest with
      | some (negated, rest) =>
        if negated && !m.unicode then none else brackets? m fuel (b.add 0) outer rest
      | none => do
        let (inner, rest) ← bracketFront? m rest
        brackets? m fuel inner (b :: outer) rest
    | '&' :: '&' :: rest | '-' :: '-' :: rest | '~' :: '~' :: rest =>
      brackets? m fuel b.operator outer rest
    | cs => do brackets? m fuel (b.add 0) outer (← bracketItem? m cs)

/-! ## Groups -/

/-- Reads the letters that change the modes of a group, up to a colon or a closing parenthesis. The
letters so far are given in reverse. -/
def modeLetters? (sofar : List Char) : List Char → Option (List Char × List Char)
  | [] => none
  | c :: cs =>
    if c = ':' || c = ')' then
      if sofar.head? = some '-' then none else some (sofar.reverse, c :: cs)
    else if ['-', 'i', 'm', 's', 'U', 'u', 'R', 'x'].contains c && !sofar.contains c then
      modeLetters? (c :: sofar) cs
    else none

def Modes.set (m : Modes) (letter : Char) (on : Bool) : Modes :=
  match letter with
  | 'i' => { m with anyCase := on }
  | 'x' => { m with spaced := on }
  | 'u' => { m with unicode := on }
  | _ => m

/-- The modes behind letters. Those behind a hyphen are unset. -/
def Modes.change (m : Modes) (letters : List Char) : Modes :=
  let on := letters.takeWhile (· ≠ '-')
  let off := (letters.dropWhile (· ≠ '-')).drop 1
  off.foldl (fun m c => m.set c false) (on.foldl (fun m c => m.set c true) m)

def beginsName (c : Char) : Bool := c = '_' || isLetter c

def continuesName (c : Char) : Bool :=
  c = '_' || c = '.' || c = '[' || c = ']' || isLetterOrNumber c

/-- Reads the name of a group up to a closing angle bracket. -/
def groupName? (cs : List Char) : Option (String × List Char) :=
  let name := cs.takeWhile (· ≠ '>')
  match name, cs.drop name.length with
  | first :: others, _ :: rest =>
    if beginsName first && others.all continuesName then some (String.ofList name, rest) else none
  | _, _ => none

/-! ## Patterns -/

/-- A group that is open, or the whole pattern. -/
structure OpenGroup where
  modes : Modes := {}
  /-- The heights of the parts of the branch that is read, the last one first. Letters that change
  the modes are a part without a height. -/
  parts : List (Option Nat) := []
  /-- The heights of the branches before. -/
  branches : List Nat := []
deriving DecidableEq, Repr

namespace OpenGroup

def add (g : OpenGroup) (height : Nat) : OpenGroup := { g with parts := some height :: g.parts }

/-- The group behind a bar. -/
def bar (g : OpenGroup) : OpenGroup :=
  { g with parts := [], branches := sequenceHeight (g.parts.map (·.getD 0)) :: g.branches }

/-- The height of what stands in the group. -/
def height (g : OpenGroup) : Nat := sequenceHeight g.bar.branches

/-- The group with its last part repeated. -/
def repeatLast? (g : OpenGroup) : Option OpenGroup :=
  match g.parts with
  | some height :: parts => some { g with parts := some (height + 1) :: parts }
  | _ => none

end OpenGroup

def maxHeight : Nat := 250

structure Reader where
  group : OpenGroup := {}
  /-- The groups around it, the nearest one first. -/
  outer : List OpenGroup := []
  names : List String := []
deriving DecidableEq, Repr

namespace Reader

def modes (r : Reader) : Modes := r.group.modes

def add (r : Reader) (height : Nat) : Reader := { r with group := r.group.add height }

def enter (r : Reader) (modes : Modes) : Reader :=
  { r with group := { modes }, outer := r.group :: r.outer }

/-- Reads an opening parenthesis and what belongs to it. -/
def open? (r : Reader) (cs : List Char) : Option (Reader × List Char) :=
  let named (cs : List Char) : Option (Reader × List Char) := do
    let (name, rest) ← groupName? cs
    if r.names.contains name then none
    else some ({ r.enter r.modes with names := name :: r.names }, rest)
  match r.modes.skip cs with
  | '?' :: 'P' :: '<' :: rest => named rest
  | '?' :: '<' :: rest => named rest
  | '?' :: rest =>
    match modeLetters? [] rest with
    | some (letters, ':' :: rest) => some (r.enter (r.modes.change letters), rest)
    | some (letters, _ :: rest) =>
      if letters = [] then none
      else
        let group := { r.group with
          modes := r.modes.change letters, parts := none :: r.group.parts }
        some ({ r with group }, rest)
    | _ => none
  | rest => some (r.enter r.modes, rest)

def close? (r : Reader) : Option Reader :=
  match r.outer with
  | group :: outer => some { r with group := group.add (r.group.height + 1), outer }
  | [] => none

def atom? (r : Reader) (atom : Atom) : Option Reader :=
  if atom.stands r.modes then some (r.add 0) else none

/-- Reads a mark of repetition. A question mark behind it belongs to it. -/
def repeat? (r : Reader) (rest : List Char) : Option (Reader × List Char) := do
  let group ← r.group.repeatLast?
  let rest := match rest with
    | '?' :: rest => rest
    | rest => rest
  some ({ r with group }, rest)

def next? (r : Reader) : List Char → Option (Reader × List Char)
  | [] => none
  | '(' :: rest => r.open? rest
  | ')' :: rest => r.close?.map (·, rest)
  | '|' :: rest => some ({ r with group := r.group.bar }, rest)
  | '[' :: rest =>
    if r.modes.unicode && r.modes.anyCase then none
    else do
      let (brackets, rest) ← bracketFront? r.modes rest
      let (height, rest) ← brackets? r.modes (rest.length + 1) brackets [] rest
      some (r.add height, rest)
  | '?' :: rest | '*' :: rest | '+' :: rest => r.repeat? rest
  | '\x7b' :: _ => none
  | '.' :: rest => if r.modes.unicode then some (r.add 0, rest) else none
  | '^' :: rest | '$' :: rest => (r.atom? .anchor).map (·, rest)
  | '\\' :: cs => do
    let (atom, rest) ← escaped? r.modes cs
    (r.atom? atom).map (·, rest)
  | c :: rest => (r.atom? (.literal c)).map (·, rest)

/-- Whether the rest of a pattern is in order. -/
def accepts : (fuel : Nat) → Reader → List Char → Bool
  | 0, _, _ => false
  | fuel + 1, r, cs =>
    match r.modes.skip cs with
    | [] => r.outer.isEmpty && r.group.height ≤ maxHeight
    | cs =>
      match r.next? cs with
      | some (r, rest) => accepts fuel r rest
      | none => false

end Reader

def isValid (text : List Char) : Bool := Reader.accepts (text.length + 1) {} text

end Pattern

end LaptopCatalogue
