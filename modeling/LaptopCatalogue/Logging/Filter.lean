import LaptopCatalogue.Logging.Level
import LaptopCatalogue.Logging.Pattern
import LaptopCatalogue.Text.Blank
import LaptopCatalogue.Text.Digits
import LaptopCatalogue.Text.Letters
import LaptopCatalogue.Text.Slice

/-!
# Filters of the log

A filter decides which events are written. It is a list of directives with commas between them, each
of which sets a limit for the parts of the program whose names begin with a text:

* `info`: a limit for all parts;
* `daemon=debug`: a limit for one part;
* `daemon`: no limit for one part;
* `daemon[call]=debug`: a limit that holds only inside of a span;
* `daemon[{count}]=debug`: a limit for events with a field;
* `daemon[{count=3}]=debug`: a limit inside of spans with a field whose value matches a pattern.

Of all directives that speak about an event the most specific one decides.

The structure of a directive is found without the blanks at its ends, but names and limits are cut
out of the text with these blanks, at the same positions. So a blank in front shifts them, and they
may be cut in the middle of a character.
-/

namespace LaptopCatalogue

/-- Why a text is no filter. -/
inductive FilterFault where
  | malformed
  /-- A name or a limit is cut in the middle of a character. -/
  | brokenCharacter
deriving DecidableEq, Repr

structure Directive where
  /-- The beginning of the names of the parts it speaks about, if not about all. -/
  target : Option String
  /-- How much is written. Nothing is at 0. -/
  verbosity : Nat
  /-- Whether it speaks only about what happens inside of certain spans. -/
  insideSpan : Bool := false
  /-- The field that an event must have. -/
  field : Option String := none
deriving DecidableEq, Repr

namespace Directive

/-! ## Limits and fields -/

/-- The number of a decimal text that may have a plus sign. -/
def number? (cs : List Char) : Option Nat :=
  match cs with
  | '+' :: d :: ds => numberOfDigits? 10 (d :: ds)
  | d :: ds => numberOfDigits? 10 (d :: ds)
  | [] => none

/-- The limit with a name, in either case, or with a number. -/
def limit? (text : String) : Option Nat :=
  match number? text.toList with
  | some n => if n ≤ 5 then some n else none
  | none =>
    let lower := String.ofList (text.toList.map Char.toLower)
    if lower = "off" then some 0
    else
      let level? := Level.all.find? fun level => level.name.toList.map Char.toLower = lower.toList
      level?.map Level.verbosity

/-- Whether a directive may begin with a character. -/
def mayBegin (c : Char) : Bool := c = '-' || c = ':' || c = '_' || isLetterOrNumber c

def dropSign : List Char → List Char
  | '+' :: cs | '-' :: cs => cs
  | cs => cs

/-- Whether a text is the number of a double. -/
def isNumber (text : List Char) : Bool :=
  let cs := (dropSign text).map Char.toLower
  let whole := cs.takeWhile Char.isDigit
  let (part, rest) := match cs.drop whole.length with
    | '.' :: cs => (cs.takeWhile Char.isDigit, cs.dropWhile Char.isDigit)
    | cs => ([], cs)
  let exponentFits := match rest with
    | [] => true
    | 'e' :: cs => dropSign cs ≠ [] && (dropSign cs).all Char.isDigit
    | _ => false
  ["inf", "infinity", "nan"].contains (String.ofList cs) ||
    ((whole ≠ [] || part ≠ []) && exponentFits)

/-- The name of a field, and whether its value matters. A value is a number or a pattern; what
follows a second equals sign means nothing. -/
def field? (text : List Char) : Option (String × Bool) :=
  match text.splitOn '=' with
  | [name] => if name = [] then none else some (String.ofList name, false)
  | name :: value :: _ =>
    if isNumber value || Pattern.isValid value then some (String.ofList name, true) else none
  | [] => none

/-! ## Reading -/

/-- The part of a directive between two positions. -/
def part (start stop : Nat) (all : List Char) : Except FilterFault (List Char) :=
  match slice? start stop all with
  | some cs => .ok cs
  | none => .error .brokenCharacter

/-- The limit that is written from a position on. Without one there is no limit. -/
def limitFrom (start : Nat) (all : List Char) : Except FilterFault Nat := do
  let text ← part start (byteLength all) all
  if text = [] then .ok Level.trace.verbosity
  else
    match limit? (String.ofList text) with
    | some verbosity => .ok verbosity
    | none => .error .malformed

/-- The limit behind brackets, with the position at which the rest begins. -/
def limitBehind (all : List Char) (position : Nat) : List Char → Except FilterFault Nat
  | [] => .ok Level.trace.verbosity
  | '=' :: _ => limitFrom (position + 1) all
  | _ => .error .malformed

/-- The field between braces and what follows it, with the position at which the field begins. -/
def withField (all : List Char) (target : Option String) (spanNamed : Bool) (position : Nat)
    (rest : List Char) : Except FilterFault Directive := do
  let inner := rest.takeWhile (· ≠ '\x7d')
  let stop := position + byteLength inner
  match rest.drop inner.length with
  | _ :: behind =>
    match field? (← part position stop all), behind with
    | some (name, hasValue), ']' :: behind =>
      .ok { target, verbosity := ← limitBehind all (stop + 2) behind
            insideSpan := spanNamed || hasValue, field := some name }
    | _, _ => .error .malformed
  | [] => .error .malformed

/-- The span between brackets and what follows it, with the position at which the span begins. -/
def withSpan (all : List Char) (target : Option String) (position : Nat) (rest : List Char) :
    Except FilterFault Directive := do
  let inner := rest.takeWhile fun c => c ≠ ']' && c ≠ '\x7b'
  let stop := position + byteLength inner
  match rest.drop inner.length with
  | ']' :: behind =>
    let _ ← part position stop all
    .ok { target, verbosity := ← limitBehind all (stop + 1) behind, insideSpan := true }
  | _ :: behind =>
    let _ ← part position stop all
    withField all target (!inner.isEmpty) (stop + 1) behind
  | [] => .error .malformed

def ofText (text : String) : Except FilterFault Directive := do
  let all := text.toList
  match trimmed all with
  | [] => .error .malformed
  | '[' :: rest => withSpan all none 1 rest
  | first :: others =>
    let name := (first :: others).takeWhile fun c => c ≠ '=' && c ≠ '['
    let stop := byteLength name
    if !mayBegin first then .error .malformed
    else
      match (first :: others).drop name.length with
      | [] =>
        match limit? text with
        | some verbosity => .ok { target := none, verbosity }
        | none => .ok { target := some text, verbosity := Level.trace.verbosity }
      | mark :: rest =>
        let target := some (String.ofList (← part 0 stop all))
        if mark = '[' then withSpan all target (stop + 1) rest
        else .ok { target, verbosity := ← limitFrom (stop + 1) all }

/-! ## Meaning -/

/-- Whether a directive speaks about events of a part of the program outside of all spans. -/
def speaksAbout (d : Directive) (target : String) (fields : List String) : Bool :=
  !d.insideSpan && (d.target.getD "").toList.isPrefixOf target.toList &&
    d.field.all fields.contains

/-- Whether one directive is at least as specific as another: first the length of the name counts,
then whether there is a field, and then the order of the names of the fields. -/
def specific (d e : Directive) : Bool :=
  let length (d : Directive) := match d.target with
    | none => 0
    | some target => target.utf8ByteSize + 1
  length e < length d ||
    (length e = length d && match d.field, e.field with
      | some field, some other => !(field < other)
      | none, some _ => false
      | _, none => true)

end Directive

abbrev LogFilter := List Directive

namespace LogFilter

/-- The filter that a program writes by: the events of one of its parts up to a level. -/
def upTo (target : String) (level : Level) : LogFilter :=
  [{ target := some target, verbosity := level.verbosity }]

/-- The filter of a text. Empty directives are left out, and of several faults the first counts. -/
def ofText (text : String) : Except FilterFault LogFilter :=
  (((text.toList.splitOn ',').map String.ofList).filter (· ≠ "")).mapM Directive.ofText

/-- The directive that decides about events of a part of the program: of those that speak about it
the most specific one, and the last of several. -/
def deciding? (filter : LogFilter) (target : String) (fields : List String) : Option Directive :=
  (filter.filter fun d => d.speaksAbout target fields).foldl
    (fun best d => match best with
      | none => some d
      | some e => if d.specific e then some d else best)
    none

def admits (filter : LogFilter) (level : Level) (target : String) (fields : List String) : Bool :=
  match filter.deciding? target fields with
  | some d => level.verbosity ≤ d.verbosity
  | none => false

end LogFilter

end LaptopCatalogue
