import LaptopCatalogue.Logging.Level

/-!
# Lines of the log file

A record is written on one line: as plain text, in which characters that would disturb a terminal
are shown by their code, or as a JSON object.
-/

namespace LaptopCatalogue

/-- What a line of the log file says. -/
structure LogRecord where
  level : Level
  /-- The part of the program that speaks. -/
  target : String
  message : String
  fields : List (String × Nat) := []
deriving DecidableEq, Repr

namespace LogRecord

/-! ## Plain text -/

def shownChar (c : Char) : List Char :=
  if c ∈ ['\x07', '\x08', '\x0c', '\x1b', '\x7f'] then
    ['\\', 'x'] ++ (if c.toNat < 16 then ['0'] else []) ++ Nat.toDigits 16 c.toNat
  else if 0x80 ≤ c.toNat ∧ c.toNat ≤ 0x9f then
    ['\\', 'u', '\x7b'] ++ Nat.toDigits 16 c.toNat ++ ['\x7d']
  else [c]

/-- A message in plain text. -/
def shown (message : String) : String := String.ofList (message.toList.flatMap shownChar)

/-- The name of a level, in five characters. -/
def levelColumn (level : Level) : String :=
  String.ofList (List.replicate (5 - level.name.length) ' ') ++ level.name

/-- A record in plain text, without its time. -/
def textLine (r : LogRecord) : String :=
  let fields := r.fields.map fun (name, n) => s!" {name}={n}"
  s!"{levelColumn r.level} {r.target}: {shown r.message}" ++ String.join fields

/-! ## JSON -/

def jsonChar (c : Char) : List Char :=
  match c with
  | '"' => ['\\', '"']
  | '\\' => ['\\', '\\']
  | '\n' => ['\\', 'n']
  | '\r' => ['\\', 'r']
  | '\t' => ['\\', 't']
  | '\x08' => ['\\', 'b']
  | '\x0c' => ['\\', 'f']
  | c =>
    if c.toNat < 32 then
      ['\\', 'u', '0', '0'] ++ (if c.toNat < 16 then ['0'] else []) ++ Nat.toDigits 16 c.toNat
    else [c]

def jsonString (s : String) : String :=
  String.ofList ('"' :: s.toList.flatMap jsonChar ++ ['"'])

def jsonObject (entries : List (String × String)) : String :=
  "\x7b" ++ ",".intercalate (entries.map fun (key, value) => jsonString key ++ ":" ++ value) ++
    "\x7d"

/-- A record as a JSON object with its time. -/
def jsonLine (time : String) (r : LogRecord) : String :=
  let numbers := r.fields.map fun (name, n) => (name, toString n)
  let fields := ("message", jsonString r.message) :: numbers
  jsonObject [("timestamp", jsonString time), ("level", jsonString r.level.name),
    ("fields", jsonObject fields), ("target", jsonString r.target)]

def line (json : Bool) (time : String) (r : LogRecord) : String :=
  if json then r.jsonLine time else s!"{time} {r.textLine}"

end LogRecord

end LaptopCatalogue
