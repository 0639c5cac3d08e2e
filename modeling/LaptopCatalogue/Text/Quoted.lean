import LaptopCatalogue.Text.Spelled

/-!
# Quoted text

A text inside double quotes, with a backslash in front of quotes and backslashes, short names for
the usual controls, and the code point of every other character that cannot be told by eye.
-/

namespace LaptopCatalogue

/-- The code point of a character in hexadecimal, in braces behind a backslash and a `u`. -/
def codePointEscape (c : Char) : List Char :=
  ['\\', 'u', '\x7b'] ++ Nat.toDigits 16 c.toNat ++ ['\x7d']

/-- One character inside quotes. -/
def escapeChar (c : Char) : List Char :=
  match c with
  | '"' => ['\\', '"']
  | '\\' => ['\\', '\\']
  | '\n' => ['\\', 'n']
  | '\r' => ['\\', 'r']
  | '\t' => ['\\', 't']
  | '\x00' => ['\\', '0']
  | c => if isSpelled c then codePointEscape c else [c]

def quoted (s : String) : String :=
  String.ofList ('"' :: s.toList.flatMap escapeChar ++ ['"'])

end LaptopCatalogue
