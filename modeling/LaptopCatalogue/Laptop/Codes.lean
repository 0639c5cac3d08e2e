/-!
# Codes with a fixed meaning

Four fields hold a number that stands for one of a few choices. Each set of choices gives the
number of a choice (`code`), the choice of a number if it is declared (`ofCode?`), and a name.
Number 0 is the choice `unknown` everywhere, and a reader that needs a choice for an undeclared
number takes it.
-/

namespace LaptopCatalogue

inductive MemoryUnit where
  | unknown
  | bit
  | byte
  | kilobyte
  | megabyte
  | gigabyte
  | terabyte
deriving DecidableEq, Repr

/-- How a drive stores data. -/
inductive Driver where
  | unknown
  | hdd
  | ssd
deriving DecidableEq, Repr

/-- How a screen makes its picture. -/
inductive Panel where
  | unknown
  | ips
  | oled
deriving DecidableEq, Repr

/-- The order of the letters on a keyboard. -/
inductive Layout where
  | unknown
  | qwerty
  | qwertz
  | azerty
deriving DecidableEq, Repr

/-- A finite set of named choices, given in the order of their codes. -/
class Coded (α : Type) where
  /-- Every choice, the one with code 0 first. -/
  all : List α
  name : α → String
  /-- The choice for a number that is not declared. -/
  unknown : α

namespace Coded

variable {α : Type} [Coded α]

def ofCode? (code : Int32) : Option α :=
  if code < 0 then none else (all : List α)[code.toInt.toNat]?

/-- The choice with the given code, or `unknown`. -/
def ofCode (code : Int32) : α :=
  (ofCode? code).getD unknown

def code [DecidableEq α] (choice : α) : Int32 :=
  Int32.ofNat ((all : List α).idxOf choice)

end Coded

def unknownCodeMessage (code : Int32) : String :=
  s!"unknown enumeration value {code.toInt}"

instance : Coded MemoryUnit where
  all := [.unknown, .bit, .byte, .kilobyte, .megabyte, .gigabyte, .terabyte]
  name
    | .unknown => "Unknown"
    | .bit => "Bit"
    | .byte => "Byte"
    | .kilobyte => "Kilobyte"
    | .megabyte => "Megabyte"
    | .gigabyte => "Gigabyte"
    | .terabyte => "Terabyte"
  unknown := .unknown

instance : Coded Driver where
  all := [.unknown, .hdd, .ssd]
  name
    | .unknown => "Unknown"
    | .hdd => "Hdd"
    | .ssd => "Ssd"
  unknown := .unknown

instance : Coded Panel where
  all := [.unknown, .ips, .oled]
  name
    | .unknown => "Unknown"
    | .ips => "Ips"
    | .oled => "Oled"
  unknown := .unknown

instance : Coded Layout where
  all := [.unknown, .qwerty, .qwertz, .azerty]
  name
    | .unknown => "Unknown"
    | .qwerty => "Qwerty"
    | .qwertz => "Qwertz"
    | .azerty => "Azerty"
  unknown := .unknown

end LaptopCatalogue
