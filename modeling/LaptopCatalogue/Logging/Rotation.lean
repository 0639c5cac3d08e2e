/-!
# Rotation of the log file

How often the log starts a new file. The name of a file ends with the period for which it was begun.
-/

namespace LaptopCatalogue

/-- How long one log file is used. -/
inductive Rotation where
  | daily
  | hourly
  | never
deriving DecidableEq, Repr

/-- The day and the hour at which a file is begun, as they appear in its name. -/
structure Period where
  day : String
  hour : String
deriving DecidableEq, Repr

namespace Rotation

def name : Rotation → String
  | .daily => "daily"
  | .hourly => "hourly"
  | .never => "never"

/-- The rotation with a name, in either case of its ASCII letters. What is no such name means
daily. -/
def ofText (text : String) : Rotation :=
  let lower := text.toList.map Char.toLower
  if lower = Rotation.hourly.name.toList then .hourly
  else if lower = Rotation.never.name.toList then .never
  else .daily

/-- The name of the log file that is begun in a period. -/
def fileName (rotation : Rotation) (base : String) (now : Period) : String :=
  match rotation with
  | .never => base
  | .daily => s!"{base}.{now.day}"
  | .hourly => s!"{base}.{now.day}-{now.hour}"

end Rotation

end LaptopCatalogue
