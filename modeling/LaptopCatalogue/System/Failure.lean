/-!
# Failures of the operating system

What can go wrong outside the program while it starts, with the texts and numbers of the system.
-/

namespace LaptopCatalogue

inductive SystemFailure where
  | notFound
  | permissionDenied
  | fileExists
  | notADirectory
  | isADirectory
  | nameTooLong
  | notSupported
  | addressInUse
  | addressNotAvailable
  | notText
deriving DecidableEq, Repr

namespace SystemFailure

/-- A text with the number of the system behind it. -/
def numbered (text : String) (number : Nat) : String :=
  s!"{text} (os error {number})"

def message : SystemFailure → String
  | .notFound => numbered "No such file or directory" 2
  | .permissionDenied => numbered "Permission denied" 13
  | .fileExists => numbered "File exists" 17
  | .notADirectory => numbered "Not a directory" 20
  | .isADirectory => numbered "Is a directory" 21
  | .nameTooLong => numbered "File name too long" 36
  | .notSupported => numbered "Operation not supported" 95
  | .addressInUse => numbered "Address already in use" 98
  | .addressNotAvailable => numbered "Cannot assign requested address" 99
  | .notText => "stream did not contain valid UTF-8"

end SystemFailure

end LaptopCatalogue
