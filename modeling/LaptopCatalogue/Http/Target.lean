/-!
# Targets of requests

What a request asks for is written in one of four forms: as a path, as a path behind a scheme and an
authority, as an authority alone, or as an asterisk. A query and a fragment may follow a path.

* `pathOfTarget`: the path in a target. An authority alone has none, and behind an authority a
  missing path is the root.
-/

namespace LaptopCatalogue.Http

def isSchemeChar (c : Char) : Bool := c.isAlphanum || c = '+' || c = '-' || c = '.'

/-- Whether an authority or a path ends in front of a character. -/
def endsPath (c : Char) : Bool := c = '?' || c = '#'

/-- What stands behind the scheme of a target, if there is one. -/
def behindScheme? (target : List Char) : Option (List Char) :=
  match target.dropWhile isSchemeChar with
  | ':' :: '/' :: '/' :: rest => some rest
  | _ => none

/-- What stands behind an authority. -/
def behindAuthority (cs : List Char) : List Char :=
  cs.dropWhile fun c => c ≠ '/' && !endsPath c

/-- The path at the beginning of a text, without a query and a fragment. -/
def leadingPath (cs : List Char) : List Char := cs.takeWhile fun c => !endsPath c

def pathOfTarget (target : String) : String :=
  match target.toList with
  | ['*'] => "*"
  | '/' :: cs => String.ofList (leadingPath ('/' :: cs))
  | cs =>
    match behindScheme? cs with
    | none => ""
    | some rest =>
      match leadingPath (behindAuthority rest) with
      | [] => "/"
      | path => String.ofList path

end LaptopCatalogue.Http
