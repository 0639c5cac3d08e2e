import LaptopCatalogue.CommandLine.Misuse

/-!
# Reading the command line

Arguments are read one after the other. An option that takes a value waits for the next argument; it
is settled only when another option comes or the arguments end, so a mistake in its value is noticed
then.

* `Invocation.read`: what the arguments and the environment ask for.
-/

namespace LaptopCatalogue.CommandLine

/-! ## Words -/

/-- How an argument reads by itself. -/
inductive Word where
  /-- Two hyphens, behind which there are no options. -/
  | separator
  | long (name : String) (value : Option String)
  | short (letters : List Char)
  | plain (text : String)
deriving DecidableEq, Repr

/-- Splits an option at the first equals sign. -/
def splitValue (cs : List Char) : String × Option String :=
  match cs.dropWhile (· ≠ '=') with
  | [] => (String.ofList cs, none)
  | _ :: value => (String.ofList (cs.takeWhile (· ≠ '=')), some (String.ofList value))

/-- How an argument reads. A single hyphen is no option. -/
def Word.ofText (text : String) : Word :=
  match text.toList with
  | ['-', '-'] => .separator
  | '-' :: '-' :: cs =>
    let (name, value) := splitValue cs
    .long name value
  | '-' :: c :: cs => .short (c :: cs)
  | _ => .plain text

/-! ## Options -/

/-- What has been read so far. -/
structure Reading where
  /-- The values of settings, in the order of the arguments. -/
  given : List (Setting × String) := []
  /-- The option that was read last, if it takes a value from its own argument, and the value if it
  is there already. -/
  pending : Option (Setting × Option String) := none
deriving DecidableEq, Repr

/-- Why reading ends early. -/
inductive Stop where
  | help
  | version
  | misuse (cause : Misuse)
deriving DecidableEq, Repr

namespace Reading

def has (r : Reading) (s : Setting) : Bool := r.given.any (·.1 = s)

def accept (r : Reading) (s : Setting) (value : String) : Except Stop Reading :=
  if r.has s && !s.mayRepeat then .error (.misuse (.repeated s))
  else if s.isPath && value = "" then .error (.misuse (.missingValue s))
  else .ok { r with given := r.given ++ [(s, value)] }

/-- Settles the option that waits for its value. -/
def settle (r : Reading) : Except Stop Reading :=
  match r.pending with
  | none => .ok r
  | some (s, none) => .error (.misuse (.missingValue s))
  | some (s, some value) => { r with pending := none }.accept s value

def unexpected (argument : String) : Stop := .misuse (.unexpected argument none [])

/-- The settings that are used, in order. A setting that waits with its value is used as well,
unless it is a repetition that is not allowed: then it is not used at all. -/
def used (r : Reading) : List Switch :=
  let settled := (r.given.map (·.1)).eraseDups
  let all := match r.pending with
    | some (s, some _) =>
      if r.has s && !s.mayRepeat then settled.filter (· ≠ s) else settled ++ [s]
    | _ => settled
  all.map .setting

/-- An unknown long option. The one that may be meant is shown as if it had been given. -/
def unknownLong (r : Reading) (name : String) : Stop :=
  let meant? := (mostSimilar? name (Switch.all.map Switch.long)).bind Switch.ofLong?
  .misuse (.unexpected s!"--{name}" meant? (r.used ++ meant?.toList))

/-- An option by itself. -/
def take (r : Reading) (switch : Switch) : Except Stop Reading := do
  let r ← r.settle
  match switch with
  | .help => .error .help
  | .version => .error .version
  | .setting s =>
    if switch.takesValue then .ok { r with pending := some (s, none) }
    else r.accept s "true"

/-- An option with a value in the same argument. -/
def takeWith (r : Reading) (switch : Switch) (value : String) : Except Stop Reading :=
  match switch, switch.takesValue with
  | .setting s, true => do accept (← r.settle) s value
  | _, _ => .error (.misuse (.needlessValue value switch !r.given.isEmpty))

def long (r : Reading) (name : String) (value : Option String) : Except Stop Reading :=
  match Switch.ofLong? name, value with
  | some switch, none => r.take switch
  | some switch, some value => r.takeWith switch value
  | none, _ => .error (r.unknownLong name)

def dropEquals : List Char → List Char
  | '=' :: cs => cs
  | cs => cs

/-- Letters behind one hyphen. Each is an option, until one takes the rest as its value. -/
def short (r : Reading) : List Char → Except Stop Reading
  | [] => .ok r
  | letter :: letters =>
    match Switch.ofShort? letter with
    | none => .error (unexpected (String.ofList ['-', letter]))
    | some switch =>
      if switch.takesValue && !letters.isEmpty then
        r.takeWith switch (String.ofList (dropEquals letters))
      else do short (← r.take switch) letters

/-- An argument that is no option: the value that an option waits for. -/
def plain (r : Reading) (text : String) : Except Stop Reading :=
  match r.pending with
  | some (s, none) => .ok { r with pending := some (s, some text) }
  | _ => .error (unexpected text)

def arguments (r : Reading) : List String → Except Stop Reading
  | [] => r.settle
  | argument :: rest =>
    match Word.ofText argument with
    | .separator =>
      match rest with
      | [] => r.settle
      | next :: _ => .error (unexpected next)
    | .long name value => do arguments (← r.long name value) rest
    | .short letters => do arguments (← r.short letters) rest
    | .plain text => do arguments (← r.plain text) rest

/-- Takes the values of settings that are not given from the environment. -/
def fromEnvironment (environment : Environment) (r : Reading) : List Setting → Except Stop Reading
  | [] => .ok r
  | s :: rest =>
    match environment s.variableName with
    | none => fromEnvironment environment r rest
    | some value =>
      if r.has s then fromEnvironment environment r rest
      else if s.valueName? = none && value ≠ "true" && value ≠ "false" then
        .error (.misuse (.notBoolean value s))
      else do fromEnvironment environment (← r.accept s value) rest

end Reading

/-! ## Settings -/

/-- What the daemon is asked to do. -/
structure Settings where
  address : String
  origins : List String
  logJson : Bool
  rotation : Rotation
  logDirectory : Option String
  config : Option String
deriving DecidableEq, Repr

def splitCommas (text : String) : List String :=
  (text.toList.splitOn ',').map String.ofList

/-- The values of a setting, or its default. -/
def Reading.values (r : Reading) (s : Setting) : List String :=
  match r.given.filter (·.1 = s) with
  | [] => s.default?.toList
  | given => given.map (·.2)

def Reading.settings (r : Reading) : Settings where
  address := (r.values .address).head?.getD ""
  origins := (r.values .origins).flatMap splitCommas
  logJson := r.values .logJson = ["true"]
  rotation := Rotation.ofText ((r.values .rotation).head?.getD "")
  logDirectory := (r.values .logDirectory).head?
  config := (r.values .config).head?

/-- What the program is asked for. -/
inductive Invocation where
  | help
  | version
  | misuse (cause : Misuse)
  | daemon (settings : Settings)
deriving DecidableEq, Repr

/-- What the arguments and the environment ask for. -/
def Invocation.read (environment : Environment) (args : List String) : Invocation :=
  match Reading.arguments {} args >>= fun r => r.fromEnvironment environment Setting.all with
  | .ok r => .daemon r.settings
  | .error .help => .help
  | .error .version => .version
  | .error (.misuse cause) => .misuse cause

end LaptopCatalogue.CommandLine
