import LaptopCatalogue.Daemon.Start
import Std.Time.DateTime

/-!
# The command line program

Reads arguments and environment, makes the directory for the log, looks for the configuration, and
writes down what the start of the daemon comes to. There is no network underneath, so the start ends
where the daemon would listen.
-/

namespace LaptopCatalogue

open CommandLine (Environment Invocation Settings)

namespace Main

/-- The environment variables that the program looks at. -/
def variableNames : List String :=
  Daemon.logVariable :: CommandLine.Setting.all.map (·.variableName)

def readEnvironment : IO Environment := do
  let values ← variableNames.mapM fun name => do return (name, ← IO.getEnv name)
  return fun name => (values.lookup name).join

/-- Makes a directory and those above it. Gives the reason if that is not possible. -/
def makeDirectory (path : String) : IO (Option SystemFailure) := do
  try
    IO.FS.createDirAll path
    return none
  catch
    | .noFileOrDirectory .. => return some .notFound
    | .alreadyExists .. => return some .fileExists
    | .permissionDenied .. => return some .permissionDenied
    | .inappropriateType .. => return some .notADirectory
    | .invalidArgument .. => return some .nameTooLong
    | _ => return some .notSupported

/-- Begins a log file, with its directory. -/
def beginLog (directory file : String) : IO (Except Daemon.LogFailure IO.FS.Handle) := do
  match ← makeDirectory directory with
  | some cause => return .error (.noDirectory cause)
  | none =>
    try
      return .ok (← IO.FS.Handle.mk (joinPath directory file) .append)
    catch _ => return .error .noFile

def look (path : String) : IO PathState := do
  try
    return .file (← IO.FS.readBinFile path).toList
  catch
    | .noFileOrDirectory .. => return .absent
    | _ => return .directory

def twoDigits (n : Int) : String := (if n < 10 then "0" else "") ++ toString n

/-- The time, and the period to which it belongs. -/
def readClock : IO (String × Period) := do
  let now := Std.Time.DateTime.ofTimestampWithZone (← Std.Time.Timestamp.now) .UTC
  let day := s!"{now.year.toInt}-{twoDigits now.month.val}-{twoDigits now.day.val}"
  let hour := twoDigits now.hour.val
  return (s!"{day}T{hour}:{twoDigits now.minute.val}:{twoDigits now.second.val}Z", { day, hour })

def start (environment : Environment) (settings : Settings) : IO UInt32 := do
  let home := (← IO.getEnv "HOME").getD "."
  let (time, period) ← readClock
  let log ← beginLog (Daemon.logDirectoryOf settings home)
    (settings.rotation.fileName Daemon.logFileName period)
  let (records, ending) := Daemon.start settings
    { home
      logFailure := match log with
        | .error cause => some cause
        | .ok _ => none
      filter := environment Daemon.logVariable
      config := ← look (Daemon.configPathOf settings home)
      listenFailure := fun _ => some .notSupported }
  if let .ok handle := log then
    records.forM fun r => handle.putStrLn (r.line settings.logJson time)
  (ending.message (Daemon.logFileOf settings home)).forM IO.eprintln
  return UInt32.ofNat ending.exitCode

end Main

end LaptopCatalogue

open LaptopCatalogue CommandLine in
def main (args : List String) : IO UInt32 := do
  let environment ← Main.readEnvironment
  match Invocation.read environment args with
  | .help =>
    IO.print (helpText environment)
    return 0
  | .version =>
    IO.print versionText
    return 0
  | .misuse cause =>
    cause.message.forM IO.eprintln
    return 2
  | .daemon settings => Main.start environment settings
