import LaptopCatalogue.Daemon.Start
import LaptopCatalogue.Net.Host
import LaptopCatalogue.System.Files

/-!
# One run of the program

What a run leaves behind on a machine: an exit code, what it says, and files.
-/

namespace LaptopCatalogue.Daemon

open CommandLine (Environment Invocation Settings)

/-- The time at which a run takes place. -/
structure Moment where
  time : String
  /-- The period for which a log file is begun. -/
  period : Period
deriving DecidableEq, Repr

/-- A machine on which the program runs. -/
structure Machine where
  home : String
  working : Place
  files : Files
  environment : Environment
  host : Net.Host
  now : Moment

/-- What a run leaves behind. -/
structure Outcome where
  exitCode : Nat
  /-- What the program answers. -/
  answer : String := ""
  /-- What the program complains about, line by line. -/
  complaint : List String := []
  files : Files

namespace Machine

def logPath (m : Machine) (settings : Settings) : String :=
  joinPath (logDirectoryOf settings m.home) (settings.rotation.fileName logFileName m.now.period)

/-- The files once there is a log, with nothing new in it. -/
def beginLog (m : Machine) (settings : Settings) : Except LogFailure Files :=
  match m.files.makeDirectories m.working (logDirectoryOf settings m.home) with
  | .error cause => .error (.noDirectory cause)
  | .ok files =>
    match files.append? m.working (m.logPath settings) [] with
    | none => .error .noFile
    | some files => .ok files

/-- The files with records in the log. -/
def writeLog (m : Machine) (settings : Settings) (records : List LogRecord) (files : Files) :
    Files :=
  let lines := records.map fun r => r.line settings.logJson m.now.time ++ "\n"
  let bytes := (String.join lines).toUTF8.toList
  (files.append? m.working (m.logPath settings) bytes).getD files

/-- The files once there is a log, or the files as they were. -/
def filesWithLog (m : Machine) (log : Except LogFailure Files) : Files :=
  match log with
  | .ok files => files
  | .error _ => m.files

/-- What the daemon meets when it starts. -/
def circumstances (m : Machine) (settings : Settings) (log : Except LogFailure Files) :
    Circumstances where
  home := m.home
  logFailure := match log with
    | .error cause => some cause
    | .ok _ => none
  filter := m.environment logVariable
  config := (m.filesWithLog log).look m.working (configPathOf settings m.home)
  listenFailure := m.host.refusal

def start (m : Machine) (settings : Settings) : Outcome :=
  let log := m.beginLog settings
  let (records, ending) := Daemon.start settings (m.circumstances settings log)
  { exitCode := ending.exitCode
    complaint := ending.message (logFileOf settings m.home)
    files := match log with
      | .ok files => m.writeLog settings records files
      | .error _ => m.files }

def run (m : Machine) (args : List String) : Outcome :=
  match Invocation.read m.environment args with
  | .help => { exitCode := 0, answer := CommandLine.helpText m.environment, files := m.files }
  | .version => { exitCode := 0, answer := CommandLine.versionText, files := m.files }
  | .misuse cause => { exitCode := 2, complaint := cause.message, files := m.files }
  | .daemon settings => m.start settings

end Machine

end LaptopCatalogue.Daemon
