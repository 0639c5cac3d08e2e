import LaptopCatalogue.CommandLine.Help
import LaptopCatalogue.CommandLine.Reading
import LaptopCatalogue.Config.File
import LaptopCatalogue.Daemon.Places
import LaptopCatalogue.Logging.Filter
import LaptopCatalogue.Logging.Record
import LaptopCatalogue.Net.SocketAddress

/-!
# The start of the daemon

Before it serves anyone the daemon opens its log, reads its configuration, and begins to listen.
Each step can end the start. What stands in the log and what the user is told is a function of the
settings and of what the daemon meets on the machine.

* `start`: what is logged, and how it ends.
* `Ending.exitCode`, `Ending.message`: what the user gets to see of it.
-/

namespace LaptopCatalogue.Daemon

open CommandLine (Settings)

/-! ## What is logged -/

inductive StartEvent where
  | configMissing (path : String)
  | configLoaded (path : String)
  /-- The configuration is of no use, and the defaults hold. -/
  | configRefused (error : ConfigError)
  | originsChosen (origins : List String)
  | starting (address : Net.SocketAddress) (buffer : Nat)
deriving DecidableEq, Repr

namespace StartEvent

def level : StartEvent → Level
  | .configMissing _ | .configLoaded _ => .debug
  | .configRefused _ => .warn
  | .originsChosen _ | .starting .. => .info

/-- The part of the program that speaks. -/
def target : StartEvent → String
  | .configMissing _ | .configLoaded _ => "laptop_daemon::user_config"
  | _ => "laptop_daemon"

def message : StartEvent → String
  | .configMissing path => s!"Config not found at {path}; using defaults"
  | .configLoaded path => s!"Loaded config from {path}"
  | .configRefused error => s!"Failed to load config, using defaults: {error.message}"
  | .originsChosen origins => "CORS origins: " ++ ", ".intercalate origins
  | .starting address _ => s!"Starting laptop daemon on {address.text} (gRPC + gRPC-Web)"

/-- The numbers that belong to an event. -/
def fields : StartEvent → List (String × Nat)
  | .starting _ buffer => [("stream_buffer", buffer)]
  | _ => []

def record (e : StartEvent) : LogRecord where
  level := e.level
  target := e.target
  message := e.message
  fields := e.fields

end StartEvent

/-- The filter of the log: the one that is asked for, or the daemon's own events up to a level if
none is asked for or the text is malformed. A text with a broken character gives no filter. -/
def logFilter? (asked : Option String) (level : Level) : Option LogFilter :=
  match asked.map LogFilter.ofText with
  | some (.ok filter) => some filter
  | some (.error .brokenCharacter) => none
  | some (.error .malformed) | none => some (.upTo "laptop_daemon" level)

def admits (filter : LogFilter) (r : LogRecord) : Bool :=
  filter.admits r.level r.target ("message" :: r.fields.map (·.1))

def recordsThrough (filter : LogFilter) (events : List StartEvent) : List LogRecord :=
  (events.map (·.record)).filter (admits filter)

/-- The environment variable that holds the filter of the log. -/
def logVariable : String := "RUST_LOG"

/-! ## How it ends -/

inductive Ending where
  | noLog (cause : SystemFailure)
  /-- The daemon breaks off, because there can be no log file or no filter for it. -/
  | broken
  | noAddress
  | notListening (address : Net.SocketAddress) (cause : SystemFailure)
  | serving (address : Net.SocketAddress)
deriving DecidableEq, Repr

/-- Causes, each below what it led to, with their numbers. -/
def chain (causes : List String) : List String :=
  causes.mapIdx fun i cause => s!"   {i}: {cause}"

namespace Ending

def exitCode : Ending → Nat
  | .serving _ => 0
  | .broken => 101
  | .noLog _ | .noAddress | .notListening .. => 1

/-- What the user is told, line by line. -/
def message (logFile : String) : Ending → List String
  | .noLog cause =>
    s!"Error: Failed to initialize logging: {cause.message}" :: chain [cause.message]
  | .noAddress => chain ["invalid socket address syntax"]
  | .notListening address cause =>
    (if cause = .addressInUse then
      [s!"Error: address {address.text} is already in use",
        "Another laptop-daemon may already be running; pick another port with --addr."]
    else []) ++
    ["Error: Failed to start server: transport error", s!"Logs: {logFile}"] ++
    chain ["transport error", cause.message]
  | .broken | .serving _ => []

end Ending

/-! ## The start -/

/-- Why there can be no log. -/
inductive LogFailure where
  | noDirectory (cause : SystemFailure)
  | noFile
deriving DecidableEq, Repr

/-- What the daemon meets when it starts. -/
structure Circumstances where
  home : String
  /-- Why there can be no log, if so. -/
  logFailure : Option LogFailure
  /-- The filter of the log that is asked for. -/
  filter : Option String
  /-- What stands where the configuration is looked for. -/
  config : PathState
  /-- Why nothing can listen at an address, if so. -/
  listenFailure : Net.SocketAddress → Option SystemFailure

def logDirectoryOf (settings : Settings) (home : String) : String :=
  settings.logDirectory.getD (logDirectory home)

/-- The log file as the user is told of it, without its period. -/
def logFileOf (settings : Settings) (home : String) : String :=
  joinPath (logDirectoryOf settings home) logFileName

def configPathOf (settings : Settings) (home : String) : String :=
  settings.config.getD (configPath home)

/-- The configuration that holds, and what is logged about it. -/
def configure (path : String) (state : PathState) : SearchConfig × StartEvent :=
  match state, SearchConfig.load state with
  | _, .error error => (SearchConfig.default, .configRefused error)
  | .absent, .ok config => (config, .configMissing path)
  | _, .ok config => (config, .configLoaded path)

/-- What happens once there is a log, and how the start ends. -/
def startLogged (settings : Settings) (met : Circumstances) : List StartEvent × Ending :=
  let (config, configEvent) := configure (configPathOf settings met.home) met.config
  match Net.SocketAddress.read? settings.address with
  | none => ([configEvent], .noAddress)
  | some address =>
    let events := [configEvent, .originsChosen (Http.normalizeOrigins settings.origins),
      .starting address config.effectiveBuffer]
    match met.listenFailure address with
    | some cause => (events, .notListening address cause)
    | none => (events, .serving address)

/-- What is written to the log at the start, and how the start ends. -/
def start (settings : Settings) (met : Circumstances) : List LogRecord × Ending :=
  match met.logFailure, logFilter? met.filter (LogConfig.default met.home).level with
  | some (.noDirectory cause), _ => ([], .noLog cause)
  | some .noFile, _ | none, none => ([], .broken)
  | none, some filter =>
    let (events, ending) := startLogged settings met
    (recordsThrough filter events, ending)

end LaptopCatalogue.Daemon
