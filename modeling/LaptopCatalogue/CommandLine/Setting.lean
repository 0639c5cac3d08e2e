import LaptopCatalogue.Http.Origin
import LaptopCatalogue.Logging.Rotation

/-!
# What can be set on the command line

Every setting has a long option and an environment variable. The command line comes before the
environment, and the environment before the default.
-/

namespace LaptopCatalogue.CommandLine

def programName : String := "laptop-daemon"

inductive Setting where
  | address
  /-- The origins whose pages may call the service. -/
  | origins
  | logJson
  /-- How often the log starts a new file. -/
  | rotation
  | logDirectory
  | config
deriving DecidableEq, Repr

namespace Setting

/-- All settings in the order in which they are listed. -/
def all : List Setting := [.address, .origins, .logJson, .rotation, .logDirectory, .config]

/-- The long option without its hyphens. -/
def long : Setting → String
  | .address => "addr"
  | .origins => "cors-origins"
  | .logJson => "log-json"
  | .rotation => "log-rotation"
  | .logDirectory => "log-dir"
  | .config => "config"

def short? : Setting → Option Char
  | .address => some 'a'
  | _ => none

/-- What stands for the value in descriptions. A setting without a value is a flag. -/
def valueName? : Setting → Option String
  | .address => some "ADDR"
  | .origins => some "CORS_ORIGINS"
  | .logJson => none
  | .rotation => some "LOG_ROTATION"
  | .logDirectory => some "LOG_DIR"
  | .config => some "CONFIG"

def variableName : Setting → String
  | .address => "LAPTOP_DAEMON_ADDR"
  | .origins => "LAPTOP_CORS_ORIGINS"
  | .logJson => "LAPTOP_LOG_JSON"
  | .rotation => "LAPTOP_LOG_ROTATION"
  | .logDirectory => "LAPTOP_LOG_DIR"
  | .config => "LAPTOP_DAEMON_CONFIG"

/-- The value of a setting that takes one and is not set. -/
def default? : Setting → Option String
  | .address => some "127.0.0.1:8080"
  | .origins => some (",".intercalate Http.defaultOrigins)
  | .rotation => some Rotation.daily.name
  | .logJson | .logDirectory | .config => none

def description : Setting → String
  | .address => "Address to bind the server to"
  | .origins => "Comma-separated list of allowed CORS origin prefixes for gRPC-Web. " ++
      "Use \"*\" to allow all origins"
  | .logJson => "Enable JSON log format"
  | .rotation => "Log rotation period: daily, hourly, or never"
  | .logDirectory => "Custom log directory (default: ~/.laptop-daemon/logs)"
  | .config => "Config file (default: ~/.laptop-daemon/config.toml)"

def mayRepeat (s : Setting) : Bool := s = .origins

/-- Whether the value is a path. A path is never empty. -/
def isPath (s : Setting) : Bool := s = .logDirectory || s = .config

/-- The option with its value, as messages show it. -/
def display (s : Setting) : String :=
  match s.valueName? with
  | some name => s!"--{s.long} <{name}>"
  | none => s!"--{s.long}"

end Setting

inductive Switch where
  | setting (s : Setting)
  | help
  | version
deriving DecidableEq, Repr

namespace Switch

def all : List Switch := Setting.all.map .setting ++ [.help, .version]

def long : Switch → String
  | .setting s => s.long
  | .help => "help"
  | .version => "version"

def short? : Switch → Option Char
  | .setting s => s.short?
  | .help => some 'h'
  | .version => some 'V'

def takesValue : Switch → Bool
  | .setting s => s.valueName?.isSome
  | .help | .version => false

def display : Switch → String
  | .setting s => s.display
  | .help => "--help"
  | .version => "--version"

def ofLong? (name : String) : Option Switch := all.find? fun option => option.long = name

def ofShort? (letter : Char) : Option Switch := all.find? fun option => option.short? = some letter

end Switch

/-- The values that environment variables have, if they are set. -/
abbrev Environment := String → Option String

end LaptopCatalogue.CommandLine
