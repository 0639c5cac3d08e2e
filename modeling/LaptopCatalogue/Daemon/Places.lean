import LaptopCatalogue.Logging.Level
import LaptopCatalogue.Logging.Rotation

/-!
# Where the daemon keeps its files

Configuration and logs lie in one directory below the user's home, unless the command line names
other places.
-/

namespace LaptopCatalogue

/-- A path below another. A path that begins with a slash stays as it is. -/
def joinPath (path below : String) : String :=
  if below.toList.head? = some '/' then below
  else if path = "" then below
  else if path.toList.getLast? = some '/' then path ++ below
  else path ++ "/" ++ below

namespace Daemon

/-- The directory for everything that the daemon keeps. -/
def directory (home : String) : String := joinPath home ".laptop-daemon"

def configPath (home : String) : String := joinPath (directory home) "config.toml"

def logDirectory (home : String) : String := joinPath (directory home) "logs"

/-- The name of a log file without its period. -/
def logFileName : String := "laptop-daemon.log"

end Daemon

structure LogConfig where
  directory : String
  /-- Events above this level are not written. -/
  level : Level := .info
  json : Bool := false
  rotation : Rotation := .daily
deriving DecidableEq, Repr

def LogConfig.default (home : String) : LogConfig where
  directory := Daemon.logDirectory home

end LaptopCatalogue
