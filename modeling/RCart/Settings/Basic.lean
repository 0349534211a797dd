import RCart.Console.Host
import RCart.Environment

/-!
The settings of an adapter.
-/

namespace RCart

/-- The settings of an adapter. -/
structure Settings where
  /-- The arguments that the interpreter is started with. -/
  argv : List String := ["TIC-80", "--quiet", "--vanilla"]
  /-- How often a start is attempted before it is given up. -/
  maxStartAttempts : UInt32 := 3
  /-- The palette colour of trace lines. -/
  traceColor : UInt8 := defaultColor
  /-- The variables that are set before a start when they are unset. -/
  env : Bindings := .ofList [("R_HOME", "/usr/lib/R")]
  /-- The name of the level up to which records are logged. -/
  logLevel : String := "info"
  /-- The file that records are logged to. -/
  logFile : String := "log/tic_r.log"
  deriving DecidableEq

/-- The filter that the settings name; a name that is none lets information through. -/
def Settings.levelFilter (s : Settings) : LevelFilter :=
  (LevelFilter.ofName? s.logLevel).getD (.upTo .info)

end RCart
