/-!
Log records and the levels that let them through.

* `Level`, `LogRecord`: what is logged and how urgent it is;
* `LevelFilter`: the levels that pass;
* `LevelFilter.ofName?`: a filter by its name, upper or lower case.
-/

namespace RCart

/-- How urgent a record is. -/
inductive Level where
  | error
  | warn
  | info
  | debug
  | trace
  deriving DecidableEq, Repr

/-- The place of a level, the most urgent first. -/
def Level.rank : Level → Nat
  | .error => 1
  | .warn => 2
  | .info => 3
  | .debug => 4
  | .trace => 5

/-- The name of a level, as a log line shows it. -/
def Level.name : Level → String
  | .error => "ERROR"
  | .warn => "WARN"
  | .info => "INFO"
  | .debug => "DEBUG"
  | .trace => "TRACE"

/-- A record of the library's own. -/
structure LogRecord where
  /-- How urgent it is. -/
  level : Level
  /-- What it says. -/
  text : String
  deriving DecidableEq, Repr

/-- The levels that pass: none, or all up to one. -/
inductive LevelFilter where
  /-- Nothing passes. -/
  | off
  /-- What is at least as urgent as `level` passes. -/
  | upTo (level : Level)
  deriving DecidableEq, Repr

namespace LevelFilter

/-- All filters, from none to all. -/
def all : List LevelFilter :=
  [.off, .upTo .error, .upTo .warn, .upTo .info, .upTo .debug, .upTo .trace]

/-- The name of a filter. -/
def name : LevelFilter → String
  | off => "OFF"
  | upTo level => level.name

/-- Whether a level passes. -/
def passes : LevelFilter → Level → Bool
  | off, _ => false
  | upTo bound, level => level.rank ≤ bound.rank

/-- An ASCII letter in upper case, any other character as it is. -/
def upperLetter (c : Char) : Char :=
  if 'a' ≤ c ∧ c ≤ 'z' then Char.ofNat (c.toNat - 32) else c

/-- The filter of a name, in which the case of ASCII letters does not matter. -/
def ofName? (s : String) : Option LevelFilter :=
  all.find? fun f => f.name.toList == s.toList.map upperLetter

end LevelFilter

end RCart
