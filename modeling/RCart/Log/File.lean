import RCart.Fault
import RCart.Files.Tree
import RCart.Log.Record
import RCart.Log.Target
import RCart.Text.Utf8

/-!
A log file.

Logging is set up once in a process, with a file and a filter; later attempts fail. Until then
nothing is logged. The path of the file may hold patterns of the time.

* `Logging.setup`: opens the log file and installs it;
* `Logging.write`: appends a record that passes the filter.
-/

namespace RCart

/-- The log of a process, and the directory it works in. -/
structure Logging where
  /-- The directory. -/
  tree : FileTree
  /-- The place of the log file and its filter, once they are set up. -/
  installed : Option (List String × LevelFilter) := none
  /-- The filter that was asked for last. -/
  maxLevel : LevelFilter := .off

namespace Logging

/-- Opens the file at a path and logs to it from now on what passes `filter`. A file that cannot be
opened is the first fault, a log that is set up already the second. Faults name the path as
`shown`. -/
def openFile (filter : LevelFilter) (shown path : String) (l : Logging) :
    Except Fault Unit × Logging :=
  match l.tree.openLog path with
  | (tree, .error refusal) =>
    (.error (.logSetup (shown ++ ": " ++ refusal.words)), { l with tree })
  | (tree, .ok place) =>
    match l.installed with
    | some _ =>
      (.error (.logSetup
        "attempted to set a logger after the logging system was already initialized"),
        { l with tree, maxLevel := filter })
    | none => (.ok (), { tree, installed := some (place, filter), maxLevel := filter })

/-- Sets the log up with the file at `path`, whose patterns are filled in; `none` when one of them
is no pattern. -/
def setup (now : Moment) (filter : LevelFilter) (path : String) (l : Logging) :
    Option (Except Fault Unit × Logging) :=
  (LogTarget.fill? now path).map fun filled => l.openFile filter path filled

/-- How a log line shows the time. -/
def stamp : List Item :=
  Pattern.isoDate ++ .literal ' ' :: Pattern.clock

/-- The line of a record: when, how urgent, from where and what. -/
def lineOf (now : Moment) (level : Level) (target text : String) : String :=
  String.ofList (Pattern.write now stamp) ++ " " ++ level.name ++ " " ++ target ++ " " ++ text
    ++ "\n"

/-- Appends the line of a record, if the log is set up and the record passes. -/
def write (now : Moment) (level : Level) (target text : String) (l : Logging) : Logging :=
  match l.installed with
  | some (place, filter) =>
    if filter.passes level then
      { l with tree := l.tree.append place (Text.toBytes (lineOf now level target text)) }
    else l
  | none => l

end Logging

end RCart
