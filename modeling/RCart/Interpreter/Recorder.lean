import RCart.Interpreter.Basic
import RCart.Text.Utf8

/-!
An interpreter that runs nothing and remembers everything.

A `Recorder` keeps each piece of code that it is asked to evaluate. It can be told to fail its first
starts, and to react to code that contains a pattern: print, call the console, raise an error or
die. Reactions fire in the order in which they were registered; an error or a death ends the
evaluation.

* `Recorder.react`: the reactions to a piece of code;
* `Recorder.countWith`: how many pieces of code contain a text.
-/

namespace RCart

/-- What a recorder does about a piece of code. -/
inductive Reaction where
  /-- Prints a text. -/
  | prints (text : String)
  /-- Calls the console. -/
  | calls (request : ApiCall)
  /-- Raises an error. -/
  | raises (reason : String)
  /-- Dies. -/
  | dies (reason : String)
  deriving DecidableEq, Repr

/-- The state of a recorder. -/
structure Recorder where
  /-- Calls of start. -/
  starts : UInt32 := 0
  /-- Calls of stop. -/
  stops : UInt32 := 0
  /-- How many of the first starts fail. -/
  failingStarts : UInt32 := 0
  /-- Whether it can be started again. -/
  restartable : Bool := false
  /-- Whether it is running. -/
  running : Bool := false
  /-- The arguments of the last start that succeeded. -/
  argv : List String := []
  /-- Everything that it was asked to evaluate, in order. -/
  evaluated : List String := []
  /-- The console's answers, in order. -/
  answers : List Value := []
  /-- Patterns and reactions, in the order in which they were registered. -/
  reactions : List (String × Reaction) := []

namespace Recorder

/-- Whether a piece of code contains a text. -/
def contains (code text : String) : Bool :=
  Text.occursIn text.toList code.toList

/-- How many pieces of code contain a text. -/
def countWith (r : Recorder) (text : String) : Nat :=
  r.evaluated.countP (contains · text)

/-- A start counts even if it fails. -/
def start (argv : List String) (r : Recorder) : Except Fault Unit × Recorder :=
  let r := { r with starts := r.starts + 1 }
  if r.starts ≤ r.failingStarts then
    (.error (.start r.starts "recording interpreter told to fail"), r)
  else (.ok (), { r with argv, running := true })

/-- A stop. -/
def stop (r : Recorder) : Recorder :=
  { r with stops := r.stops + 1, running := false }

/-- What the given reactions make of a piece of code, in order, up to the first error or death. -/
def react (code : String) : List (String × Reaction) → Recorder → Evaluation Recorder
  | [], r => .finish (.ok ()) r
  | (pattern, reaction) :: rest, r =>
    if contains code pattern then
      match reaction with
      | .prints text => .print text (react code rest r)
      | .calls request =>
        .call request fun answer => react code rest { r with answers := r.answers ++ [answer] }
      | .raises reason => .finish (.error (.eval reason)) r
      | .dies reason => .finish (.error (.fatal reason)) r
    else react code rest r

/-- Remembers a piece of code and reacts to it; refuses while it is not running. -/
def eval (code : String) (r : Recorder) : Evaluation Recorder :=
  if r.running then
    .note ⟨.debug, "recording eval: " ++ code⟩
      (react code r.reactions { r with evaluated := r.evaluated ++ [code] })
  else .finish (.error .notStarted) r

instance : Interpreter Recorder where
  start := start
  stop := stop
  canRestart r := (r.restartable, r)
  eval := eval

end Recorder

end RCart
