import RCart.Console.Value
import RCart.Console.Api
import RCart.Interpreter.Basic

/-!
The console as a cart sees it.

A console shows trace lines and answers calls. All that an adapter does to it is kept as a list of
exchanges, so a console is known by its keywords and by what it answers after any such list.

* `Console`, `Exchange`, `Transcript`: a console, what passes to it, and what has passed so far;
* `Transcript.traceCall`: the `trace` function of carts;
* `Console.sink`: the sink that shows output and answers calls;
* `fatalMessage`: what is shown when the interpreter cannot go on.
-/

namespace RCart

/-- Something that passes to a console. -/
inductive Exchange where
  /-- A line is shown in a palette colour. -/
  | trace (text : String) (color : UInt8)
  /-- A function is called and answers. -/
  | call (request : ApiCall) (answer : Value)
  deriving DecidableEq, Repr

/-- A console. -/
structure Console where
  /-- The functions for which carts get forwarders. -/
  keywords : List String := apiFunctions
  /-- The answer to a call after what has passed before; `none` when the console does not know the
  function. -/
  reply : List Exchange → ApiCall → Option Value := fun _ _ => none
  /-- What is logged of a call of a function that the console does not know. -/
  unknown : ApiCall → String := fun request =>
    "unhandled api call " ++ request.name ++ "(" ++ toString request.args.length ++ " args)"

/-- The colour of the library's own trace lines. -/
def defaultColor : UInt8 := 15

/-- What has passed to a console, and the log. -/
structure Transcript where
  /-- What has passed, in order. -/
  exchanges : List Exchange := []
  /-- Log records, in order. -/
  log : List LogRecord := []

namespace Transcript

/-- Adds something that passed. -/
def pass (t : Transcript) (e : Exchange) : Transcript :=
  { t with exchanges := t.exchanges ++ [e] }

/-- Adds log records. -/
def logAll (t : Transcript) (records : List LogRecord) : Transcript :=
  { t with log := t.log ++ records }

/-- Adds a log record. -/
def note (t : Transcript) (level : Level) (text : String) : Transcript :=
  t.logAll [⟨level, text⟩]

/-- Shows a line. -/
def trace (t : Transcript) (text : String) (color : UInt8) : Transcript :=
  t.pass (.trace text color)

/-- The colour that a value asks for: its whole part, if it is a number from zero to fifteen. -/
def colorOf? (v : Value) : Option UInt8 :=
  (v.number?.bind (·.wholeUpTo? 15)).map UInt8.ofNat

/-- The `trace` function of carts: shows its first argument, in the colour of the second if that is
one, else in `color`. -/
def traceCall (t : Transcript) (request : ApiCall) (color : UInt8) : Transcript :=
  let text := match request.args with
    | [] => ""
    | v :: _ => v.display
  t.trace text ((request.args[1]?.bind colorOf?).getD color)

end Transcript

namespace Console

/-- Answers a call other than `trace`. A function that the console does not know has no value. -/
def answer (console : Console) (request : ApiCall) (t : Transcript) : Value × Transcript :=
  match console.reply t.exchanges request with
  | some value => (value, t.pass (.call request value))
  | none => (.null, (t.pass (.call request .null)).note .debug (console.unknown request))

/-- Answers a call. `trace` has no value. -/
def native (console : Console) (color : UInt8) (request : ApiCall) (t : Transcript) :
    Value × Transcript :=
  if request.name = "trace" then (.null, t.traceCall request color)
  else console.answer request t

/-- The sink that shows output in `color` and answers calls. -/
def sink (console : Console) (color : UInt8) : Sink Transcript where
  print text t := t.trace text color
  call request t := console.native color request t
  note record t := t.logAll [record]

end Console

/-! ### The end -/

/-- What is shown when the interpreter cannot go on. -/
def fatalMessage (reason : String) : String :=
  "Fatal error, but can't kermit: " ++ reason ++ "\nExecute me, please.\n"

/-- Logs and shows why the interpreter cannot go on; the console ends the process after that. -/
def Transcript.fatal (t : Transcript) (reason : String) : Transcript :=
  (t.note .error ("fatal interpreter error: " ++ reason)).trace (fatalMessage reason) defaultColor

end RCart
