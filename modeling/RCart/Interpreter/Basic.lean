import RCart.Console.Value
import RCart.Fault
import RCart.Log.Record

/-!
Interpreters.

An interpreter is known by what it does: it is started and stopped, it says whether it can come back
after a stop, and it evaluates code. While it evaluates it prints, calls the console and waits for
the answer, and leaves log records; an `Evaluation` is the tree of what happens, branching at the
answers.

* `Interpreter`: the operations of an interpreter whose state is `σ`;
* `Evaluation.run`: an evaluation carried out against a `Sink`, which receives what the interpreter
  does and answers its calls;
* `Sink.gathering`: a sink that gathers what it receives.
-/

namespace RCart

/-! ### Evaluations -/

/-- What happens during one evaluation, up to its result and the state that it leaves. -/
inductive Evaluation (α : Type) where
  /-- The evaluation is over. -/
  | finish (result : Except Fault Unit) (state : α)
  /-- The interpreter prints. -/
  | print (text : String) (next : Evaluation α)
  /-- The interpreter calls the console and goes on with the answer. -/
  | call (request : ApiCall) (next : Value → Evaluation α)
  /-- The interpreter leaves a log record. -/
  | note (record : LogRecord) (next : Evaluation α)

/-- An evaluation whose final state is changed. -/
def Evaluation.map {α β : Type} (f : α → β) : Evaluation α → Evaluation β
  | .finish result state => .finish result (f state)
  | .print text next => .print text (next.map f)
  | .call request next => .call request fun answer => (next answer).map f
  | .note record next => .note record (next.map f)

/-- Receives what an interpreter does, in a state of its own. -/
structure Sink (ω : Type) where
  /-- Text was printed. -/
  print : String → ω → ω
  /-- A call was made; the value goes back to the interpreter. -/
  call : ApiCall → ω → Value × ω
  /-- A log record was left. -/
  note : LogRecord → ω → ω

/-- Carries out an evaluation: its result, the state it leaves, and the state of the sink. -/
def Evaluation.run {α ω : Type} (sink : Sink ω) : Evaluation α → ω → Except Fault Unit × α × ω
  | .finish result state, w => (result, state, w)
  | .print text next, w => next.run sink (sink.print text w)
  | .call request next, w =>
    let (answer, w) := sink.call request w
    (next answer).run sink w
  | .note record next, w => next.run sink (sink.note record w)

/-! ### Interpreters -/

/-- The operations of an interpreter. Evaluation is only asked for between a start that succeeds and
the next stop. -/
class Interpreter (σ : Type) where
  /-- Brings the interpreter up with the given arguments. -/
  start : List String → σ → Except Fault Unit × σ
  /-- Shuts it down. -/
  stop : σ → σ
  /-- Asks whether it can be started again after a stop. The answer need not stay the same. -/
  canRestart : σ → Bool × σ
  /-- Evaluates code in the global environment; the value is dropped. -/
  eval : String → σ → Evaluation σ

/-! ### Gathering -/

/-- What a gathering sink receives. -/
inductive Gathered where
  /-- Printed text. -/
  | output (text : String)
  /-- A call of the console. -/
  | call (request : ApiCall)
  deriving DecidableEq, Repr

/-- What a gathering sink has received, and the log. -/
structure Gathering where
  /-- Prints and calls, in order. -/
  events : List Gathered := []
  /-- Log records, in order. -/
  log : List LogRecord := []

/-- A sink that gathers what it receives and answers calls by `answer`. -/
def Sink.gathering (answer : ApiCall → Value) : Sink Gathering where
  print text g := { g with events := g.events ++ [.output text] }
  call request g := (answer request, { g with events := g.events ++ [.call request] })
  note record g := { g with log := g.log ++ [record] }

end RCart
