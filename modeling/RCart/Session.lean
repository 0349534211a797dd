import RCart.Interpreter.Basic

/-!
A session with an interpreter.

A session keeps apart whether the interpreter is up and whether a console holds on to the session.
The interpreter goes from not started to running to shut down, and back to running only if it can be
restarted; the session is attached by a start and let go by `detach` or `stop`.

* `Session.start`: a start in at most so many attempts;
* `Session.stop`, `attach`, `detach`, `eval`: the other operations;
* `Session.isActive`: running and attached.
-/

namespace RCart

/-- How far the interpreter of a session has come. -/
inductive Runtime where
  /-- It was never started. -/
  | notStarted
  /-- It is up. -/
  | running
  /-- It was shut down. -/
  | shutDown
  deriving DecidableEq, Repr

/-- A session with an interpreter whose state is `σ`. -/
structure Session (σ : Type) where
  /-- The interpreter. -/
  interpreter : σ
  /-- How far it has come. -/
  runtime : Runtime := .notStarted
  /-- Whether a console holds on to the session. -/
  attached : Bool := false

namespace Session

variable {σ : Type}

/-- Whether hooks run: the interpreter is up and the session attached. -/
def isActive (s : Session σ) : Bool :=
  s.attached && s.runtime == .running

/-- Whether the interpreter was ever started. -/
def hasStarted (s : Session σ) : Bool :=
  s.runtime != .notStarted

variable [Interpreter σ]

/-! ### Starting -/

/-- Asks whether the interpreter can be started again after a stop. -/
def canRestart (s : Session σ) : Bool × Session σ :=
  let (possible, interpreter) := Interpreter.canRestart s.interpreter
  (possible, { s with interpreter })

/-- What became of an attempted start. -/
structure Started (σ : Type) where
  /-- Whether the interpreter was started, or why it was not. -/
  result : Except Fault Bool
  /-- The session afterwards. -/
  session : Session σ
  /-- What was logged. -/
  log : List LogRecord

/-- The log record of an attempt that succeeded. -/
def startedRecord (attempt attempts : Nat) : LogRecord :=
  ⟨.info, "interpreter started (attempt " ++ toString attempt ++ "/" ++ toString attempts ++ ")"⟩

/-- The log record of an attempt that failed. -/
def failedRecord (attempt attempts : Nat) (fault : Fault) : LogRecord :=
  ⟨.warn, "interpreter start attempt " ++ toString attempt ++ "/" ++ toString attempts
    ++ " failed: " ++ fault.message⟩

/-- Makes the last `left` of `attempts` attempts. `reason` is the text of the last failure so
far. -/
def startAttempts (argv : List String) (attempts : UInt32) :
    (left : Nat) → (reason : String) → Session σ → Started σ
  | 0, reason, s => ⟨.error (.start attempts reason), s, []⟩
  | left + 1, _, s =>
    let attempt := attempts.toNat - left
    match Interpreter.start argv s.interpreter with
    | (.ok (), interpreter) =>
      ⟨.ok true, { interpreter, runtime := .running, attached := true },
        [startedRecord attempt attempts.toNat]⟩
    | (.error fault, interpreter) =>
      let rest := startAttempts argv attempts left fault.message { s with interpreter }
      { rest with log := failedRecord attempt attempts.toNat fault :: rest.log }

/-- Starts the interpreter in at most `maxAttempts` attempts, at least one. If it is running
already, the session is attached and nothing else happens. -/
def start (argv : List String) (maxAttempts : UInt32) (s : Session σ) : Started σ :=
  let attempts := max maxAttempts 1
  match s.runtime with
  | .notStarted => startAttempts argv attempts attempts.toNat "" s
  | .running => ⟨.ok false, { s with attached := true }, []⟩
  | .shutDown =>
    let (possible, s) := s.canRestart
    if possible then startAttempts argv attempts attempts.toNat "" s
    else ⟨.error .restartUnsupported, s, []⟩

/-! ### Stopping, attaching, evaluating -/

/-- Shuts a running interpreter down, and lets go of the session. -/
def stop (s : Session σ) : Session σ × List LogRecord :=
  if s.runtime = .running then
    ({ interpreter := Interpreter.stop s.interpreter, runtime := .shutDown, attached := false },
      [⟨.info, "interpreter shut down"⟩])
  else ({ s with attached := false }, [])

omit [Interpreter σ] in
/-- Holds on to the session if the interpreter is up. -/
def attach (s : Session σ) : Session σ :=
  { s with attached := s.runtime == .running }

omit [Interpreter σ] in
/-- Lets go of the session. -/
def detach (s : Session σ) : Session σ :=
  { s with attached := false }

/-- Evaluates code if the interpreter is up. -/
def eval (code : String) (s : Session σ) : Evaluation (Session σ) :=
  if s.runtime = .running then
    (Interpreter.eval code s.interpreter).map fun interpreter => { s with interpreter }
  else .finish (.error .notStarted) s

end Session

end RCart
