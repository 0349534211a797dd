import RCart.Console.Host
import RCart.Outline
import RCart.Session
import RCart.Settings.Basic
import RCart.Source.Snippet
import RCart.Text.Hidden

/-!
An adapter plays carts on a console.

An `Adapter` holds a session with an interpreter, its settings, the process environment and the
transcript of what has passed to the console. This module has the steps that the operations of
`RCart.Adapter.Operation` are made of. Each step ends in success or in a fault, and leaves an
adapter either way:

* `Adapter.evaluate`: code is evaluated, output and calls going to the console;
* `Adapter.runForgiving`: the same, but an error of the cart is shown and then forgotten;
* `Adapter.defineForwarders`: forwarders are defined, up to the first that fails;
* `Adapter.release`: the session is let go, its interpreter stopped or its globals wiped;
* `Adapter.prepare`: the session is made ready for a cart;
* `Adapter.load`: a cart is loaded into a fresh session.
-/

namespace RCart

/-- An adapter over an interpreter whose state is `σ`. -/
structure Adapter (σ : Type) where
  /-- The session with the interpreter. -/
  session : Session σ
  /-- The settings. -/
  settings : Settings := {}
  /-- The outline that the editor shows. -/
  panel : OutlinePanel := {}
  /-- The environment of the process. -/
  env : Environment := .empty
  /-- What has passed to the console, and the log. -/
  transcript : Transcript := {}

/-- A new adapter over an interpreter. -/
def Adapter.fresh {σ : Type} (interpreter : σ) (settings : Settings) (env : Environment) :
    Adapter σ :=
  { session := { interpreter }, settings, env }

/-- How a step ended, and the adapter it leaves. -/
structure Attempt (σ : Type) where
  /-- Success, or why the step failed. -/
  result : Except Fault Unit
  /-- The adapter afterwards. -/
  adapter : Adapter σ

/-- Goes on with another step if this one succeeded. -/
def Attempt.andThen {σ : Type} (a : Attempt σ) (next : Adapter σ → Attempt σ) : Attempt σ :=
  match a.result with
  | .ok () => next a.adapter
  | .error _ => a

namespace Adapter

variable {σ : Type}

/-- A step that succeeds. -/
def done (a : Adapter σ) : Attempt σ :=
  ⟨.ok (), a⟩

/-- Adds log records. -/
def logAll (a : Adapter σ) (records : List LogRecord) : Adapter σ :=
  { a with transcript := a.transcript.logAll records }

/-- Adds a log record. -/
def note (a : Adapter σ) (level : Level) (text : String) : Adapter σ :=
  { a with transcript := a.transcript.note level text }

/-- Shows a text in the colour of the settings. -/
def tell (a : Adapter σ) (text : String) : Adapter σ :=
  { a with transcript := a.transcript.trace text a.settings.traceColor }

variable [Interpreter σ]

/-! ### Evaluating -/

/-- Evaluates code. Output is shown, calls are answered by the console. -/
def evaluate (console : Console) (code : String) (a : Adapter σ) : Attempt σ :=
  let (result, session, transcript) :=
    (a.session.eval code).run (console.sink a.settings.traceColor) a.transcript
  ⟨result, { a with session, transcript }⟩

/-- Evaluates code. An error that the cart raises is shown and counts as success. -/
def runForgiving (console : Console) (code : String) (a : Adapter σ) : Attempt σ :=
  let attempt := a.evaluate console code
  match attempt.result with
  | .error (.eval reason) =>
    done ((attempt.adapter.note .debug ("R error: " ++ reason)).tell reason)
  | _ => attempt

/-- Defines the forwarders of the given keywords, in order. -/
def defineForwarders (console : Console) : List String → Adapter σ → Attempt σ
  | [], a => a.done
  | keyword :: rest, a =>
    (a.runForgiving console (Source.forwarder keyword)).andThen (defineForwarders console rest)

/-! ### Starting and letting go -/

/-- Starts the interpreter as the settings say, unless it is running. -/
def start (a : Adapter σ) : Attempt σ :=
  let started := a.session.start a.settings.argv a.settings.maxStartAttempts
  let after := { a with session := started.session }.logAll started.log
  match started.result with
  | .ok true => done (after.note .info ("R started: " ++ Text.debugList a.settings.argv))
  | .ok false => after.done
  | .error fault => ⟨.error fault, after⟩

/-- Shuts the interpreter down. -/
def shutDown (a : Adapter σ) : Adapter σ :=
  let (session, records) := a.session.stop
  { a with session }.logAll records

/-- Wipes the interpreter's globals and lets go of the session, even if the wiping fails. -/
def wipeAndDetach (console : Console) (a : Adapter σ) : Attempt σ :=
  let wiped := a.runForgiving console Source.wipe
  let after := { wiped.adapter with session := wiped.adapter.session.detach }
  ⟨wiped.result, after.note .info "session detached"⟩

/-- Lets go of the session: an interpreter that can be restarted is shut down, any other keeps
running with its globals wiped. -/
def release (console : Console) (a : Adapter σ) : Attempt σ :=
  let (possible, session) := a.session.canRestart
  let a := { a with session }
  if possible then a.shutDown.done else a.wipeAndDetach console

/-! ### Loading -/

/-- Lets go of the session if it is still attached. -/
def releaseAttached (console : Console) (a : Adapter σ) : Attempt σ :=
  if a.session.attached then
    (a.note .debug "init over a live session, resetting it first").release console
  else a.done

/-- Makes the session ready for a cart: lets go of what was there, starts the interpreter and
defines the forwarders. -/
def prepare (console : Console) (a : Adapter σ) : Attempt σ :=
  (a.releaseAttached console)
    |>.andThen start
    |>.andThen (defineForwarders console console.keywords)

/-- Notes that the forwarders are defined, and evaluates the cart. -/
def evaluateCart (console : Console) (code : String) (a : Adapter σ) : Attempt σ :=
  (a.note .debug (toString console.keywords.length ++ " forwarding shims defined")).evaluate
    console code

/-- Loads a cart: makes the session ready for it, evaluates it and gives it a `BOOT` if it has
none. -/
def load (console : Console) (code : String) (a : Adapter σ) : Attempt σ :=
  (a.prepare console)
    |>.andThen (evaluateCart console code)
    |>.andThen (runForgiving console Source.bootFallback)

end Adapter

end RCart
