import Mathlib.Tactic.Common
import RCart.Adapter.Operation
import RCart.Proofs.Interpreter.Recorder

/-!
The lifecycle of an adapter over a recorder, without the adapter.

The machine knows how far the interpreter has come, whether the session is attached, and how many
start calls there were; for each operation it says which snippets are evaluated.

* `Rehearsal`: a recorder as it is built, and the settings of the adapter over it;
* `Lifecycle`: the states of the machine;
* `Rehearsal.step`, `Rehearsal.run`: the snippets of an operation and of a run, with the state that
  they leave.
-/

namespace RCart

/-- A recorder as it is built, and the settings of the adapter over it. -/
structure Rehearsal where
  /-- How many of the first start calls fail. -/
  failingStarts : UInt32 := 0
  /-- Whether the recorder can be started again. -/
  restartable : Bool := false
  /-- Patterns and reactions. -/
  reactions : List (String × Reaction) := []
  /-- The settings. -/
  settings : Settings := {}

/-- A state of the lifecycle. -/
structure Lifecycle where
  /-- How far the interpreter has come. -/
  runtime : Runtime := .notStarted
  /-- Whether a console holds on to the session. -/
  attached : Bool := false
  /-- How many start calls there were. -/
  starts : UInt32 := 0

namespace Rehearsal

variable (p : Rehearsal)

/-- The new recorder. -/
def recorder : Recorder :=
  { failingStarts := p.failingStarts, restartable := p.restartable, reactions := p.reactions }

/-- The new adapter, in an environment. -/
def adapter (env : Environment) : Adapter Recorder :=
  .fresh p.recorder p.settings env

/-! ### Starting and letting go -/

/-- At most `left` start calls, up to the first that succeeds: whether one does, and the state that
they leave. -/
def attempts : (left : ℕ) → Lifecycle → Bool × Lifecycle
  | 0, m => (false, m)
  | left + 1, m =>
    if m.starts + 1 ≤ p.failingStarts then attempts left { m with starts := m.starts + 1 }
    else (true, ⟨.running, true, m.starts + 1⟩)

/-- Start calls as many as the settings allow, at least one. -/
def attempt (m : Lifecycle) : Bool × Lifecycle :=
  p.attempts (max p.settings.maxStartAttempts 1).toNat m

/-- Holds on to an interpreter that is up; starts any other, if it can be started. -/
def startUp (m : Lifecycle) : Bool × Lifecycle :=
  match m.runtime with
  | .notStarted => p.attempt m
  | .running => (true, { m with attached := true })
  | .shutDown => if p.restartable then p.attempt m else (false, m)

/-- Lets go of an attached session: what can be started again is shut down, anything else is
wiped. -/
def letGo (m : Lifecycle) : List String × Lifecycle :=
  if p.restartable then ([], { m with runtime := .shutDown, attached := false })
  else ([Source.wipe], { m with attached := false })

/-- Lets go of a session that is attached. -/
def clear (m : Lifecycle) : List String × Lifecycle :=
  if m.attached then p.letGo m else ([], m)

/-! ### Operations -/

/-- Lets go of what was there, starts up, and then forwards the keywords, evaluates the cart and,
unless the cart raises an error, gives it a `BOOT`. -/
def load (keywords : List String) (code : String) (m : Lifecycle) : List String × Lifecycle :=
  let (wiped, m) := p.clear m
  match p.startUp m with
  | (true, m) =>
    (wiped ++ keywords.map Source.forwarder ++ [code]
      ++ (if Recorder.raisesOn p.reactions code then [] else [Source.bootFallback]), m)
  | (false, m) => (wiped, m)

/-- Calls a cart function if the interpreter is up and the session attached. -/
def call (request : Source.GuardedCall) (m : Lifecycle) : List String × Lifecycle :=
  (if m.attached && m.runtime == .running then [request.source] else [], m)

/-- Runs console input on an interpreter that is up; one that can be started loads it as a cart. -/
def input (keywords : List String) (code : String) (m : Lifecycle) : List String × Lifecycle :=
  match m.runtime with
  | .notStarted => p.load keywords code m
  | .running => ([code], m)
  | .shutDown => if p.restartable then p.load keywords code m else ([], m)

/-- The snippets that an operation evaluates, and the state that it leaves. -/
def step (console : Console) : Operation → Lifecycle → List String × Lifecycle
  | .init code, m => p.load console.keywords code m
  | .close, m => p.clear m
  | .tick, m => call Source.Hook.tick.call m
  | .boot, m => call Source.Hook.boot.call m
  | .menu _ _, m => call Source.Hook.menu.call m
  | .border _ _, m => call Source.Hook.border.call m
  | .scanline _ _, m => call Source.Hook.scanline.call m
  | .eval code, m => p.input console.keywords code m
  | .invoke request, m => call request m
  | .outline _, m => ([], m)

/-- The snippets that a run evaluates, operation by operation, and the state that it leaves. -/
def run : List (Console × Operation) → Lifecycle → List (List String) × Lifecycle
  | [], m => ([], m)
  | (console, operation) :: rest, m =>
    let (snippets, m) := p.step console operation m
    let (more, m) := run rest m
    (snippets :: more, m)

end Rehearsal

end RCart
