import RCart.Adapter.Basic

/-!
The operations of an adapter.

A console drives an adapter by operations: it loads carts, calls hooks, runs what is typed, lets the
session go and asks for outlines. An operation returns, or it ends the process because the
interpreter cannot go on, or it breaks off because the environment does not accept a default of the
settings.

* `Operation`, `Answer`, `Ending`: what can be asked, what comes back, and how it ends;
* `Adapter.init`, `close`, `call`, `eval`, `outline`: the operations;
* `Adapter.perform`: any operation;
* `Adapter.performAll`: operations in order, up to the first that does not return.
-/

namespace RCart

/-! ### Endings -/

/-- How an operation ended. -/
inductive Ending (α : Type) where
  /-- It returned. -/
  | returned (answer : α)
  /-- It ended the process. -/
  | terminated
  /-- It broke off because the environment does not accept a variable. -/
  | brokeOff
  deriving DecidableEq, Repr

/-- An ending whose answer is changed. -/
def Ending.map {α β : Type} (f : α → β) : Ending α → Ending β
  | returned answer => .returned (f answer)
  | terminated => .terminated
  | brokeOff => .brokeOff

/-- The exit code of a process that goes on after an operation, or ends with it. -/
def Ending.exitCode {α : Type} : Ending α → UInt8
  | returned _ => 0
  | terminated => 1
  | brokeOff => 101

/-- How an operation ended, and the adapter it leaves. -/
structure Outcome (σ α : Type) where
  /-- How the operation ended. -/
  ending : Ending α
  /-- The adapter afterwards. -/
  adapter : Adapter σ

/-- An outcome whose answer is changed. -/
def Outcome.map {σ α β : Type} (f : α → β) (o : Outcome σ α) : Outcome σ β :=
  ⟨o.ending.map f, o.adapter⟩

namespace Adapter

variable {σ : Type}

/-- An operation that answers nothing. -/
def quiet (a : Adapter σ) : Outcome σ Unit :=
  ⟨.returned (), a⟩

/-- Ends the process because the interpreter cannot go on. -/
def terminate {α : Type} (a : Adapter σ) (reason : String) : Outcome σ α :=
  ⟨.terminated, { a with transcript := a.transcript.fatal reason }⟩

/-- Shows the fault that stopped an operation. -/
def showFault (a : Adapter σ) : Fault → Outcome σ Unit
  | .fatal reason => a.terminate reason
  | fault => quiet ((a.note .error fault.message).tell fault.message)

/-- Ends an operation after its last step: a fault is shown. -/
def conclude (attempt : Attempt σ) : Outcome σ Unit :=
  match attempt.result with
  | .ok () => attempt.adapter.quiet
  | .error fault => attempt.adapter.showFault fault

/-- Gives the variables of the settings their defaults; `none` when the environment does not accept
one. -/
def fillEnvironment (a : Adapter σ) : Option (Adapter σ) :=
  (a.env.fill a.settings.env).map fun filled => { a with env := filled.env }.logAll filled.log

variable [Interpreter σ]

/-! ### Operations -/

/-- Answers whether a cart was loaded; if not, the reason is shown. -/
def concludeLoad (code : String) (attempt : Attempt σ) : Outcome σ Bool :=
  let a := attempt.adapter
  match attempt.result with
  | .ok () =>
    ⟨.returned true, a.note .info ("cart loaded (" ++ toString code.utf8ByteSize ++ " bytes)")⟩
  | .error (.fatal reason) => a.terminate reason
  | .error fault =>
    ⟨.returned false, (a.note .error ("init failed: " ++ fault.message)).tell fault.message⟩

/-- Loads a cart and answers whether it could be loaded. -/
def init (console : Console) (code : String) (a : Adapter σ) : Outcome σ Bool :=
  match a.fillEnvironment with
  | none => ⟨.brokeOff, a⟩
  | some a => concludeLoad code (a.load console code)

/-- Lets go of the session, if it is attached. -/
def close (console : Console) (a : Adapter σ) : Outcome σ Unit :=
  if a.session.attached then conclude (a.release console)
  else quiet (a.note .debug "close: no active session")

/-- Calls a cart function if the session is active. -/
def call (console : Console) (request : Source.GuardedCall) (a : Adapter σ) : Outcome σ Unit :=
  if a.session.isActive then conclude (a.runForgiving console request.source)
  else quiet (a.note .trace (request.name ++ " skipped, no active session"))

/-- Whether console input has to start the interpreter first: it was never started, or it was shut
down and can come back. -/
def mustStart (a : Adapter σ) : Bool × Adapter σ :=
  match a.session.runtime with
  | .notStarted => (true, a)
  | .shutDown =>
    let (possible, session) := a.session.canRestart
    (possible, { a with session })
  | .running => (false, a)

/-- Runs console input. If the interpreter has to be started first, the input is loaded as a
cart. -/
def eval (console : Console) (code : String) (a : Adapter σ) : Outcome σ Unit :=
  match a.fillEnvironment with
  | none => ⟨.brokeOff, a⟩
  | some a =>
    let (must, a) := a.mustStart
    if must then (a.init console code).map fun _ => ()
    else conclude (a.runForgiving console code)

omit [Interpreter σ] in
/-- Answers the outline of a text. -/
def outline (code : String) (a : Adapter σ) : Outcome σ (List OutlineItem) :=
  let panel := a.panel.showParameters code
  ⟨.returned panel.items, { a with panel }⟩

end Adapter

/-! ### Any operation -/

/-- What a console can ask of an adapter. The numbers that come with some hooks stay with the
adapter. -/
inductive Operation where
  /-- Load a cart. -/
  | init (code : String)
  /-- Let go of the session. -/
  | close
  /-- A frame is due. -/
  | tick
  /-- A cart has been loaded. -/
  | boot
  /-- A menu entry was chosen. -/
  | menu (index : Int32) (data : UInt64)
  /-- A row of the border is drawn. -/
  | border (row : Int32) (data : UInt64)
  /-- A row of the screen is drawn. -/
  | scanline (row : Int32) (data : UInt64)
  /-- Run console input. -/
  | eval (code : String)
  /-- Call a cart function. -/
  | invoke (request : Source.GuardedCall)
  /-- Outline a text. -/
  | outline (code : String)
  deriving DecidableEq, Repr

/-- What an operation answers. -/
inductive Answer where
  /-- Nothing. -/
  | nothing
  /-- Whether a cart was loaded. -/
  | loaded (success : Bool)
  /-- The items of an outline. -/
  | items (found : List OutlineItem)
  deriving DecidableEq, Repr

/-- The record of a hook that comes with a number and a pointer. -/
def hookRecord (hook : Source.Hook) (what : String) (number : Int32) (data : UInt64) : String :=
  hook.functionName ++ " " ++ what ++ "=" ++ String.ofList (Decimal.integerText number.toInt)
    ++ " data=0x" ++ String.ofList (Nat.toDigits 16 data.toNat)

namespace Adapter

variable {σ : Type} [Interpreter σ]

/-- Calls the cart function of a hook if the session is active. -/
def callHook (console : Console) (hook : Source.Hook) (a : Adapter σ) : Outcome σ Answer :=
  (a.call console hook.call).map fun _ => .nothing

/-- Performs an operation. -/
def perform (console : Console) : Operation → Adapter σ → Outcome σ Answer
  | .init code, a => (a.init console code).map .loaded
  | .close, a => (a.close console).map fun _ => .nothing
  | .tick, a => a.callHook console .tick
  | .boot, a => a.callHook console .boot
  | .menu index data, a =>
    (a.note .trace (hookRecord .menu "index" index data)).callHook console .menu
  | .border row data, a =>
    (a.note .trace (hookRecord .border "row" row data)).callHook console .border
  | .scanline row data, a =>
    (a.note .trace (hookRecord .scanline "row" row data)).callHook console .scanline
  | .eval code, a => (a.eval console code).map fun _ => .nothing
  | .invoke request, a => (a.call console request).map fun _ => .nothing
  | .outline code, a => (a.outline code).map .items

/-- Performs operations in order, each with the console that asks for it, up to the first that does
not return. The outcomes, one for each operation that was performed. -/
def performAll : List (Console × Operation) → Adapter σ → List (Outcome σ Answer)
  | [], _ => []
  | (console, operation) :: rest, a =>
    let outcome := a.perform console operation
    match outcome.ending with
    | .returned _ => outcome :: performAll rest outcome.adapter
    | _ => [outcome]

end Adapter

end RCart
