import RCart.Foreign.Entry

/-!
C programs that call the entry points.

* `EntryCall`, `EntryReply`: a call of an entry point with all that is passed, and what comes back;
* `EntryOutcome`: how a call ended, and what it leaves to its thread;
* `Foreign.enter`: any call;
* `Foreign.enterAll`: calls in order, up to the first that does not return.
-/

namespace RCart

/-- A call of an entry point. A directory tree comes with the call that reads a file. -/
inductive EntryCall where
  /-- New settings from a file. -/
  | configure (tree : FileTree) (path : Option CString)
  /-- Load a cart. -/
  | init (host : Option CHost) (code : Option CString)
  /-- Let go of the session. -/
  | close (host : Option CHost)
  /-- A frame is due. -/
  | tick (host : Option CHost)
  /-- A cart has been loaded. -/
  | boot (host : Option CHost)
  /-- A menu entry was chosen. -/
  | menu (host : Option CHost) (index : Int32) (data : UInt64)
  /-- A row of the border is drawn. -/
  | border (host : Option CHost) (row : Int32) (data : UInt64)
  /-- A row of the screen is drawn. -/
  | scanline (host : Option CHost) (row : Int32) (data : UInt64)
  /-- Run console input. -/
  | eval (host : Option CHost) (code : Option CString)
  /-- Outline a text, perhaps without a place for the size. -/
  | outline (code : Option CString) (hasSize : Bool)

/-- What comes back from a call of an entry point. -/
inductive EntryReply where
  /-- Nothing. -/
  | nothing
  /-- Yes or no. -/
  | truth (yes : Bool)
  /-- An outline. -/
  | outline (reply : Foreign.OutlineReply)
  deriving DecidableEq, Repr

/-- How a call of an entry point ended, and the thread that it leaves. -/
structure EntryOutcome (σ : Type) where
  /-- How the call ended. -/
  ending : Ending EntryReply
  /-- The thread afterwards. -/
  thread : Foreign.Thread σ

namespace Foreign

variable {σ : Type}

/-- A call that has used nothing of a thread but its adapter. -/
def Thread.after {α : Type} (t : Thread σ) (reply : α → EntryReply) (o : Outcome σ α) :
    EntryOutcome σ :=
  ⟨o.ending.map reply, { t with adapter := o.adapter }⟩

variable [Interpreter σ]

/-- Asks for an operation that answers nothing on behalf of a host, if there is one. -/
def ask (host : Option CHost) (operation : Operation) (t : Thread σ) : EntryOutcome σ :=
  t.after (fun _ => .nothing) (withHost host operation t.adapter)

/-- Calls an entry point. -/
def enter (supply : Supply σ) : EntryCall → Thread σ → EntryOutcome σ
  | .configure tree path, t =>
    let (accepted, adapter) := configure supply tree path t.adapter
    ⟨.returned (.truth accepted), { t with adapter }⟩
  | .init host code, t => t.after .truth (init host code t.adapter)
  | .close host, t => ask host .close t
  | .tick host, t => ask host .tick t
  | .boot host, t => ask host .boot t
  | .menu host index data, t => ask host (.menu index data) t
  | .border host row data, t => ask host (.border row data) t
  | .scanline host row data, t => ask host (.scanline row data) t
  | .eval host code, t => t.after (fun _ => .nothing) (eval host code t.adapter)
  | .outline code hasSize, t =>
    let (reply, t) := outline code hasSize t
    ⟨.returned (.outline reply), t⟩

/-- Calls entry points in order, up to the first call that does not return. The outcomes, one for
each call that was made. -/
def enterAll (supply : Supply σ) : List EntryCall → Thread σ → List (EntryOutcome σ)
  | [], _ => []
  | call :: rest, t =>
    let outcome := enter supply call t
    match outcome.ending with
    | .returned _ => outcome :: enterAll supply rest outcome.thread
    | _ => [outcome]

end Foreign

end RCart
