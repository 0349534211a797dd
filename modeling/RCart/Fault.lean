/-!
What can go wrong in a session.

`Fault.message` is the text that is shown for a fault. A fault raised by the cart is shown as the
interpreter words it.
-/

namespace RCart

/-- What can go wrong. -/
inductive Fault where
  /-- The interpreter did not start in any attempt. -/
  | start (attempts : UInt32) (reason : String)
  /-- Something was to be evaluated while no interpreter was running. -/
  | notStarted
  /-- The interpreter was shut down and cannot come back. -/
  | restartUnsupported
  /-- The interpreter cannot go on. -/
  | fatal (reason : String)
  /-- The cart raised an error. -/
  | eval (reason : String)
  /-- The outline does not fit into memory. -/
  | outOfMemory
  /-- The log could not be set up. -/
  | logSetup (reason : String)
  deriving DecidableEq, Repr

/-- The text of a fault. -/
def Fault.message : Fault → String
  | start attempts reason =>
    "interpreter failed to start after " ++ toString attempts.toNat ++ " attempt(s): " ++ reason
  | notStarted => "interpreter is not started"
  | restartUnsupported => "interpreter cannot be restarted once shut down"
  | fatal reason => "fatal interpreter error: " ++ reason
  | eval reason => reason
  | outOfMemory => "out of memory while collecting outline items"
  | logSetup reason => "log setup: " ++ reason

end RCart
