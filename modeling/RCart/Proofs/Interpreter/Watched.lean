import RCart.Proofs.Interpreter.Morphism

/-!
Interpreters under watch.

`Watched σ` is the interpreter `σ` together with the calls that it has received and how it answered
them. It behaves as `σ` does, so what is proved about its calls is proved about those of `σ`.

* `InterpreterCall`, `Watched`: a call with its answer, and an interpreter that keeps its calls;
* `Watched.isMorphism_inner`: forgetting the calls respects every operation.
-/

namespace RCart

/-- A call that an interpreter has received, with its answer. -/
inductive InterpreterCall where
  /-- It was to come up. -/
  | start (argv : List String) (result : Except Fault Unit)
  /-- It was shut down. -/
  | stop
  /-- It was asked whether it can come back. -/
  | canRestart (answer : Bool)
  /-- It evaluated code. -/
  | eval (code : String) (result : Except Fault Unit)

/-- Whether a call evaluates a piece of code. -/
def InterpreterCall.Evaluates (code : String) (call : InterpreterCall) : Prop :=
  ∃ result, call = .eval code result

/-- An interpreter that keeps the calls that it receives. -/
structure Watched (σ : Type) where
  /-- The interpreter. -/
  inner : σ
  /-- The calls so far, in order. -/
  calls : List InterpreterCall := []

namespace Watched

variable {σ : Type}

/-- Adds a call. -/
def add (calls : List InterpreterCall) (call : InterpreterCall) (inner : σ) : Watched σ :=
  ⟨inner, calls ++ [call]⟩

variable [Interpreter σ]

instance : Interpreter (Watched σ) where
  start argv w :=
    let (result, inner) := Interpreter.start argv w.inner
    (result, add w.calls (.start argv result) inner)
  stop w := add w.calls .stop (Interpreter.stop w.inner)
  canRestart w :=
    let (answer, inner) := Interpreter.canRestart w.inner
    (answer, add w.calls (.canRestart answer) inner)
  eval code w :=
    (Interpreter.eval code w.inner).settle fun result => add w.calls (.eval code result)

/-- Whoever drives an interpreter cannot tell whether it is watched. -/
lemma isMorphism_inner : Interpreter.IsMorphism (inner : Watched σ → σ) where
  start _ _ := rfl
  stop _ := rfl
  canRestart _ := rfl
  eval code w := by
    change _ = (Evaluation.settle _ _).map _
    rw [Evaluation.map_settle]
    exact (Evaluation.settle_id _).symm

/-! ### The calls of each operation -/

lemma calls_start (argv : List String) (w : Watched σ) :
    (Interpreter.start argv w).2.calls
      = w.calls ++ [.start argv (Interpreter.start argv w).1] := rfl

lemma calls_stop (w : Watched σ) : (Interpreter.stop w).calls = w.calls ++ [.stop] := rfl

lemma calls_canRestart (w : Watched σ) :
    (Interpreter.canRestart w).2.calls
      = w.calls ++ [.canRestart (Interpreter.canRestart w).1] := rfl

lemma eval_eq_settle (code : String) (w : Watched σ) :
    Interpreter.eval code w
      = (Interpreter.eval code w.inner).settle fun result => add w.calls (.eval code result) := rfl

lemma calls_eval {ω : Type} (sink : Sink ω) (code : String) (w : Watched σ) (v : ω) :
    ((Interpreter.eval code w).run sink v).2.1.calls
      = w.calls ++ [.eval code ((Interpreter.eval code w).run sink v).1] := by
  rw [eval_eq_settle, Evaluation.run_settle]
  rfl

end Watched

end RCart
