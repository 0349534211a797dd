import Mathlib.Tactic.Common
import RCart.Interpreter.Basic

/-!
Maps between interpreters.

* `Interpreter.IsMorphism`: a map of states that respects every operation, so that whoever drives
  the interpreters cannot tell a state from its image;
* `Evaluation.run_map`: carrying out a mapped evaluation, the sink receives the same;
* `Evaluation.run_settle`: the same for an evaluation whose final state is changed knowing its
  result.
-/

namespace RCart

/-! ### Evaluations -/

namespace Evaluation

variable {α β γ ω : Type}

/-- An evaluation whose final state is changed knowing how it ended. -/
def settle (f : Except Fault Unit → α → β) : Evaluation α → Evaluation β
  | .finish result state => .finish result (f result state)
  | .print text next => .print text (next.settle f)
  | .call request next => .call request fun answer => (next answer).settle f
  | .note record next => .note record (next.settle f)

/-- Changing the final state is settling without a look at the result. -/
lemma map_eq_settle (f : α → β) (e : Evaluation α) : e.map f = e.settle fun _ => f := by
  induction e with
  | finish result state => rfl
  | print text next ih => rw [map, settle, ih]
  | call request next ih => rw [map, settle]; exact congrArg _ (funext ih)
  | note record next ih => rw [map, settle, ih]

lemma map_settle (f : Except Fault Unit → α → β) (g : β → γ) (e : Evaluation α) :
    (e.settle f).map g = e.settle fun result state => g (f result state) := by
  induction e with
  | finish result state => rfl
  | print text next ih => rw [settle, map, ih, settle]
  | call request next ih => rw [settle, map, settle]; exact congrArg _ (funext ih)
  | note record next ih => rw [settle, map, ih, settle]

lemma map_map (f : α → β) (g : β → γ) (e : Evaluation α) :
    (e.map f).map g = e.map fun state => g (f state) := by
  rw [map_eq_settle f, map_settle, map_eq_settle]

/-- Settling with the state itself changes nothing. -/
lemma settle_id (e : Evaluation α) : (e.settle fun _ state => state) = e := by
  induction e with
  | finish result state => rfl
  | print text next ih => rw [settle, ih]
  | call request next ih => rw [settle]; exact congrArg _ (funext ih)
  | note record next ih => rw [settle, ih]

/-- What a sink receives, and the result, do not depend on what becomes of the final state. -/
lemma run_settle (sink : Sink ω) (f : Except Fault Unit → α → β) (e : Evaluation α) (w : ω) :
    (e.settle f).run sink w
      = ((e.run sink w).1, f (e.run sink w).1 (e.run sink w).2.1, (e.run sink w).2.2) := by
  induction e generalizing w with
  | finish result state => rfl
  | print text next ih => exact ih _
  | call request next ih => exact ih _ _
  | note record next ih => exact ih _

lemma run_map (sink : Sink ω) (f : α → β) (e : Evaluation α) (w : ω) :
    (e.map f).run sink w
      = ((e.run sink w).1, f (e.run sink w).2.1, (e.run sink w).2.2) := by
  rw [map_eq_settle, run_settle]

end Evaluation

/-! ### Morphisms -/

/-- A map from the states of one interpreter to those of another that respects every operation. -/
structure Interpreter.IsMorphism {σ τ : Type} [Interpreter σ] [Interpreter τ] (f : σ → τ) :
    Prop where
  start : ∀ argv s, Interpreter.start argv (f s)
    = ((Interpreter.start argv s).1, f (Interpreter.start argv s).2)
  stop : ∀ s, Interpreter.stop (f s) = f (Interpreter.stop s)
  canRestart : ∀ s, Interpreter.canRestart (f s)
    = ((Interpreter.canRestart s).1, f (Interpreter.canRestart s).2)
  eval : ∀ code s, Interpreter.eval code (f s) = (Interpreter.eval code s).map f

end RCart
