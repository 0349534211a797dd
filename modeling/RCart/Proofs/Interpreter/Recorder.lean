import RCart.Proofs.Interpreter.Shown

/-!
What a recorder makes of a piece of code.

* `Recorder.NeverDies`: no reaction kills the recorder;
* `Recorder.raisesOn`: a piece of code meets a reaction that raises an error;
* `Recorder.ends_verdict`: what fires ends in an error exactly when the code meets one;
* `Recorder.run_eval`: an evaluation remembers the code, keeps everything but the answers, and ends
  as the reactions say.
-/

namespace RCart

/-- Whether a reaction raises an error. -/
def Reaction.isError : Reaction → Bool
  | .raises _ => true
  | _ => false

/-- Whether a reaction is the death of the recorder. -/
def Reaction.isDeath : Reaction → Bool
  | .dies _ => true
  | _ => false

namespace Recorder

/-- Whether one of some reactions raises an error on a piece of code. -/
def raisesOn (reactions : List (String × Reaction)) (code : String) : Bool :=
  reactions.any fun e => contains code e.1 && e.2.isError

/-- Whether none of some reactions is the death of the recorder. -/
def NeverDies (reactions : List (String × Reaction)) : Prop :=
  ∀ e ∈ reactions, e.2.isDeath = false

/-- The result of a piece of code: an error exactly when it meets one. -/
def Ends (reactions : List (String × Reaction)) (code : String) (result : Except Fault Unit) :
    Prop :=
  if raisesOn reactions code then ∃ reason, result = .error (.eval reason) else result = .ok ()

/-- A reaction that raises no error on a piece of code does not count for its result. -/
lemma ends_cons_of_idle {e : String × Reaction} {code : String}
    (h : (contains code e.1 && e.2.isError) = false) (rest : List (String × Reaction))
    (result : Except Fault Unit) : Ends (e :: rest) code result ↔ Ends rest code result := by
  rw [Ends, Ends, raisesOn, List.any_cons, h, Bool.false_or, raisesOn]

/-- The reactions that fire end an evaluation in an error exactly when the code meets one. -/
lemma ends_verdict (code : String) {reactions : List (String × Reaction)}
    (h : NeverDies reactions) : Ends reactions code (verdict (fired code reactions)) := by
  induction reactions with
  | nil => rfl
  | cons e rest ih =>
      obtain ⟨pattern, reaction⟩ := e
      have hrest : Ends rest code (verdict (fired code rest)) :=
        ih fun e he => h e (List.mem_cons_of_mem _ he)
      cases hmatch : contains code pattern with
      | false =>
          rw [ends_cons_of_idle (by simp [hmatch]), fired_cons_of_not_contains hmatch]
          exact hrest
      | true =>
          cases reaction with
          | prints text =>
              rw [ends_cons_of_idle (by simp [Reaction.isError]), fired_cons_of_going hmatch rfl,
                verdict_cons_of_going rfl]
              exact hrest
          | calls request =>
              rw [ends_cons_of_idle (by simp [Reaction.isError]), fired_cons_of_going hmatch rfl,
                verdict_cons_of_going rfl]
              exact hrest
          | raises reason =>
              rw [fired_cons_of_end hmatch rfl, verdict_of_end rfl]
              simp [Ends, raisesOn, hmatch, Reaction.isError]
          | dies reason => simpa [Reaction.isDeath] using h _ List.mem_cons_self

/-- An evaluation remembers the code, changes nothing else but the answers, and ends as the
reactions say. -/
lemma run_eval {ω : Type} (sink : Sink ω) (code : String) {r : Recorder}
    (hrunning : r.running = true) (h : NeverDies r.reactions) (w : ω) :
    Ends r.reactions code ((Interpreter.eval code r).run sink w).1
      ∧ ∃ answers, ((Interpreter.eval code r).run sink w).2.1
          = { r with evaluated := r.evaluated ++ [code], answers } := by
  rw [run_eval_of_running sink hrunning]
  exact ⟨ends_verdict code h, _, rfl⟩

end Recorder

end RCart
