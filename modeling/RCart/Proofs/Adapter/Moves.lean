import Mathlib.Logic.Relation
import Mathlib.Tactic.Common
import RCart.Proofs.Adapter.Run
import RCart.Proofs.Adapter.Step
import RCart.Proofs.Session.Contract

/-!
The moves of an adapter.

Whatever an operation does, its session goes through moves of a few kinds, so what every move keeps
is kept by every operation and along every run.

* `Session.Move`, `Session.Moves`: a move, and any number of them;
* `Session.Moves.reaches`: moves are made of actions;
* `Interpreter.Keeps`, `Session.Moves.keeps`: what an interpreter keeps is kept by moves;
* `Adapter.moves_perform`, `moves_afterAll`: an operation, and a run, makes moves.
-/

namespace RCart

namespace Session

variable {σ : Type} [Interpreter σ]

/-- A move of an adapter, as its session sees it. -/
inductive Move : Session σ → Session σ → Prop
  /-- The interpreter is to come up. -/
  | start (argv : List String) (maxAttempts : UInt32) (s : Session σ) :
    Move s (s.start argv maxAttempts).session
  /-- Code is evaluated. -/
  | eval {ω : Type} (code : String) (sink : Sink ω) (received : ω) (s : Session σ) :
    Move s ((s.eval code).run sink received).2.1
  /-- The interpreter is asked whether it can come back. -/
  | ask (s : Session σ) : Move s s.canRestart.2
  /-- What can come back is shut down. -/
  | shutDown {s : Session σ} (h : s.canRestart.1 = true) : Move s s.canRestart.2.stop.1
  /-- Anything else is wiped and let go. -/
  | wipe {ω : Type} (sink : Sink ω) (received : ω) {s : Session σ} (h : s.canRestart.1 = false) :
    Move s ((s.canRestart.2.eval Source.wipe).run sink received).2.1.detach

/-- Any number of moves. -/
def Moves : Session σ → Session σ → Prop :=
  Relation.ReflTransGen Move

lemma Moves.refl (s : Session σ) : s.Moves s := Relation.ReflTransGen.refl

lemma Move.moves {s t : Session σ} (h : s.Move t) : s.Moves t := Relation.ReflTransGen.single h

lemma Moves.trans {s t u : Session σ} (hst : s.Moves t) (htu : t.Moves u) : s.Moves u :=
  Relation.ReflTransGen.trans hst htu

/-- A move is made of actions. -/
lemma Move.reaches {s t : Session σ} (h : s.Move t) : s.Reaches t := by
  cases h with
  | start argv maxAttempts => exact s.reaches_act (.start argv maxAttempts)
  | eval code sink received => exact s.reaches_act (.eval code sink received)
  | ask => exact s.reaches_act .askRestart
  | shutDown hcan =>
      calc Reaches s s.canRestart.2 := s.reaches_act .askRestart
        Reaches _ s.canRestart.2.stop.1 := s.canRestart.2.reaches_act .stop
  | wipe sink received hcannot =>
      set wiped := ((s.canRestart.2.eval Source.wipe).run sink received).2.1
      calc Reaches s s.canRestart.2 := s.reaches_act .askRestart
        Reaches _ wiped := s.canRestart.2.reaches_act (.eval Source.wipe sink received)
        Reaches _ wiped.detach := wiped.reaches_act .detach

lemma Moves.reaches {s t : Session σ} (h : s.Moves t) : s.Reaches t := by
  induction h with
  | refl => exact .refl s
  | tail _ hmove ih => exact ih.trans hmove.reaches

end Session

/-! ### What an interpreter keeps -/

section Keeps

variable {σ : Type} [Interpreter σ] {P : σ → Prop}

/-- No operation of an interpreter leads out of a property of its states. -/
structure Interpreter.Keeps (P : σ → Prop) : Prop where
  start : ∀ argv s, P s → P (Interpreter.start argv s).2
  stop : ∀ s, P s → P (Interpreter.stop s)
  canRestart : ∀ s, P s → P (Interpreter.canRestart s).2
  eval : ∀ {ω : Type} code (sink : Sink ω) w s, P s → P ((Interpreter.eval code s).run sink w).2.1

/-- A watched interpreter keeps what the interpreter keeps. -/
lemma Interpreter.Keeps.watched (h : Interpreter.Keeps P) :
    Interpreter.Keeps fun w : Watched σ => P w.inner where
  start argv w := h.start argv w.inner
  stop w := h.stop w.inner
  canRestart w := h.canRestart w.inner
  eval code sink v w hw := by
    rw [Watched.eval_eq_settle, Evaluation.run_settle]
    exact h.eval code sink v w.inner hw

namespace Session

lemma keeps_startAttempts (hstart : ∀ argv s, P s → P (Interpreter.start argv s).2)
    (argv : List String) (attempts : UInt32) (left : ℕ) (reason : String) {s : Session σ}
    (hs : P s.interpreter) : P (startAttempts argv attempts left reason s).session.interpreter := by
  induction left generalizing reason s with
  | zero => exact hs
  | succ left ih =>
      have hnext := hstart argv s.interpreter hs
      simp only [startAttempts]
      split
      · next heq =>
          rw [heq] at hnext
          exact hnext
      · next heq =>
          rw [heq] at hnext
          exact ih _ hnext

/-- A start keeps what asking for a restart and a start of the interpreter keep. -/
lemma keeps_start (hstart : ∀ argv s, P s → P (Interpreter.start argv s).2)
    (hask : ∀ s, P s → P (Interpreter.canRestart s).2) (argv : List String) (maxAttempts : UInt32)
    {s : Session σ} (hs : P s.interpreter) :
    P (s.start argv maxAttempts).session.interpreter := by
  have hasked : P s.canRestart.2.interpreter := hask s.interpreter hs
  rw [Session.start]
  split
  · exact keeps_startAttempts hstart argv _ _ _ hs
  · exact hs
  · simp only
    split
    · exact keeps_startAttempts hstart argv _ _ _ hasked
    · exact hasked

lemma keeps_eval {ω : Type} (h : Interpreter.Keeps P) (code : String) (sink : Sink ω) (w : ω)
    {s : Session σ} (hs : P s.interpreter) :
    P ((s.eval code).run sink w).2.1.interpreter := by
  by_cases hup : s.runtime = .running
  · simp only [eval, hup, if_true, Evaluation.run_map]
    exact h.eval code sink w s.interpreter hs
  · rw [eval_of_not_running hup]
    exact hs

/-- What an interpreter keeps is kept by a move. -/
lemma Move.keeps (h : Interpreter.Keeps P) {s t : Session σ} (hmove : s.Move t)
    (hs : P s.interpreter) : P t.interpreter := by
  have hasked : P s.canRestart.2.interpreter := h.canRestart s.interpreter hs
  cases hmove with
  | start argv maxAttempts => exact keeps_start h.start h.canRestart argv maxAttempts hs
  | eval code sink received => exact keeps_eval h code sink received hs
  | ask => exact hasked
  | shutDown hcan =>
      rw [stop]
      split
      · exact h.stop _ hasked
      · exact hasked
  | wipe sink received hcannot => exact keeps_eval h Source.wipe sink received hasked

lemma Moves.keeps (h : Interpreter.Keeps P) {s t : Session σ} (hmoves : s.Moves t)
    (hs : P s.interpreter) : P t.interpreter := by
  induction hmoves with
  | refl => exact hs
  | tail _ hmove ih => exact hmove.keeps h ih

end Session

end Keeps

namespace Adapter

variable {σ : Type} [Interpreter σ]

/-! ### Steps -/

lemma moves_andThen {s : Session σ} {t : Attempt σ} {next : Adapter σ → Attempt σ}
    (h : s.Moves t.adapter.session)
    (hnext : ∀ a : Adapter σ, a.session.Moves (next a).adapter.session) :
    s.Moves (t.andThen next).adapter.session :=
  andThen_keeps (P := fun a => s.Moves a.session) h fun a ha => ha.trans (hnext a)

lemma moves_evaluate (console : Console) (code : String) (a : Adapter σ) :
    a.session.Moves (a.evaluate console code).adapter.session :=
  (Session.Move.eval code (console.sink a.settings.traceColor) a.transcript a.session).moves

lemma moves_runForgiving (console : Console) (code : String) (a : Adapter σ) :
    a.session.Moves (a.runForgiving console code).adapter.session := by
  rw [session_runForgiving]
  exact a.moves_evaluate console code

lemma moves_defineForwarders (console : Console) (keywords : List String) (a : Adapter σ) :
    a.session.Moves (defineForwarders console keywords a).adapter.session := by
  induction keywords generalizing a with
  | nil => exact .refl _
  | cons keyword rest ih => exact moves_andThen (a.moves_runForgiving console _) ih

lemma moves_start (a : Adapter σ) : a.session.Moves a.start.adapter.session := by
  rw [session_start]
  exact (Session.Move.start a.settings.argv a.settings.maxStartAttempts a.session).moves

lemma moves_release (console : Console) (a : Adapter σ) :
    a.session.Moves (a.release console).adapter.session := by
  cases h : a.session.canRestart.1 with
  | true =>
      rw [release_of_canRestart h]
      exact (Session.Move.shutDown h).moves
  | false =>
      rw [release_of_not_canRestart h, session_wipeAndDetach]
      exact (Session.Move.wipe (console.sink a.settings.traceColor) a.transcript h).moves

lemma moves_releaseAttached (console : Console) (a : Adapter σ) :
    a.session.Moves (a.releaseAttached console).adapter.session := by
  rw [releaseAttached]
  split
  · exact moves_release console (a.note _ _)
  · exact .refl _

/-- Once it has let go of what was there, loading goes on from there. -/
lemma moves_load_of_released (console : Console) (code : String) (a : Adapter σ) :
    (a.releaseAttached console).adapter.session.Moves (a.load console code).adapter.session := by
  refine moves_andThen (moves_andThen ?_ fun b => moves_evaluate console code (b.note _ _))
    (moves_runForgiving console _)
  exact moves_andThen (moves_andThen (.refl _) moves_start) (moves_defineForwarders console _)

lemma moves_prepare (console : Console) (a : Adapter σ) :
    a.session.Moves (a.prepare console).adapter.session :=
  moves_andThen (moves_andThen (a.moves_releaseAttached console) moves_start)
    (moves_defineForwarders console _)

lemma moves_load (console : Console) (code : String) (a : Adapter σ) :
    a.session.Moves (a.load console code).adapter.session :=
  (a.moves_releaseAttached console).trans (moves_load_of_released console code a)

/-! ### Operations -/

lemma moves_init (console : Console) (code : String) (a : Adapter σ) :
    a.session.Moves (a.init console code).adapter.session := by
  cases hfill : a.fillEnvironment with
  | none =>
      rw [init, hfill]
      exact .refl _
  | some b =>
      rw [init_of_fill hfill, session_concludeLoad, ← session_of_fillEnvironment hfill]
      exact b.moves_load console code

lemma moves_close (console : Console) (a : Adapter σ) :
    a.session.Moves (a.close console).adapter.session := by
  rw [close]
  split
  · rw [session_conclude]
    exact a.moves_release console
  · exact .refl _

lemma moves_call (console : Console) (request : Source.GuardedCall) (a : Adapter σ) :
    a.session.Moves (a.call console request).adapter.session := by
  rw [call]
  split
  · rw [session_conclude]
    exact a.moves_runForgiving console _
  · exact .refl _

lemma moves_mustStart (a : Adapter σ) : a.session.Moves a.mustStart.2.session := by
  rw [mustStart]
  split
  · exact .refl _
  · exact (Session.Move.ask a.session).moves
  · exact .refl _

lemma moves_eval (console : Console) (code : String) (a : Adapter σ) :
    a.session.Moves (a.eval console code).adapter.session := by
  rw [eval]
  cases hfill : a.fillEnvironment with
  | none => exact .refl _
  | some b =>
      rw [← session_of_fillEnvironment hfill]
      refine b.moves_mustStart.trans ?_
      simp only
      split
      · exact moves_init console code b.mustStart.2
      · rw [session_conclude]
        exact moves_runForgiving console code b.mustStart.2

/-- An operation makes moves. -/
lemma moves_perform (console : Console) (operation : Operation) (a : Adapter σ) :
    a.session.Moves (a.perform console operation).adapter.session := by
  cases operation with
  | init code => exact a.moves_init console code
  | close => exact a.moves_close console
  | tick => exact a.moves_call console _
  | boot => exact a.moves_call console _
  | menu index data => exact moves_call console _ (a.note _ _)
  | border row data => exact moves_call console _ (a.note _ _)
  | scanline row data => exact moves_call console _ (a.note _ _)
  | eval code => exact a.moves_eval console code
  | invoke request => exact a.moves_call console request
  | outline code => exact .refl _

/-- So does a run. -/
lemma moves_afterAll {operations : List (Console × Operation)} {a b : Adapter σ}
    (h : afterAll operations a = some b) : a.session.Moves b.session := by
  refine afterAll_keeps (P := fun c => a.session.Moves c.session) (fun asked _ c hc => ?_)
    (.refl _) h
  exact hc.trans (c.moves_perform asked.1 asked.2)

end Adapter

end RCart
