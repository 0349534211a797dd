import Mathlib.Logic.Relation
import RCart.Proofs.Adapter.Run
import RCart.Proofs.Adapter.Step

/-!
The strides of an adapter.

Every operation is made of strides of a few kinds, each of which changes little, so what every
stride adds or leaves alone is added or left alone by every operation.

* `Adapter.Stride`, `Strides`: a stride, and any number of them;
* `Adapter.strides_perform`: an operation makes strides;
* `Adapter.settings_perform`, `settings_afterAll`: no operation and no run changes the settings.
-/

namespace RCart

namespace Adapter

variable {σ : Type} [Interpreter σ]

/-- A stride of an adapter that is asked by a console. -/
inductive Stride (console : Console) : Adapter σ → Adapter σ → Prop
  /-- Code is evaluated. -/
  | evaluate (code : String) (a : Adapter σ) :
    Stride console a (a.evaluate console code).adapter
  /-- A text is shown in the colour of the settings. -/
  | tell (text : String) (a : Adapter σ) : Stride console a (a.tell text)
  /-- It is shown why the interpreter cannot go on. -/
  | fatal (reason : String) (a : Adapter σ) :
    Stride console a { a with transcript := a.transcript.fatal reason }
  /-- Records are logged. -/
  | log (records : List LogRecord) (a : Adapter σ) : Stride console a (a.logAll records)
  /-- Variables get their defaults. -/
  | fill {a b : Adapter σ} (h : a.fillEnvironment = some b) : Stride console a b
  /-- The interpreter is asked whether it can come back. -/
  | ask (a : Adapter σ) : Stride console a a.asked
  /-- The interpreter is to come up. -/
  | start (a : Adapter σ) : Stride console a a.start.adapter
  /-- The interpreter is shut down. -/
  | shutDown (a : Adapter σ) : Stride console a a.shutDown
  /-- The session is let go. -/
  | detach (a : Adapter σ) : Stride console a { a with session := a.session.detach }
  /-- A text is outlined. -/
  | outline (code : String) (a : Adapter σ) :
    Stride console a { a with panel := a.panel.showParameters code }

/-- Any number of strides. -/
def Strides (console : Console) : Adapter σ → Adapter σ → Prop :=
  Relation.ReflTransGen (Stride console)

variable {console : Console}

lemma Strides.refl (a : Adapter σ) : Strides console a a := Relation.ReflTransGen.refl

lemma Stride.strides {a b : Adapter σ} (h : Stride console a b) : Strides console a b :=
  Relation.ReflTransGen.single h

lemma Strides.trans {a b c : Adapter σ} (hab : Strides console a b) (hbc : Strides console b c) :
    Strides console a c :=
  Relation.ReflTransGen.trans hab hbc

/-! ### Steps -/

lemma strides_andThen {a : Adapter σ} {t : Attempt σ} {next : Adapter σ → Attempt σ}
    (h : Strides console a t.adapter) (hnext : ∀ b, Strides console b (next b).adapter) :
    Strides console a (t.andThen next).adapter :=
  andThen_keeps h fun b hb => hb.trans (hnext b)

lemma strides_note (level : Level) (text : String) (a : Adapter σ) :
    Strides console a (a.note level text) :=
  (Stride.log [⟨level, text⟩] a).strides

lemma strides_runForgiving (code : String) (a : Adapter σ) :
    Strides console a (a.runForgiving console code).adapter := by
  have hevaluated : Strides console a (a.evaluate console code).adapter :=
    (Stride.evaluate code a).strides
  rw [runForgiving]
  split
  · exact (hevaluated.trans (strides_note _ _ _)).trans (Stride.tell _ _).strides
  · exact hevaluated

lemma strides_defineForwarders (keywords : List String) (a : Adapter σ) :
    Strides console a (defineForwarders console keywords a).adapter := by
  induction keywords generalizing a with
  | nil => exact .refl a
  | cons keyword rest ih => exact strides_andThen (strides_runForgiving _ a) ih

lemma strides_release (a : Adapter σ) : Strides console a (a.release console).adapter := by
  have hasked : Strides console a a.asked := (Stride.ask a).strides
  cases h : a.session.canRestart.1 with
  | true =>
      rw [release_of_canRestart h]
      exact hasked.trans (Stride.shutDown a.asked).strides
  | false =>
      rw [release_of_not_canRestart h]
      have hwiped := hasked.trans (strides_runForgiving Source.wipe a.asked)
      exact (hwiped.trans (Stride.detach _).strides).trans (strides_note _ _ _)

lemma strides_releaseAttached (a : Adapter σ) :
    Strides console a (a.releaseAttached console).adapter := by
  rw [releaseAttached]
  split
  · exact (strides_note _ _ a).trans (strides_release _)
  · exact .refl a

lemma strides_load (code : String) (a : Adapter σ) :
    Strides console a (a.load console code).adapter := by
  have hstarted : Strides console a ((a.releaseAttached console).andThen start).adapter :=
    strides_andThen (strides_releaseAttached a) fun b => (Stride.start b).strides
  have hprepared : Strides console a (a.prepare console).adapter :=
    strides_andThen hstarted (strides_defineForwarders _)
  refine strides_andThen (strides_andThen hprepared fun b => ?_) (strides_runForgiving _)
  exact (strides_note _ _ b).trans (Stride.evaluate code _).strides

/-! ### Operations -/

lemma strides_showFault (fault : Fault) (a : Adapter σ) :
    Strides console a (a.showFault fault).adapter := by
  cases fault with
  | fatal reason => exact (Stride.fatal reason a).strides
  | _ => exact (strides_note _ _ a).trans (Stride.tell _ _).strides

lemma strides_conclude {a : Adapter σ} {t : Attempt σ} (h : Strides console a t.adapter) :
    Strides console a (conclude t).adapter := by
  obtain ⟨result, b⟩ := t
  cases result with
  | ok u => exact h
  | error fault => exact h.trans (strides_showFault fault b)

lemma strides_concludeLoad (code : String) {a : Adapter σ} {t : Attempt σ}
    (h : Strides console a t.adapter) : Strides console a (concludeLoad code t).adapter := by
  obtain ⟨result, b⟩ := t
  cases result with
  | ok u => exact h.trans (strides_note _ _ b)
  | error fault =>
      cases fault with
      | fatal reason => exact h.trans (Stride.fatal reason b).strides
      | _ => exact h.trans ((strides_note _ _ b).trans (Stride.tell _ _).strides)

lemma strides_init (code : String) (a : Adapter σ) :
    Strides console a (a.init console code).adapter := by
  cases hfill : a.fillEnvironment with
  | none =>
      rw [init, hfill]
      exact .refl a
  | some b =>
      rw [init_of_fill hfill]
      exact strides_concludeLoad code ((Stride.fill hfill).strides.trans (strides_load code b))

lemma strides_close (a : Adapter σ) : Strides console a (a.close console).adapter := by
  rw [close]
  split
  · exact strides_conclude (strides_release a)
  · exact strides_note _ _ a

lemma strides_call (request : Source.GuardedCall) (a : Adapter σ) :
    Strides console a (a.call console request).adapter := by
  rw [call]
  split
  · exact strides_conclude (strides_runForgiving _ a)
  · exact strides_note _ _ a

lemma strides_mustStart (a : Adapter σ) : Strides console a a.mustStart.2 := by
  rw [mustStart]
  split
  · exact .refl a
  · exact (Stride.ask a).strides
  · exact .refl a

lemma strides_eval (code : String) (a : Adapter σ) :
    Strides console a (a.eval console code).adapter := by
  rw [eval]
  cases hfill : a.fillEnvironment with
  | none => exact .refl a
  | some b =>
      have hready : Strides console a b.mustStart.2 :=
        (Stride.fill hfill).strides.trans (strides_mustStart b)
      simp only
      split
      · exact hready.trans (strides_init code _)
      · exact strides_conclude (hready.trans (strides_runForgiving code _))

/-- A hook with a number is noted before it is called. -/
lemma strides_hook (text : String) (hook : Source.Hook) (a : Adapter σ) :
    Strides console a ((a.note .trace text).callHook console hook).adapter :=
  (strides_note _ _ a).trans (strides_call _ _)

/-- An operation makes strides. -/
lemma strides_perform (console : Console) (operation : Operation) (a : Adapter σ) :
    Strides console a (a.perform console operation).adapter := by
  cases operation with
  | init code => exact strides_init code a
  | close => exact strides_close a
  | tick => exact strides_call _ a
  | boot => exact strides_call _ a
  | menu index data => exact strides_hook _ _ a
  | border row data => exact strides_hook _ _ a
  | scanline row data => exact strides_hook _ _ a
  | eval code => exact strides_eval code a
  | invoke request => exact strides_call request a
  | outline code => exact (Stride.outline code a).strides

/-! ### Settings -/

lemma Stride.settings_eq {a b : Adapter σ} (h : Stride console a b) : b.settings = a.settings := by
  cases h with
  | fill h =>
      obtain ⟨filled, -, rfl⟩ := Option.map_eq_some_iff.mp h
      rfl
  | start => exact a.settings_start
  | _ => rfl

lemma Strides.settings_eq {a b : Adapter σ} (h : Strides console a b) :
    b.settings = a.settings := by
  induction h with
  | refl => rfl
  | tail _ hlast ih => exact hlast.settings_eq.trans ih

/-- No operation changes the settings, and neither does a run. -/
lemma settings_perform (console : Console) (operation : Operation) (a : Adapter σ) :
    (a.perform console operation).adapter.settings = a.settings :=
  (strides_perform console operation a).settings_eq

lemma settings_afterAll {run : List (Console × Operation)} {a b : Adapter σ}
    (h : afterAll run a = some b) : b.settings = a.settings := by
  refine afterAll_keeps (P := fun c => c.settings = a.settings) (fun asked _ c hc => ?_) rfl h
  exact (c.settings_perform asked.1 asked.2).trans hc

end Adapter

end RCart
