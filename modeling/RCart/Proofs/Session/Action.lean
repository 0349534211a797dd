import RCart.Proofs.Interpreter.Watched
import RCart.Session

/-!
What can be done with a session, one action after another.

* `Session.Action`, `Session.act`, `actAll`: an action, and what it makes of a session;
* `Session.Reaches`: one session becomes another by some actions;
* `Session.actAll_mapInterpreter`: a session over the image of an interpreter acts as the one over
  the interpreter does, so nothing is lost by watching an interpreter.
-/

namespace RCart

namespace Session

variable {σ τ : Type}

/-! ### Actions -/

/-- What can be done with a session. Code is evaluated for a sink that has received something
before. -/
inductive Action : Type 1 where
  /-- It is started. -/
  | start (argv : List String) (maxAttempts : UInt32)
  /-- It is shut down. -/
  | stop
  /-- It is held on to. -/
  | attach
  /-- It is let go. -/
  | detach
  /-- It evaluates code. -/
  | eval {ω : Type} (code : String) (sink : Sink ω) (received : ω)
  /-- Its interpreter is asked whether it can come back after a stop. -/
  | askRestart

/-- The session after an action. -/
def act [Interpreter σ] (s : Session σ) : Action → Session σ
  | .start argv maxAttempts => (s.start argv maxAttempts).session
  | .stop => s.stop.1
  | .attach => s.attach
  | .detach => s.detach
  | .eval code sink received => ((s.eval code).run sink received).2.1
  | .askRestart => s.canRestart.2

/-- The session after some actions, in order. -/
def actAll [Interpreter σ] (s : Session σ) (actions : List Action) : Session σ :=
  actions.foldl act s

lemma actAll_append [Interpreter σ] (s : Session σ) (first rest : List Action) :
    s.actAll (first ++ rest) = (s.actAll first).actAll rest :=
  List.foldl_append

/-- One session becomes the other by some actions. -/
def Reaches [Interpreter σ] (s t : Session σ) : Prop :=
  ∃ actions, s.actAll actions = t

lemma Reaches.refl [Interpreter σ] (s : Session σ) : s.Reaches s := ⟨[], rfl⟩

lemma Reaches.trans [Interpreter σ] {s t u : Session σ} (hst : s.Reaches t) (htu : t.Reaches u) :
    s.Reaches u := by
  obtain ⟨first, rfl⟩ := hst
  obtain ⟨rest, rfl⟩ := htu
  exact ⟨first ++ rest, s.actAll_append first rest⟩

instance [Interpreter σ] : Trans (Reaches (σ := σ)) Reaches Reaches where
  trans := Reaches.trans

lemma reaches_act [Interpreter σ] (s : Session σ) (action : Action) : s.Reaches (s.act action) :=
  ⟨[action], rfl⟩

/-! ### Sessions over the image of an interpreter -/

/-- The same session over the image of its interpreter. -/
def mapInterpreter (f : σ → τ) (s : Session σ) : Session τ :=
  { interpreter := f s.interpreter, runtime := s.runtime, attached := s.attached }

section Morphism

variable [Interpreter σ] [Interpreter τ] {f : σ → τ} (hf : Interpreter.IsMorphism f)

include hf

lemma canRestart_mapInterpreter (s : Session σ) :
    (s.mapInterpreter f).canRestart = (s.canRestart.1, s.canRestart.2.mapInterpreter f) := by
  simp only [canRestart, mapInterpreter, hf.canRestart]

lemma startAttempts_mapInterpreter (argv : List String) (attempts : UInt32) (left : ℕ)
    (reason : String) (s : Session σ) :
    startAttempts argv attempts left reason (s.mapInterpreter f)
      = ⟨(startAttempts argv attempts left reason s).result,
          (startAttempts argv attempts left reason s).session.mapInterpreter f,
          (startAttempts argv attempts left reason s).log⟩ := by
  induction left generalizing reason s with
  | zero => rfl
  | succ left ih =>
      simp only [startAttempts, mapInterpreter, hf.start]
      rcases hstart : Interpreter.start argv s.interpreter with ⟨_ | _, interpreter⟩
      · simp only
        rw [show ({ interpreter := f interpreter, runtime := s.runtime, attached := s.attached }
            : Session τ) = ({ s with interpreter } : Session σ).mapInterpreter f from rfl, ih]
        rfl
      · rfl

lemma start_mapInterpreter (argv : List String) (maxAttempts : UInt32) (s : Session σ) :
    (s.mapInterpreter f).start argv maxAttempts
      = ⟨(s.start argv maxAttempts).result, (s.start argv maxAttempts).session.mapInterpreter f,
          (s.start argv maxAttempts).log⟩ := by
  simp only [start]
  cases hruntime : s.runtime with
  | notStarted =>
      simp only [show (s.mapInterpreter f).runtime = .notStarted from hruntime]
      exact startAttempts_mapInterpreter hf ..
  | running =>
      simp only [show (s.mapInterpreter f).runtime = .running from hruntime]
      rfl
  | shutDown =>
      simp only [show (s.mapInterpreter f).runtime = .shutDown from hruntime,
        canRestart_mapInterpreter hf]
      split
      · exact startAttempts_mapInterpreter hf ..
      · rfl

lemma stop_mapInterpreter (s : Session σ) :
    (s.mapInterpreter f).stop = (s.stop.1.mapInterpreter f, s.stop.2) := by
  by_cases h : s.runtime = .running <;> simp [stop, mapInterpreter, h, hf.stop]

lemma eval_mapInterpreter (code : String) (s : Session σ) :
    (s.mapInterpreter f).eval code = (s.eval code).map (mapInterpreter f) := by
  by_cases h : s.runtime = .running
  · simp only [eval, mapInterpreter, h, if_true, hf.eval, Evaluation.map_map]
  · simp only [eval, mapInterpreter, h, if_false, Evaluation.map]

/-- A session over the image of an interpreter acts as the session over the interpreter. -/
lemma act_mapInterpreter (action : Action) (s : Session σ) :
    (s.mapInterpreter f).act action = (s.act action).mapInterpreter f := by
  cases action with
  | start argv maxAttempts => simp only [act, start_mapInterpreter hf]
  | stop => simp only [act, stop_mapInterpreter hf]
  | attach => rfl
  | detach => rfl
  | eval code sink received => simp only [act, eval_mapInterpreter hf, Evaluation.run_map]
  | askRestart => simp only [act, canRestart_mapInterpreter hf]

lemma actAll_mapInterpreter (actions : List Action) (s : Session σ) :
    (s.mapInterpreter f).actAll actions = (s.actAll actions).mapInterpreter f := by
  induction actions generalizing s with
  | nil => rfl
  | cons action actions ih =>
      simp only [actAll, List.foldl_cons] at ih ⊢
      rw [act_mapInterpreter hf, ih]

end Morphism

end Session

end RCart
