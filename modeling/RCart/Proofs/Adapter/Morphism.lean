import RCart.Proofs.Adapter.Run
import RCart.Proofs.Adapter.Simulation
import RCart.Proofs.Session.Action

/-!
Adapters over the image of an interpreter.

An adapter reaches its interpreter through the session only, so along a morphism of interpreters
every step and every operation of one adapter is that of the other:

* `Adapter.simulation_mapInterpreter`: an adapter over an interpreter and that over its image cannot
  be told apart;
* `Adapter.perform_mapInterpreter`: for one operation;
* `Adapter.performAll_mapInterpreter`, `afterAll_mapInterpreter`: for a run.
-/

namespace RCart

variable {σ τ : Type}

/-- The same adapter over the image of its interpreter. -/
def Adapter.mapInterpreter (f : σ → τ) (a : Adapter σ) : Adapter τ :=
  { session := a.session.mapInterpreter f, settings := a.settings, panel := a.panel, env := a.env,
    transcript := a.transcript }

/-- The same attempt over the image of the interpreter. -/
def Attempt.mapInterpreter (f : σ → τ) (t : Attempt σ) : Attempt τ :=
  ⟨t.result, t.adapter.mapInterpreter f⟩

/-- The same outcome over the image of the interpreter. -/
def Outcome.mapInterpreter {α : Type} (f : σ → τ) (o : Outcome σ α) : Outcome τ α :=
  ⟨o.ending, o.adapter.mapInterpreter f⟩

variable {f : σ → τ}

namespace Adapter

lemma fillEnvironment_mapInterpreter (a : Adapter σ) :
    (a.mapInterpreter f).fillEnvironment = a.fillEnvironment.map (mapInterpreter f) := by
  simp only [fillEnvironment, Option.map_map]
  rfl

variable [Interpreter σ] [Interpreter τ] (hf : Interpreter.IsMorphism f)

include hf

/-! ### Steps -/

lemma evaluate_mapInterpreter (console : Console) (code : String) (a : Adapter σ) :
    (a.mapInterpreter f).evaluate console code = (a.evaluate console code).mapInterpreter f := by
  simp only [evaluate, mapInterpreter, Session.eval_mapInterpreter hf, Evaluation.run_map]
  rfl

lemma start_mapInterpreter (a : Adapter σ) :
    (a.mapInterpreter f).start = a.start.mapInterpreter f := by
  simp only [start, mapInterpreter, Session.start_mapInterpreter hf]
  rcases a.session.start a.settings.argv a.settings.maxStartAttempts with ⟨fault | up, session, log⟩
  · rfl
  · cases up <;> rfl

lemma shutDown_mapInterpreter (a : Adapter σ) :
    (a.mapInterpreter f).shutDown = a.shutDown.mapInterpreter f := by
  have h : (a.mapInterpreter f).session = a.session.mapInterpreter f := rfl
  simp only [shutDown, h, Session.stop_mapInterpreter hf]
  rfl

/-- An adapter over an interpreter and that over its image cannot be told apart. -/
lemma simulation_mapInterpreter (console : Console) :
    Simulation (fun a b => b = a.mapInterpreter f) console console where
  keywords := rfl
  attached := by
    rintro a _ rfl
    rfl
  runtime := by
    rintro a _ rfl
    rfl
  log := by
    rintro a _ rfl records
    rfl
  tell := by
    rintro a _ rfl text
    rfl
  evaluate := by
    rintro a _ rfl code
    rw [evaluate_mapInterpreter hf]
    exact ⟨rfl, rfl⟩
  start := by
    rintro a _ rfl
    rw [start_mapInterpreter hf]
    exact ⟨rfl, rfl⟩
  asked := by
    rintro a _ rfl
    have h := Session.canRestart_mapInterpreter hf a.session
    refine ⟨congrArg Prod.fst h, ?_⟩
    rw [asked, mapInterpreter, h]
    rfl
  shutDown := by
    rintro a _ rfl
    exact shutDown_mapInterpreter hf a
  detach := by
    rintro a _ rfl
    rfl
  fatal := by
    rintro a _ rfl reason
    rfl
  fill := by
    rintro a _ rfl
    rw [fillEnvironment_mapInterpreter]
    exact rel_map_image a.fillEnvironment
  outline := by
    rintro a _ rfl code
    exact ⟨rfl, rfl⟩

/-! ### Operations -/

lemma init_mapInterpreter (console : Console) (code : String) (a : Adapter σ) :
    (a.mapInterpreter f).init console code = (a.init console code).mapInterpreter f :=
  ((simulation_mapInterpreter hf console).init rfl code).eq_image

/-- An operation of an adapter over the image of an interpreter is the operation over the
interpreter. -/
theorem perform_mapInterpreter (console : Console) (operation : Operation) (a : Adapter σ) :
    (a.mapInterpreter f).perform console operation
      = (a.perform console operation).mapInterpreter f :=
  ((simulation_mapInterpreter hf console).perform rfl operation).eq_image

theorem performAll_mapInterpreter (operations : List (Console × Operation)) (a : Adapter σ) :
    performAll operations (a.mapInterpreter f)
      = (performAll operations a).map (Outcome.mapInterpreter f) := by
  induction operations generalizing a with
  | nil => rfl
  | cons asked rest ih =>
      simp only [performAll, perform_mapInterpreter hf]
      rcases a.perform asked.1 asked.2 with ⟨ending, b⟩
      cases ending with
      | returned answer => exact congrArg _ (ih b)
      | terminated => rfl
      | brokeOff => rfl

lemma afterAll_mapInterpreter (operations : List (Console × Operation)) (a : Adapter σ) :
    afterAll operations (a.mapInterpreter f) = (afterAll operations a).map (mapInterpreter f) := by
  induction operations generalizing a with
  | nil => rfl
  | cons asked rest ih =>
      rw [afterAll_cons, afterAll_cons, perform_mapInterpreter hf]
      rcases a.perform asked.1 asked.2 with ⟨ending, b⟩
      cases ending with
      | returned answer => exact ih b
      | terminated => rfl
      | brokeOff => rfl

end Adapter

end RCart
