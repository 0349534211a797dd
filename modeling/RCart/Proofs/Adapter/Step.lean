import RCart.Adapter.Operation
import RCart.Proofs.Session.Calls

/-!
What the steps of an adapter make of its session, and how they end.

* `forgive`: the result of an evaluation, but for the errors of carts;
* `Adapter.session_runForgiving`, `result_runForgiving`, `session_start`, `result_start`: a step as
  its session sees it;
* `Adapter.session_conclude`, `session_concludeLoad`, `session_of_fillEnvironment`: the rest of an
  operation leaves the session as it is.
-/

namespace RCart

/-- The result of an evaluation in which errors of the cart count as success. -/
def forgive : Except Fault Unit → Except Fault Unit
  | .error (.eval _) => .ok ()
  | result => result

lemma forgive_eq_ok_iff (result : Except Fault Unit) :
    forgive result = .ok () ↔ result = .ok () ∨ ∃ reason, result = .error (.eval reason) := by
  cases result with
  | ok u => simp [forgive]
  | error fault => cases fault <;> simp [forgive]

namespace Adapter

variable {σ : Type}

/-! ### One step after another -/

lemma andThen_of_ok {t : Attempt σ} (h : t.result = .ok ()) (next : Adapter σ → Attempt σ) :
    t.andThen next = next t.adapter := by
  rw [Attempt.andThen, h]

lemma andThen_of_error {t : Attempt σ} {fault : Fault} (h : t.result = .error fault)
    (next : Adapter σ → Attempt σ) : t.andThen next = t := by
  rw [Attempt.andThen, h]

/-- What succeeds as a whole has succeeded in both steps. -/
lemma ok_of_andThen {t : Attempt σ} {next : Adapter σ → Attempt σ}
    (h : (t.andThen next).result = .ok ()) :
    t.result = .ok () ∧ (next t.adapter).result = .ok () ∧ t.andThen next = next t.adapter := by
  cases hresult : t.result with
  | ok u =>
      rw [andThen_of_ok hresult] at h
      exact ⟨rfl, h, andThen_of_ok hresult next⟩
  | error fault =>
      rw [andThen_of_error hresult, hresult] at h
      cases h

/-- What holds after a step and is kept by the next holds after both. -/
lemma andThen_keeps {P : Adapter σ → Prop} {t : Attempt σ} {next : Adapter σ → Attempt σ}
    (h : P t.adapter) (hnext : ∀ a, P a → P (next a).adapter) : P (t.andThen next).adapter := by
  cases hresult : t.result with
  | ok u =>
      rw [andThen_of_ok hresult]
      exact hnext t.adapter h
  | error fault =>
      rw [andThen_of_error hresult]
      exact h

/-! ### The end of an operation -/

@[simp] lemma session_conclude (t : Attempt σ) :
    (conclude t).adapter.session = t.adapter.session := by
  obtain ⟨result, a⟩ := t
  cases result with
  | ok u => rfl
  | error fault => cases fault <;> rfl

@[simp] lemma session_concludeLoad (code : String) (t : Attempt σ) :
    (concludeLoad code t).adapter.session = t.adapter.session := by
  obtain ⟨result, a⟩ := t
  cases result with
  | ok u => rfl
  | error fault => cases fault <;> rfl

@[simp] lemma settings_concludeLoad (code : String) (t : Attempt σ) :
    (concludeLoad code t).adapter.settings = t.adapter.settings := by
  obtain ⟨result, a⟩ := t
  cases result with
  | ok u => rfl
  | error fault => cases fault <;> rfl

lemma session_of_fillEnvironment {a b : Adapter σ} (h : a.fillEnvironment = some b) :
    b.session = a.session := by
  obtain ⟨filled, -, rfl⟩ := Option.map_eq_some_iff.mp h
  rfl

/-! ### Steps -/

variable [Interpreter σ]

/-- On an interpreter that is up, an evaluation is one of the interpreter. -/
lemma evaluate_of_running {a : Adapter σ} (h : a.session.runtime = .running) (console : Console)
    (code : String) :
    a.evaluate console code
      = (let ended := (Interpreter.eval code a.session.interpreter).run
          (console.sink a.settings.traceColor) a.transcript
        ⟨ended.1, { a with
          session := { a.session with interpreter := ended.2.1 }
          transcript := ended.2.2 }⟩) := by
  simp only [evaluate, Session.eval, h, if_true, Evaluation.run_map]

/-- On any other interpreter an evaluation does nothing. -/
lemma evaluate_of_not_running {a : Adapter σ} (h : a.session.runtime ≠ .running)
    (console : Console) (code : String) :
    a.evaluate console code = ⟨.error .notStarted, a⟩ := by
  simp only [evaluate, Session.eval_of_not_running h]

lemma runForgiving_of_not_running {a : Adapter σ} (h : a.session.runtime ≠ .running)
    (console : Console) (code : String) :
    a.runForgiving console code = ⟨.error .notStarted, a⟩ := by
  rw [runForgiving, evaluate_of_not_running h]

@[simp] lemma runtime_evaluate (console : Console) (code : String) (a : Adapter σ) :
    (a.evaluate console code).adapter.session.runtime = a.session.runtime :=
  a.session.runtime_eval code _ _

@[simp] lemma attached_evaluate (console : Console) (code : String) (a : Adapter σ) :
    (a.evaluate console code).adapter.session.attached = a.session.attached :=
  a.session.attached_eval code _ _

@[simp] lemma session_runForgiving (console : Console) (code : String) (a : Adapter σ) :
    (a.runForgiving console code).adapter.session = (a.evaluate console code).adapter.session := by
  simp only [runForgiving]
  split <;> rfl

lemma result_runForgiving (console : Console) (code : String) (a : Adapter σ) :
    (a.runForgiving console code).result = forgive (a.evaluate console code).result := by
  simp only [runForgiving]
  rcases a.evaluate console code with ⟨fault | u, b⟩
  · cases fault <;> rfl
  · rfl

/-- An evaluation makes no session active and leaves none inactive. -/
lemma isActive_evaluate (console : Console) (code : String) (a : Adapter σ) :
    (a.evaluate console code).adapter.session.isActive = a.session.isActive := by
  rw [Session.isActive, Session.isActive, attached_evaluate, runtime_evaluate]

/-- What evaluations that forgive errors of the cart keep, defining forwarders keeps. -/
lemma defineForwarders_keeps {P : Adapter σ → Prop} {console : Console}
    (hkeeps : ∀ code a, P a → P (runForgiving console code a).adapter) (keywords : List String)
    {a : Adapter σ} (h : P a) : P (defineForwarders console keywords a).adapter := by
  induction keywords generalizing a with
  | nil => exact h
  | cons keyword rest ih => exact andThen_keeps (hkeeps _ a h) fun b hb => ih hb

/-- Defining forwarders does not attach or let go. -/
lemma attached_defineForwarders (console : Console) (keywords : List String) (a : Adapter σ) :
    (defineForwarders console keywords a).adapter.session.attached = a.session.attached := by
  refine defineForwarders_keeps (P := fun b => b.session.attached = a.session.attached)
    (fun code b hb => ?_) keywords rfl
  rw [session_runForgiving, attached_evaluate, hb]

@[simp] lemma session_start (a : Adapter σ) :
    a.start.adapter.session
      = (a.session.start a.settings.argv a.settings.maxStartAttempts).session := by
  simp only [start]
  split <;> rfl

@[simp] lemma settings_start (a : Adapter σ) : a.start.adapter.settings = a.settings := by
  simp only [start]
  split <;> rfl

/-- Nothing passes to a console when the interpreter is to come up. -/
@[simp] lemma exchanges_start (a : Adapter σ) :
    a.start.adapter.transcript.exchanges = a.transcript.exchanges := by
  simp only [start]
  split <;> rfl

/-- A start as a step: it does not tell whether the interpreter was up already. -/
lemma result_start (a : Adapter σ) :
    a.start.result
      = (a.session.start a.settings.argv a.settings.maxStartAttempts).result.map fun _ => () := by
  simp only [start]
  rcases (a.session.start a.settings.argv a.settings.maxStartAttempts).result with fault | up
  · rfl
  · cases up <;> rfl

@[simp] lemma session_shutDown (a : Adapter σ) : a.shutDown.session = a.session.stop.1 := rfl

@[simp] lemma session_wipeAndDetach (console : Console) (a : Adapter σ) :
    (a.wipeAndDetach console).adapter.session
      = (a.evaluate console Source.wipe).adapter.session.detach := by
  rw [← session_runForgiving]
  rfl

/-- The adapter after its interpreter was asked whether it can come back. -/
def asked (a : Adapter σ) : Adapter σ :=
  { a with session := a.session.canRestart.2 }

@[simp] lemma session_asked (a : Adapter σ) : a.asked.session = a.session.canRestart.2 := rfl

lemma release_of_canRestart {a : Adapter σ} (h : a.session.canRestart.1 = true)
    (console : Console) : a.release console = a.asked.shutDown.done := by
  simp only [release, h, if_true]
  rfl

lemma release_of_not_canRestart {a : Adapter σ} (h : a.session.canRestart.1 = false)
    (console : Console) : a.release console = a.asked.wipeAndDetach console := by
  simp only [release, h, Bool.false_eq_true, if_false]
  rfl

/-- Letting go leaves the session detached, whatever it was and whether wiping succeeds or not. -/
lemma attached_release (console : Console) (a : Adapter σ) :
    (a.release console).adapter.session.attached = false := by
  cases hcan : a.session.canRestart.1 with
  | true =>
      rw [release_of_canRestart hcan]
      exact Session.attached_stop _
  | false =>
      rw [release_of_not_canRestart hcan, session_wipeAndDetach]
      rfl

lemma result_wipeAndDetach (console : Console) (a : Adapter σ) :
    (a.wipeAndDetach console).result = forgive (a.evaluate console Source.wipe).result :=
  a.result_runForgiving console Source.wipe

lemma releaseAttached_of_detached {a : Adapter σ}
    (h : a.session.attached = false) (console : Console) : a.releaseAttached console = a.done := by
  rw [releaseAttached, if_neg (ne_true_of_eq_false h)]

lemma init_of_fill {a b : Adapter σ} (h : a.fillEnvironment = some b) (console : Console)
    (code : String) : a.init console code = concludeLoad code (b.load console code) := by
  rw [init, h]

/-- A load that cannot make its session ready evaluates no cart. -/
lemma load_of_prepare_error {console : Console} {a : Adapter σ} {fault : Fault}
    (h : (a.prepare console).result = .error fault) (code : String) :
    a.load console code = a.prepare console := by
  rw [load, andThen_of_error h, andThen_of_error h]

end Adapter

end RCart
