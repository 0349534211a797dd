import RCart.Interpreter.Recorder
import RCart.Proofs.Adapter.Alike
import RCart.Proofs.Adapter.Cart
import RCart.Proofs.Adapter.Run

/-!
Adapters whose session is detached.

* `Operation.Fills`, `Operation.Loads`: loads and console input, and loads alone;
* `Outcome.Silent`: an operation that returns, and of which nothing comes but an outline and a log;
* `Adapter.Deaf`: every run without a load or console input is silent;
* `Adapter.deaf_of_detached`: so it is as long as the session is detached;
* `Adapter.Lingering`: the session is detached, but the interpreter is up;
* `Adapter.Lingering.afterAll`, `active_init`: so it stays until the next load, which ends it;
* **`Adapter.silent_after_close`**: closing detaches the session, and what follows is silent.
-/

namespace RCart

variable {σ α β : Type}

/-! ### Silence -/

/-- Loads and console input give the variables of the settings their defaults first. -/
def Operation.Fills (operation : Operation) : Prop :=
  ∃ code, operation = .init code ∨ operation = .eval code

/-- A cart is loaded. -/
def Operation.Loads (operation : Operation) : Prop :=
  ∃ code, operation = .init code

/-- An operation has returned, and session, interpreter, settings and environment are as they were,
and nothing has passed to the console. -/
structure Outcome.Silent (a : Adapter σ) (o : Outcome σ α) : Prop where
  returned : ∃ answer, o.ending = .returned answer
  alike : o.adapter.Alike a
  env : o.adapter.env = a.env

namespace Outcome

variable {a : Adapter σ} {o : Outcome σ α}

/-- What is silent but for a note is silent. -/
lemma Silent.of_note {level : Level} {text : String} (h : o.Silent (a.note level text)) :
    o.Silent a :=
  ⟨h.returned, h.alike.trans (a.alike_note level text), h.env⟩

lemma Silent.map (h : o.Silent a) (f : α → β) : (o.map f).Silent a :=
  ⟨returned_map_iff.mpr h.returned, h.alike, h.env⟩

end Outcome

lemma Adapter.silent_note (a : Adapter σ) (level : Level) (text : String) :
    (quiet (a.note level text)).Silent a :=
  ⟨⟨_, rfl⟩, a.alike_note level text, rfl⟩

/-! ### Detached sessions -/

namespace Adapter

variable [Interpreter σ] {a b : Adapter σ}

/-- A detached session cannot be closed. -/
lemma close_of_detached (h : a.session.attached = false) (console : Console) :
    a.close console = quiet (a.note .debug "close: no active session") := by
  rw [close, if_neg (ne_true_of_eq_false h)]

/-- Nor does it have a cart of which a function could be called. -/
lemma call_of_detached (h : a.session.attached = false) (console : Console)
    (request : Source.GuardedCall) :
    a.call console request
      = quiet (a.note .trace (request.name ++ " skipped, no active session")) := by
  have hinactive : a.session.isActive = false := by rw [Session.isActive, h, Bool.false_and]
  rw [call, if_neg (ne_true_of_eq_false hinactive)]

lemma silent_callHook (h : a.session.attached = false) (console : Console) (hook : Source.Hook) :
    (a.callHook console hook).Silent a := by
  rw [callHook, call_of_detached h]
  exact (a.silent_note _ _).map _

/-- Over a detached session every operation is silent but for loads and console input. -/
lemma silent_perform (h : a.session.attached = false) {operation : Operation}
    (hop : ¬ operation.Fills) (console : Console) : (a.perform console operation).Silent a := by
  cases operation with
  | init code => exact absurd ⟨code, .inl rfl⟩ hop
  | close =>
      rw [perform, close_of_detached h]
      exact (a.silent_note _ _).map _
  | tick => exact silent_callHook h console _
  | boot => exact silent_callHook h console _
  | menu index data => exact .of_note (silent_callHook (a := a.note _ _) h console _)
  | border row data => exact .of_note (silent_callHook (a := a.note _ _) h console _)
  | scanline row data => exact .of_note (silent_callHook (a := a.note _ _) h console _)
  | eval code => exact absurd ⟨code, .inr rfl⟩ hop
  | invoke request =>
      rw [perform, call_of_detached h]
      exact (a.silent_note _ _).map _
  | outline code => exact ⟨⟨_, rfl⟩, ⟨rfl, rfl, rfl⟩, rfl⟩

/-- Every run without a load or console input is performed to its end, and is silent. -/
def Deaf (a : Adapter σ) : Prop :=
  ∀ run : List (Console × Operation), (∀ asked ∈ run, ¬ asked.2.Fills) →
    (performAll run a).length = run.length ∧ ∀ outcome ∈ performAll run a, outcome.Silent a

lemma deaf_of_detached (h : a.session.attached = false) : a.Deaf := by
  intro run hrun
  have hsilent : ∀ outcome ∈ performAll run a, outcome.Silent a := by
    refine performAll_keeps (P := fun b => b.Alike a ∧ b.env = a.env) (fun asked hmem b hb => ?_)
      (fun _ houtcome => ⟨houtcome.alike, houtcome.env⟩) ⟨.refl a, rfl⟩
    have hdetached : b.session.attached = false := hb.1.session ▸ h
    obtain ⟨hreturned, halike, henv⟩ := silent_perform hdetached (hrun asked hmem) asked.1
    exact ⟨hreturned, halike.trans hb.1, henv.trans hb.2⟩
  exact ⟨length_performAll fun outcome hmem => (hsilent outcome hmem).returned, hsilent⟩

/-! ### Detached, but up -/

/-- The interpreter is up, but no console holds on to the session. -/
structure Lingering (a : Adapter σ) : Prop where
  detached : a.session.attached = false
  running : a.session.runtime = .running

/-- Console input is evaluated, and neither attaches the session nor shuts the interpreter down. -/
lemma Lingering.eval (h : a.Lingering) (console : Console) (code : String) :
    (a.eval console code).adapter.Lingering := by
  cases hfill : a.fillEnvironment with
  | none =>
      rw [Adapter.eval, hfill]
      exact h
  | some b =>
      have hsession : b.session = a.session := session_of_fillEnvironment hfill
      have hmust : b.mustStart = (false, b) := by rw [mustStart, hsession, h.running]
      rw [eval_of_not_mustStart hfill (congrArg Prod.fst hmust), hmust]
      constructor
      · rw [session_conclude, session_runForgiving, attached_evaluate, hsession, h.detached]
      · rw [session_conclude, session_runForgiving, runtime_evaluate, hsession, h.running]

/-- So does every other operation that is not a load. -/
lemma Lingering.perform (h : a.Lingering) {operation : Operation} (hop : ¬ operation.Loads)
    (console : Console) : (a.perform console operation).adapter.Lingering := by
  by_cases hfills : operation.Fills
  · obtain ⟨code, rfl | rfl⟩ := hfills
    · exact absurd ⟨code, rfl⟩ hop
    · exact h.eval console code
  · obtain ⟨-, halike, -⟩ := silent_perform h.detached hfills console
    exact ⟨halike.session ▸ h.detached, halike.session ▸ h.running⟩

/-- So does a run without a load. -/
lemma Lingering.afterAll (h : a.Lingering) {run : List (Console × Operation)}
    (hrun : ∀ asked ∈ run, ¬ asked.2.Loads) (hafter : Adapter.afterAll run a = some b) :
    b.Lingering :=
  afterAll_keeps (fun asked hmem _ hc => hc.perform (hrun asked hmem) asked.1) h hafter

/-- Hooks run. -/
def Active (a : Adapter σ) : Prop :=
  a.session.isActive = true

lemma Active.evaluate (h : a.Active) (console : Console) (code : String) :
    (a.evaluate console code).adapter.Active :=
  (isActive_evaluate console code a).trans h

lemma Active.runForgiving (h : a.Active) (console : Console) (code : String) :
    (a.runForgiving console code).adapter.Active := by
  rw [Active, session_runForgiving]
  exact h.evaluate console code

/-- A load over a detached session whose interpreter is up attaches it, whatever becomes of the
cart. -/
lemma Lingering.active_loadFresh (h : a.Lingering) (console : Console) (code : String) :
    (a.loadFresh console code).adapter.Active := by
  have hstarted : a.start.adapter.Active := by
    rw [Active, session_start, Session.start, h.running]
    rfl
  have hforgiven (code : String) (b : Adapter σ) (hb : b.Active) :
      (b.runForgiving console code).adapter.Active := hb.runForgiving console code
  refine andThen_keeps (andThen_keeps (andThen_keeps hstarted fun b hb => ?_) fun b hb => ?_)
    (hforgiven Source.bootFallback)
  · exact defineForwarders_keeps hforgiven console.keywords hb
  · exact Active.evaluate (a := b.note _ _) hb console code

/-- So does a load that does not break off. -/
lemma Lingering.active_init (h : a.Lingering) {console : Console} {code : String}
    (hending : (a.init console code).ending ≠ .brokeOff) :
    (a.init console code).adapter.Active := by
  cases hfill : a.fillEnvironment with
  | none =>
      rw [init, hfill] at hending
      exact absurd rfl hending
  | some b =>
      have hsession : b.session = a.session := session_of_fillEnvironment hfill
      have hlingering : b.Lingering := ⟨hsession ▸ h.detached, hsession ▸ h.running⟩
      rw [init_of_fill hfill, Active, session_concludeLoad,
        load_over_detached hlingering.detached]
      exact hlingering.active_loadFresh console code

/-! ### Closing -/

/-- However a close ends, the session is detached afterwards. -/
lemma attached_close (console : Console) (a : Adapter σ) :
    (a.close console).adapter.session.attached = false := by
  cases hattached : a.session.attached with
  | false =>
      rw [close_of_detached hattached]
      exact hattached
  | true =>
      rw [close, if_pos hattached, session_conclude]
      exact attached_release console a

/-- **Closing detaches, and what follows is silent**, over every interpreter and in every state.

However a close ends, the session is detached afterwards, and every run without a load or console
input returns, leaves session, interpreter, settings and environment as they are and passes nothing
to the console. If the interpreter is still up, console input in between does not end the silence of
the rest: after every run without a load it goes on. A load ends it, unless it breaks off. -/
theorem silent_after_close (console : Console) (a : Adapter σ) :
    let closed := (a.close console).adapter
    closed.session.attached = false
      ∧ closed.Deaf
      ∧ (closed.session.runtime = .running →
        ∀ run : List (Console × Operation), (∀ asked ∈ run, ¬ asked.2.Loads) →
        ∀ b, afterAll run closed = some b →
          b.session.attached = false ∧ b.session.runtime = .running
            ∧ b.Deaf
            ∧ ∀ console code, (b.init console code).ending ≠ .brokeOff →
              (b.init console code).adapter.Active) := by
  intro closed
  have hdetached : closed.session.attached = false := attached_close console a
  refine ⟨hdetached, deaf_of_detached hdetached, fun hrunning run hrun b hb => ?_⟩
  have hlingering : Lingering closed := ⟨hdetached, hrunning⟩
  have hstill : b.Lingering := hlingering.afterAll hrun hb
  exact ⟨hstill.detached, hstill.running, deaf_of_detached hstill.detached,
    fun console code => hstill.active_init⟩

/-- A recorder that cannot be wiped: the error is shown, and the session is detached all the same.
Console input is then evaluated, a hook and a close are not heard, and a load ends that. -/
theorem silent_after_close_unclean :
    let console : Console := { keywords := [] }
    let r : Recorder := { running := true, reactions := [("rm(list", .raises "cannot clear")] }
    let a : Adapter Recorder := { session := ⟨r, .running, true⟩ }
    let run := [(console, Operation.tick), (console, .eval "x <- 1"), (console, .close)]
    let closed := (a.close console).adapter
    closed.transcript.exchanges = [.trace "cannot clear" 15]
      ∧ closed.session.attached = false
      ∧ closed.Deaf
      ∧ closed.session.runtime = .running
      ∧ ∃ b, afterAll run closed = some b
        ∧ b.session.interpreter.evaluated = [Source.wipe, "x <- 1"]
        ∧ b.Deaf
        ∧ (b.init console "y <- 2").adapter.Active := by
  intro console r a run
  have hclosed := silent_after_close console a
  have hshown : (a.close console).adapter.transcript.exchanges = [.trace "cannot clear" 15] := by
    decide +kernel
  have hrunning : (a.close console).adapter.session.runtime = .running := by decide +kernel
  have hends : (afterAll run (a.close console).adapter).map
      (fun b => (b.session.interpreter.evaluated, (b.init console "y <- 2").ending.exitCode))
        = some ([Source.wipe, "x <- 1"], 0) := by decide +kernel
  generalize (a.close console).adapter = closed at hclosed hshown hrunning hends ⊢
  obtain ⟨hdetached, hdeaf, hlater⟩ := hclosed
  obtain ⟨b, hb, hend⟩ := Option.map_eq_some_iff.mp hends
  obtain ⟨hevaluated, hexit⟩ := Prod.ext_iff.mp hend
  have hending : (b.init console "y <- 2").ending ≠ .brokeOff := by
    intro hbroken
    rw [hbroken] at hexit
    cases hexit
  have hrun : ∀ asked ∈ run, ¬ asked.2.Loads := by simp [run, Operation.Loads]
  obtain ⟨-, -, hstill, hactive⟩ := hlater hrunning run hrun b hb
  exact ⟨hshown, hdetached, hdeaf, hrunning, b, hb, hevaluated, hstill,
    hactive console "y <- 2" hending⟩

end Adapter

end RCart
