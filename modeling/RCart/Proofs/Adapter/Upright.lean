import RCart.Proofs.Adapter.Account
import RCart.Proofs.Adapter.Contract
import RCart.Proofs.Adapter.Lifecycle

/-!
Faults that cannot be reached.

Whether the interpreter is up is known twice, to the session and to the recorder. As long as nobody
else starts or stops the recorder the two agree, and every evaluation and every start that an
operation comes to is one that the recorder does not refuse.

* `Watched.Sound`: what the calls on a recorder say of it;
* `Session.Upright`: the invariant, kept by moves and by what happens to the recorder from outside;
* `Adapter.Event`, `Adapter.afterEvents`: runs in which a recorder is changed between operations;
* **`Adapter.upright_afterEvents`**: session and recorder agree after every operation, none fails
  because nothing was started or because there is no way back, and what cannot come back is started
  at most once and never stopped.
-/

namespace RCart

/-! ### Calls -/

/-- Whether a call brings the interpreter up. -/
def InterpreterCall.bringsUp : InterpreterCall → Bool
  | .start _ (.ok ()) => true
  | .start _ (.error _) | .stop | .canRestart _ | .eval _ _ => false

/-- What is shut down was stopped. -/
lemma stop_mem_of_shutDown {calls : List InterpreterCall}
    (h : Runtime.ofCalls calls = .shutDown) : .stop ∈ calls := by
  induction calls using List.reverseRecOn with
  | nil => cases h
  | append_singleton calls call ih =>
      rw [Runtime.ofCalls_concat] at h
      cases call with
      | start argv result =>
          cases result with
          | ok u => cases h
          | error fault => exact List.mem_append_left _ (ih h)
      | stop => exact List.mem_append_right _ List.mem_cons_self
      | canRestart answer => exact List.mem_append_left _ (ih h)
      | eval code result => exact List.mem_append_left _ (ih h)

lemma InPlace.of_concat {calls : List InterpreterCall} {call : InterpreterCall}
    (h : InPlace (calls ++ [call])) : InPlace calls ∧ MayFollow calls call := by
  refine ⟨fun before last hprefix => ?_, h calls call List.prefix_rfl⟩
  exact h before last <| hprefix.trans (List.prefix_append calls [call])

/-- As long as it is not stopped, what is up has come up once. -/
lemma countP_bringsUp {calls : List InterpreterCall} (h : InPlace calls) (hstop : .stop ∉ calls) :
    calls.countP InterpreterCall.bringsUp
      = if Runtime.ofCalls calls = .running then 1 else 0 := by
  induction calls using List.reverseRecOn with
  | nil => rfl
  | append_singleton calls call ih =>
      obtain ⟨hcalls, hcall⟩ := h.of_concat
      rw [List.mem_append, List.mem_singleton, not_or] at hstop
      have hcount := ih hcalls hstop.1
      rw [List.countP_append, hcount, Runtime.ofCalls_concat]
      cases call with
      | start argv result =>
          cases result with
          | ok u =>
              have hdown : Runtime.ofCalls calls ≠ .running := by
                rwa [MayFollow, isUp_iff] at hcall
              rw [if_neg hdown]
              rfl
          | error fault => rfl
      | stop => exact absurd rfl hstop.2
      | canRestart answer => rfl
      | eval code result => rfl

/-! ### What the calls say of a recorder -/

namespace Watched

/-- A recorder is running exactly when its calls have brought it up. It has always given the answer
that it would give now, and it has only refused to evaluate while it was not up. -/
structure Sound (w : Watched Recorder) : Prop where
  running : w.inner.running = (Runtime.ofCalls w.calls == .running)
  asked : ∀ answer, .canRestart answer ∈ w.calls → answer = w.inner.restartable
  refused : ∀ before code, before ++ [.eval code (.error .notStarted)] <+: w.calls → ¬ IsUp before

/-- One more call. -/
lemma Sound.add {w : Watched Recorder} (h : w.Sound) {call : InterpreterCall} {inner : Recorder}
    (hrunning : inner.running = ((Runtime.ofCalls w.calls).afterCall call == .running))
    (hrestartable : inner.restartable = w.inner.restartable)
    (hasked : ∀ answer, call = .canRestart answer → answer = w.inner.restartable)
    (hrefused : ∀ code, call = .eval code (.error .notStarted) → w.inner.running = false) :
    (Watched.add w.calls call inner).Sound where
  running := by
    change _ = (Runtime.ofCalls (w.calls ++ [call]) == .running)
    rw [Runtime.ofCalls_concat, ← hrunning]
    rfl
  asked answer hmem := by
    change answer = inner.restartable
    rw [hrestartable]
    obtain hmem | hmem := List.mem_append.mp hmem
    · exact h.asked answer hmem
    · exact hasked answer (List.mem_singleton.mp hmem).symm
  refused before code hprefix := by
    obtain heq | hprefix := List.prefix_concat_iff.mp hprefix
    · obtain ⟨rfl, hlast⟩ := List.append_inj' heq rfl
      have hdown := hrefused code (List.cons.inj hlast).1.symm
      rw [h.running] at hdown
      rw [isUp_iff]
      exact ne_of_beq_false hdown
    · exact h.refused before code hprefix

/-- Every operation of a recorder keeps to that. -/
lemma keeps_sound : Interpreter.Keeps Watched.Sound where
  start argv w h := by
    change (Watched.add w.calls (.start argv (Recorder.start argv w.inner).1)
      (Recorder.start argv w.inner).2).Sound
    rw [Recorder.start]
    split
    · exact h.add h.running rfl (by simp) (by simp)
    · exact h.add rfl rfl (by simp) (by simp)
  stop w h := h.add rfl rfl (by simp) (by simp)
  canRestart w h := by
    refine h.add h.running rfl (fun answer heq => ?_) (by simp)
    exact (InterpreterCall.canRestart.inj heq).symm
  eval code sink v w h := by
    rw [eval_eq_settle, Evaluation.run_settle]
    cases hrunning : w.inner.running with
    | false =>
        rw [Recorder.eval_of_not_running hrunning]
        exact h.add h.running rfl (by simp) fun _ _ => hrunning
    | true =>
        rw [Recorder.run_eval_of_running sink hrunning]
        refine h.add h.running rfl (by simp) fun input heq => ?_
        exact absurd (InterpreterCall.eval.inj heq).2 (Recorder.verdict_ne_notStarted _)

end Watched

/-! ### The invariant -/

namespace Session

/-- Nobody but the session has started or stopped its recorder, and the session only stops what can
come back. -/
structure Upright (comesBack : Bool) (s : Session (Watched Recorder)) : Prop where
  inStep : s.InStep
  sound : s.interpreter.Sound
  restartable : s.interpreter.inner.restartable = comesBack
  stopped : .stop ∈ s.calls → comesBack = true

variable {comesBack : Bool} {s t : Session (Watched Recorder)}

/-- Session and recorder agree on whether the interpreter is up. -/
lemma Upright.running_iff (h : s.Upright comesBack) :
    s.runtime = .running ↔ s.interpreter.inner.running = true := by
  rw [h.sound.running, h.inStep.runtime, beq_iff_eq]
  rfl

/-- What was shut down can come back. -/
lemma Upright.of_shutDown (h : s.Upright comesBack) (hshut : s.runtime = .shutDown) :
    comesBack = true := by
  have hcalls : Runtime.ofCalls s.calls = .shutDown := h.inStep.runtime ▸ hshut
  exact h.stopped (stop_mem_of_shutDown hcalls)

/-- So the session turns nothing away. -/
lemma Upright.not_turnsAway (h : s.Upright comesBack) : ¬ s.TurnsAway := by
  rintro ⟨hdown, hcannot, hattached | hshut⟩
  · exact hdown (h.inStep.attached hattached)
  · have hcan : s.canRestart.1 = true := h.restartable.trans (h.of_shutDown hshut)
    exact absurd (hcan.symm.trans hcannot) Bool.noConfusion

/-- Nor does the recorder refuse. -/
lemma Upright.not_refused (h : s.Upright comesBack) (before : List InterpreterCall)
    (code : String) : s.calls ≠ before ++ [.eval code (.error .notStarted)] := by
  intro hcalls
  have hprefix : before ++ [.eval code (.error .notStarted)] <+: s.calls :=
    hcalls ▸ List.prefix_rfl
  have hup : IsUp before := h.inStep.inPlace before _ hprefix
  exact h.sound.refused before code hprefix hup

/-- Over a new recorder a session is upright. -/
lemma upright_watching {r : Recorder} (hdown : r.running = false) :
    (watching r).Upright r.restartable where
  inStep := inStep_watching r
  sound :=
    { running := hdown
      asked := fun _ hmem => absurd hmem List.not_mem_nil
      refused := fun before code hprefix => by
        have hlength := hprefix.length_le
        simp [watching] at hlength }
  restartable := rfl
  stopped hmem := absurd hmem List.not_mem_nil

/-- A move stops the recorder only if it can come back. -/
lemma Move.stopped (hmove : s.Move t) (hstopped : .stop ∈ s.calls → comesBack = true)
    (hcan : s.canRestart.1 = comesBack) : .stop ∈ t.calls → comesBack = true := by
  have hasked : .stop ∈ s.canRestart.2.calls → comesBack = true := by
    rw [calls_canRestart, List.mem_append]
    exact fun h => h.elim hstopped (by simp)
  have heval {ω : Type} (u : Session (Watched Recorder)) (code : String) (sink : Sink ω) (w : ω)
      (h : .stop ∈ ((u.eval code).run sink w).2.1.calls) : .stop ∈ u.calls := by
    by_cases hup : u.runtime = .running
    · rw [eval_of_running hup, List.mem_append] at h
      exact h.elim id (by simp)
    · rwa [eval_of_not_running hup] at h
  cases hmove with
  | start argv maxAttempts =>
      obtain ⟨asked, starts, hcalls, hask, hstarts, -⟩ := calls_start argv maxAttempts s
      rw [hcalls, List.mem_append, List.mem_append]
      rintro (h | h | h)
      · exact hstopped h
      · obtain ⟨answer, heq⟩ := hask _ h
        cases heq
      · obtain ⟨result, heq⟩ := hstarts _ h
        cases heq
  | eval code sink received => exact fun h => hstopped (heval s code sink received h)
  | ask => exact hasked
  | shutDown hyes => exact fun _ => hcan.symm.trans hyes
  | wipe sink received hno => exact fun h => hasked (heval s.canRestart.2 _ sink received h)

/-- Every move keeps a session upright. -/
lemma Upright.move (h : s.Upright comesBack) (hmove : s.Move t) : t.Upright comesBack where
  inStep := hmove.reaches.inStep h.inStep
  sound := hmove.keeps Watched.keeps_sound h.sound
  restartable := by
    have hbuilt : t.interpreter.inner.asBuilt = s.interpreter.inner.asBuilt :=
      hmove.keeps (Recorder.keeps_asBuilt _).watched rfl
    exact (congrArg Recorder.restartable hbuilt).trans h.restartable
  stopped := hmove.stopped h.stopped h.restartable

lemma Upright.moves (h : s.Upright comesBack) (hmoves : s.Moves t) : t.Upright comesBack := by
  induction hmoves with
  | refl => exact h
  | tail _ hmove ih => exact ih.move hmove

end Session

/-! ### What happens from outside -/

/-- A change to a recorder that leaves it running or not, and able or unable to come back. -/
structure Recorder.Touch where
  /-- The recorder afterwards. -/
  change : Recorder → Recorder
  running : ∀ r, (change r).running = r.running
  restartable : ∀ r, (change r).restartable = r.restartable

/-- The same change to a recorder under watch. -/
def Recorder.Touch.watched (touch : Recorder.Touch) (w : Watched Recorder) : Watched Recorder :=
  { w with inner := touch.change w.inner }

lemma Session.Upright.touch {comesBack : Bool} {s : Session (Watched Recorder)}
    (h : s.Upright comesBack) (touch : Recorder.Touch) :
    (s.mapInterpreter touch.watched).Upright comesBack where
  inStep := ⟨h.inStep.runtime, h.inStep.attached, h.inStep.inPlace⟩
  sound :=
    { running := (touch.running _).trans h.sound.running
      asked := fun answer hmem => (h.sound.asked answer hmem).trans (touch.restartable _).symm
      refused := h.sound.refused }
  restartable := (touch.restartable _).trans h.restartable
  stopped := h.stopped

namespace Adapter

/-- What happens to an adapter over a recorder. -/
inductive Event where
  /-- A console asks for an operation. -/
  | asked (console : Console) (operation : Operation)
  /-- The recorder is changed. -/
  | touched (touch : Recorder.Touch)

/-- The adapter after something has happened, if it goes on; `change` carries a change out. -/
def afterEvent? {σ : Type} [Interpreter σ] (change : Recorder.Touch → σ → σ) (a : Adapter σ) :
    Event → Option (Adapter σ)
  | .asked console operation => (a.perform console operation).next?
  | .touched touch => some (a.mapInterpreter (change touch))

/-- The adapter after some events, in order; `none` if an operation among them does not return. -/
def afterEvents {σ : Type} [Interpreter σ] (change : Recorder.Touch → σ → σ) (events : List Event)
    (a : Adapter σ) : Option (Adapter σ) :=
  events.foldlM (afterEvent? change) a

/-- Watching the recorder changes nothing. -/
lemma afterEvents_mapInterpreter {events : List Event} {a b : Adapter (Watched Recorder)}
    (h : afterEvents Recorder.Touch.watched events a = some b) :
    afterEvents Recorder.Touch.change events (a.mapInterpreter Watched.inner)
      = some (b.mapInterpreter Watched.inner) := by
  induction events generalizing a with
  | nil => exact congrArg _ (congrArg _ (Option.some.inj h))
  | cons event rest ih =>
      obtain ⟨c, hc, hb⟩ := Option.bind_eq_some_iff.mp h
      refine Option.bind_eq_some_iff.mpr ⟨c.mapInterpreter Watched.inner, ?_, ih hb⟩
      cases event with
      | asked console operation =>
          obtain ⟨hreturned, rfl⟩ := Outcome.next?_eq_some_iff.mp hc
          rw [afterEvent?, perform_mapInterpreter Watched.isMorphism_inner]
          exact Outcome.next?_eq_some_iff.mpr ⟨hreturned, rfl⟩
      | touched touch =>
          obtain rfl := Option.some.inj hc
          rfl

variable {comesBack : Bool}

lemma upright_of_events {events : List Event} {a b : Adapter (Watched Recorder)}
    (ha : a.session.Upright comesBack)
    (h : afterEvents Recorder.Touch.watched events a = some b) : b.session.Upright comesBack := by
  induction events generalizing a with
  | nil => exact Option.some.inj h ▸ ha
  | cons event rest ih =>
      obtain ⟨c, hc, hb⟩ := Option.bind_eq_some_iff.mp h
      refine ih ?_ hb
      cases event with
      | asked console operation =>
          obtain ⟨-, rfl⟩ := Outcome.next?_eq_some_iff.mp hc
          exact ha.moves (a.moves_perform console operation)
      | touched touch =>
          obtain rfl := Option.some.inj hc
          exact ha.touch touch

/-! ### Faults -/

/-- The steps of an operation on an upright session never come to an interpreter that is not up, or
that has no way back. -/
lemma result_steps_of_upright {a : Adapter (Watched Recorder)} (h : a.session.Upright comesBack)
    (console : Console) (operation : Operation) :
    (a.steps console operation).result ≠ .error .notStarted
      ∧ (a.steps console operation).result ≠ .error .restartUnsupported := by
  obtain ⟨hshut, added, hshows, hends⟩ := a.account_steps console operation
  have hcalls := hshows.calls
  have hafter : (a.steps console operation).adapter.session.Upright comesBack := by
    rw [← (a.concludes_perform console operation).session]
    exact h.moves (a.moves_perform console operation)
  constructor
  · intro hresult
    rw [hresult] at hends
    cases hends with
    | failed _ hfailure =>
        obtain ⟨before, code, hlast⟩ := hfailure.refused_evaluation
        rw [hlast, ← List.append_assoc, ← List.append_assoc] at hcalls
        exact hafter.not_refused _ code hcalls
    | turnedAway haway => exact h.not_turnsAway haway
  · intro hresult
    rw [hresult] at hends
    cases hends with
    | failed _ hfailure =>
        have hmem : .canRestart false ∈ (a.steps console operation).adapter.session.calls := by
          rw [hcalls, hfailure.refused_restart]
          simp
        have hno := (hafter.sound.asked false hmem).trans hafter.restartable
        exact absurd (hno.trans (hafter.of_shutDown (hshut hresult))) Bool.noConfusion

/-- **Faults that cannot be reached**, over a new recorder that is neither started nor stopped, nor
made able or unable to come back, by anybody but the adapter.

Whatever has happened, in and after every operation the session takes its interpreter to be up
exactly when the recorder is running, and the operation does not fail because nothing was started or
because there is no way back. A recorder that cannot come back is never stopped, and comes up at
most once. -/
theorem upright_afterEvents (p : Rehearsal) (env : Environment) {events : List Event}
    {a : Adapter (Watched Recorder)}
    (hlive : afterEvents Recorder.Touch.watched events (watching p.recorder p.settings env)
      = some a)
    (console : Console) (operation : Operation) :
    let s := (a.perform console operation).adapter.session
    afterEvents Recorder.Touch.change events (p.adapter env)
        = some (a.mapInterpreter Watched.inner)
      ∧ (s.runtime = .running ↔ s.interpreter.inner.running = true)
      ∧ a.resultOf console operation ≠ .error .notStarted
      ∧ a.resultOf console operation ≠ .error .restartUnsupported
      ∧ (p.restartable = false →
        .stop ∉ s.calls ∧ s.calls.countP InterpreterCall.bringsUp ≤ 1) := by
  intro s
  have hnew : (watching p.recorder p.settings env).session.Upright p.restartable :=
    Session.upright_watching (r := p.recorder) rfl
  have hbefore := upright_of_events hnew hlive
  have hafter : s.Upright p.restartable := hbefore.moves (a.moves_perform console operation)
  obtain ⟨hstarted, hback⟩ := result_steps_of_upright hbefore console operation
  refine ⟨afterEvents_mapInterpreter hlive, hafter.running_iff, hstarted, hback, fun hno => ?_⟩
  have hstop : .stop ∉ s.calls := fun hmem =>
    absurd (hno.symm.trans (hafter.stopped hmem)) Bool.noConfusion
  refine ⟨hstop, ?_⟩
  rw [countP_bringsUp hafter.inStep.inPlace hstop]
  split <;> omega

/-- A change by which wiping comes to raise an error. -/
def uncleanTouch : Recorder.Touch where
  change r := { r with reactions := r.reactions ++ [("rm(list", .raises "cannot clear")] }
  running _ := rfl
  restartable _ := rfl

/-- A recorder whose first start fails, and that cannot come back: although it could not be wiped
after the first cart, it is still up when a second cart comes, and has come up once. -/
theorem upright_afterEvents_unclean :
    let p : Rehearsal := { failingStarts := 1 }
    let console : Console := { keywords := [] }
    let events := [.asked console (.init "a <- 1"), .touched uncleanTouch, .asked console .close]
    ∃ a, afterEvents Recorder.Touch.watched events (watching p.recorder p.settings .empty) = some a
      ∧ a.resultOf console (.init "b <- 2") ≠ .error .notStarted
      ∧ a.resultOf console (.init "b <- 2") ≠ .error .restartUnsupported
      ∧ (a.perform console (.init "b <- 2")).adapter.session.calls.countP
          InterpreterCall.bringsUp ≤ 1 := by
  intro p console events
  have hlive : (afterEvents Recorder.Touch.watched events
      (watching p.recorder p.settings .empty)).isSome = true := by decide +kernel
  obtain ⟨a, ha⟩ := Option.isSome_iff_exists.mp hlive
  obtain ⟨-, -, hstarted, hback, honce⟩ := upright_afterEvents p .empty ha console (.init "b <- 2")
  exact ⟨a, ha, hstarted, hback, (honce rfl).2⟩

end Adapter

end RCart
