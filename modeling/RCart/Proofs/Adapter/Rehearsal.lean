import RCart.Proofs.Adapter.Lifecycle
import RCart.Proofs.Adapter.Run
import RCart.Proofs.Adapter.Step
import RCart.Proofs.Environment.Fill

/-!
An adapter over a recorder does what the lifecycle prescribes.

* `Rehearsal.Matches`: the adapter is where the machine is, and has evaluated the given snippets;
* `Rehearsal.Matches.load`, `Matches.perform`: a step, and an operation, of adapter and machine;
* **`Rehearsal.evaluated_afterAll`**: along every run the recorder evaluates the snippets that the
  machine prescribes, operation by operation.
-/

namespace RCart

/-- Whether a fault kept an interpreter from coming up. -/
def Fault.isDown : Fault → Bool
  | .start _ _ | .restartUnsupported => true
  | _ => false

namespace Rehearsal

variable {p : Rehearsal}

/-- The session is where the machine is, and its recorder has evaluated the given snippets. -/
structure Follows (p : Rehearsal) (m : Lifecycle) (evaluated : List String) (s : Session Recorder) :
    Prop where
  runtime : s.runtime = m.runtime
  attached : s.attached = m.attached
  up : m.attached = true → m.runtime = .running
  running : s.interpreter.running = (m.runtime == .running)
  starts : s.interpreter.starts = m.starts
  failingStarts : s.interpreter.failingStarts = p.failingStarts
  restartable : s.interpreter.restartable = p.restartable
  reactions : s.interpreter.reactions = p.reactions
  evaluated : s.interpreter.evaluated = evaluated

/-- So does the session of an adapter that keeps its settings. -/
structure Matches (p : Rehearsal) (m : Lifecycle) (evaluated : List String) (a : Adapter Recorder) :
    Prop where
  settings : a.settings = p.settings
  session : p.Follows m evaluated a.session

variable {m : Lifecycle} {evaluated : List String} {a b : Adapter Recorder} {s : Session Recorder}

lemma matches_adapter (env : Environment) : p.Matches {} [] (p.adapter env) :=
  ⟨rfl, rfl, rfl, (absurd · Bool.false_ne_true), rfl, rfl, rfl, rfl, rfl, rfl⟩

/-- A recorder always gives the same answer. -/
lemma Follows.canRestart (h : p.Follows m evaluated s) : s.canRestart = (p.restartable, s) := by
  rw [← h.restartable]
  rfl

/-- Only the session and the settings count. -/
lemma Matches.congr (h : p.Matches m evaluated a) (hsession : b.session = a.session)
    (hsettings : b.settings = a.settings) : p.Matches m evaluated b :=
  ⟨hsettings.trans h.settings, hsession ▸ h.session⟩

lemma Matches.note (h : p.Matches m evaluated a) (level : Level) (text : String) :
    p.Matches m evaluated (a.note level text) :=
  h.congr rfl rfl

/-! ### Evaluating -/

lemma Matches.evaluate (h : p.Matches m evaluated a) (hdies : Recorder.NeverDies p.reactions)
    (hup : m.runtime = .running) (console : Console) (code : String) :
    Recorder.Ends p.reactions code (a.evaluate console code).result
      ∧ p.Matches m (evaluated ++ [code]) (a.evaluate console code).adapter := by
  obtain ⟨hsettings, hs⟩ := h
  have hrunning : a.session.interpreter.running = true := by rw [hs.running, hup]; rfl
  have hdies' : Recorder.NeverDies a.session.interpreter.reactions := hs.reactions ▸ hdies
  obtain ⟨hends, answers, hrecorder⟩ := Recorder.run_eval (console.sink a.settings.traceColor) code
    hrunning hdies' a.transcript
  rw [Adapter.evaluate_of_running (hs.runtime.trans hup)]
  generalize (Interpreter.eval code a.session.interpreter).run
    (console.sink a.settings.traceColor) a.transcript = ended at hends hrecorder
  obtain ⟨result, r, transcript⟩ := ended
  obtain rfl : r = _ := hrecorder
  exact ⟨hs.reactions ▸ hends, hsettings,
    { hs with evaluated := congrArg (· ++ [code]) hs.evaluated }⟩

lemma Matches.evaluateCart (h : p.Matches m evaluated a) (hdies : Recorder.NeverDies p.reactions)
    (hup : m.runtime = .running) (console : Console) (code : String) :
    Recorder.Ends p.reactions code (a.evaluateCart console code).result
      ∧ p.Matches m (evaluated ++ [code]) (a.evaluateCart console code).adapter :=
  (h.note _ _).evaluate hdies hup console code

lemma Matches.runForgiving (h : p.Matches m evaluated a) (hdies : Recorder.NeverDies p.reactions)
    (hup : m.runtime = .running) (console : Console) (code : String) :
    (a.runForgiving console code).result = .ok ()
      ∧ p.Matches m (evaluated ++ [code]) (a.runForgiving console code).adapter := by
  obtain ⟨hends, hmatches⟩ := h.evaluate hdies hup console code
  refine ⟨?_, hmatches.congr (a.session_runForgiving console code) ?_⟩
  · rw [Adapter.result_runForgiving]
    rw [Recorder.Ends] at hends
    split at hends
    · obtain ⟨reason, hreason⟩ := hends
      rw [hreason]
      rfl
    · rw [hends]
      rfl
  · simp only [Adapter.runForgiving]
    split <;> rfl

/-- The forwarders of all keywords are evaluated, in order, and defining them succeeds. -/
lemma Matches.defineForwarders (h : p.Matches m evaluated a)
    (hdies : Recorder.NeverDies p.reactions) (hup : m.runtime = .running) (console : Console)
    (keywords : List String) :
    (Adapter.defineForwarders console keywords a).result = .ok ()
      ∧ p.Matches m (evaluated ++ keywords.map Source.forwarder)
          (Adapter.defineForwarders console keywords a).adapter := by
  induction keywords generalizing a evaluated with
  | nil => exact ⟨rfl, by rwa [List.map_nil, List.append_nil]⟩
  | cons keyword rest ih =>
      obtain ⟨hresult, hmatches⟩ := h.runForgiving hdies hup console (Source.forwarder keyword)
      simp only [Adapter.defineForwarders, Attempt.andThen, hresult]
      simpa using ih hmatches

/-! ### Starting -/

/-- How a start ends: with success if the machine comes up, otherwise with a fault that says so. -/
def StartEnds {α : Type} (machine : Bool × Lifecycle) : Except Fault α → Prop
  | .ok _ => machine.1 = true ∧ machine.2.runtime = .running
  | .error fault => machine.1 = false ∧ fault.isDown = true

lemma startEnds_map {α β : Type} {machine : Bool × Lifecycle} {result : Except Fault α}
    (h : StartEnds machine result) (f : α → β) : StartEnds machine (result.map f) := by
  cases result with
  | ok value => exact h
  | error fault => exact h

/-- The attempts of a start end as those of the machine. -/
lemma Follows.startAttempts (h : p.Follows m evaluated s) (attempts : UInt32) (left : ℕ)
    (reason : String) :
    let t := s.startAttempts p.settings.argv attempts left reason
    StartEnds (p.attempts left m) t.result
      ∧ p.Follows (p.attempts left m).2 evaluated t.session := by
  induction left generalizing reason m s with
  | zero => exact ⟨⟨rfl, rfl⟩, h⟩
  | succ left ih =>
      have hstarts : s.interpreter.starts + 1 = m.starts + 1 := congrArg (· + 1) h.starts
      have hstart : Interpreter.start p.settings.argv s.interpreter
          = Recorder.start p.settings.argv s.interpreter := rfl
      by_cases hfails : m.starts + 1 ≤ p.failingStarts
      · rw [Recorder.start, hstarts, h.failingStarts, if_pos hfails] at hstart
        simp only [Session.startAttempts, Rehearsal.attempts, hstart, if_pos hfails]
        have hnext : p.Follows { m with starts := m.starts + 1 } evaluated
            { s with interpreter :=
              { s.interpreter with starts := m.starts + 1, failingStarts := p.failingStarts } } :=
          { h with
            starts := rfl
            failingStarts := rfl }
        exact ih hnext _
      · rw [Recorder.start, hstarts, h.failingStarts, if_neg hfails] at hstart
        simp only [Session.startAttempts, Rehearsal.attempts, hstart, if_neg hfails]
        exact ⟨⟨rfl, rfl⟩, { h with
          runtime := rfl
          attached := rfl
          up := fun _ => rfl
          running := rfl
          starts := rfl
          failingStarts := rfl }⟩

lemma Follows.start (h : p.Follows m evaluated s) :
    let t := s.start p.settings.argv p.settings.maxStartAttempts
    StartEnds (p.startUp m) t.result ∧ p.Follows (p.startUp m).2 evaluated t.session := by
  obtain ⟨runtime, attached, starts⟩ := m
  have hruntime : s.runtime = runtime := h.runtime
  cases runtime with
  | notStarted =>
      simp only [startUp, Session.start, hruntime]
      exact h.startAttempts _ _ _
  | running =>
      simp only [startUp, Session.start, hruntime]
      exact ⟨⟨rfl, rfl⟩, { h with
        runtime := rfl
        attached := rfl
        up := fun _ => rfl }⟩
  | shutDown =>
      simp only [startUp, Session.start, hruntime, h.canRestart]
      split
      · exact h.startAttempts _ _ _
      · exact ⟨⟨rfl, rfl⟩, h⟩

lemma Matches.start (h : p.Matches m evaluated a) :
    StartEnds (p.startUp m) a.start.result
      ∧ p.Matches (p.startUp m).2 evaluated a.start.adapter := by
  obtain ⟨hsettings, hs⟩ := h
  obtain ⟨hends, hfollows⟩ := hs.start
  rw [← hsettings] at hends hfollows
  refine ⟨?_, a.settings_start.trans hsettings, ?_⟩
  · rw [Adapter.result_start]
    exact startEnds_map hends _
  · rwa [Adapter.session_start]

/-! ### Letting go -/

/-- Letting go always succeeds: a wipe that raises an error counts as success. -/
lemma Matches.release (h : p.Matches m evaluated a) (hdies : Recorder.NeverDies p.reactions)
    (hattached : m.attached = true) (console : Console) :
    (a.release console).result = .ok ()
      ∧ p.Matches (p.letGo m).2 (evaluated ++ (p.letGo m).1) (a.release console).adapter := by
  have hup := h.session.up hattached
  have hask := h.session.canRestart
  have hasked : p.Matches m evaluated a.asked :=
    h.congr (congrArg Prod.snd hask) rfl
  cases hrestartable : p.restartable with
  | true =>
      rw [Adapter.release_of_canRestart (by rw [hask, hrestartable])]
      simp only [letGo, hrestartable, if_true, List.append_nil]
      refine ⟨rfl, hasked.settings, ?_⟩
      simp only [Adapter.done, Adapter.session_shutDown, Session.stop,
        hasked.session.runtime.trans hup, if_true]
      exact { hasked.session with
        runtime := rfl
        attached := rfl
        up := fun h => absurd h Bool.false_ne_true
        running := rfl }
  | false =>
      rw [Adapter.release_of_not_canRestart (by rw [hask, hrestartable])]
      obtain ⟨hresult, hmatches⟩ := hasked.runForgiving hdies hup console Source.wipe
      simp only [letGo, hrestartable, Bool.false_eq_true, if_false]
      exact ⟨hresult, hmatches.settings, { hmatches.session with
        attached := rfl
        up := fun h => absurd h Bool.false_ne_true }⟩

lemma Matches.releaseAttached (h : p.Matches m evaluated a)
    (hdies : Recorder.NeverDies p.reactions) (console : Console) :
    (a.releaseAttached console).result = .ok ()
      ∧ p.Matches (p.clear m).2 (evaluated ++ (p.clear m).1)
          (a.releaseAttached console).adapter := by
  have hattached := h.session.attached
  cases hm : m.attached with
  | true =>
      simp only [Adapter.releaseAttached, clear, hattached.trans hm, hm, if_true]
      exact (h.note _ _).release hdies hm console
  | false =>
      simp only [Adapter.releaseAttached, clear, hattached.trans hm, hm, Bool.false_eq_true,
        if_false, List.append_nil]
      exact ⟨rfl, h⟩

/-! ### Loading -/

/-- Whether the session was made ready depends on the start alone. -/
lemma Matches.prepare (h : p.Matches m evaluated a) (hdies : Recorder.NeverDies p.reactions)
    (console : Console) :
    let started := p.startUp (p.clear m).2
    StartEnds started (a.prepare console).result
      ∧ p.Matches started.2
          (evaluated ++ (p.clear m).1
            ++ if started.1 then console.keywords.map Source.forwarder else [])
          (a.prepare console).adapter := by
  obtain ⟨hcleared, hclear⟩ := h.releaseAttached hdies console
  obtain ⟨hends, hstart⟩ := hclear.start
  simp only [Adapter.prepare, Adapter.andThen_of_ok hcleared]
  cases hresult : (a.releaseAttached console).adapter.start.result with
  | error fault =>
      rw [Adapter.andThen_of_error hresult, hresult]
      rw [hresult] at hends
      rw [hends.1]
      exact ⟨hends, by rwa [if_neg Bool.false_ne_true, List.append_nil]⟩
  | ok u =>
      rw [Adapter.andThen_of_ok hresult]
      rw [hresult] at hends
      obtain ⟨hdefined, hforwarders⟩ :=
        hstart.defineForwarders hdies hends.2 console console.keywords
      rw [hdefined, hends.1]
      exact ⟨hends, hforwarders⟩

/-- Loading never ends in the death of the interpreter. -/
lemma Matches.load (h : p.Matches m evaluated a) (hdies : Recorder.NeverDies p.reactions)
    (console : Console) (code : String) :
    (∀ reason, (a.load console code).result ≠ .error (.fatal reason))
      ∧ p.Matches (p.load console.keywords code m).2
          (evaluated ++ (p.load console.keywords code m).1) (a.load console code).adapter := by
  obtain ⟨hends, hprepared⟩ := h.prepare hdies console
  simp only [Rehearsal.load]
  generalize p.startUp (p.clear m).2 = started at hends hprepared
  obtain ⟨up, n⟩ := started
  cases hresult : (a.prepare console).result with
  | error fault =>
      rw [hresult] at hends
      obtain ⟨rfl, hdown⟩ := hends
      rw [Adapter.load_of_prepare_error hresult]
      refine ⟨fun reason hfatal => ?_, by simpa using hprepared⟩
      rw [hresult] at hfatal
      cases hfatal
      cases hdown
  | ok u =>
      rw [hresult] at hends
      obtain ⟨rfl, hrunning⟩ := hends
      rw [Adapter.load, Adapter.andThen_of_ok hresult]
      obtain ⟨hcart, hevaluated⟩ := hprepared.evaluateCart hdies hrunning console code
      by_cases hraises : Recorder.raisesOn p.reactions code = true
      · rw [Recorder.Ends, if_pos hraises] at hcart
        obtain ⟨reason, hreason⟩ := hcart
        rw [Adapter.andThen_of_error hreason]
        refine ⟨fun _ hfatal => ?_, ?_⟩
        · cases hreason.symm.trans hfatal
        · simpa [hraises] using hevaluated
      · rw [Recorder.Ends, if_neg hraises] at hcart
        obtain ⟨hfallback, hmatches⟩ :=
          hevaluated.runForgiving hdies hrunning console Source.bootFallback
        rw [Adapter.andThen_of_ok hcart]
        refine ⟨fun _ hfatal => ?_, ?_⟩
        · cases hfallback.symm.trans hfatal
        · simpa [hraises] using hmatches

/-! ### Operations -/

/-- An operation that returns, leaving adapter and machine where they match. -/
structure Keeps {α : Type} (p : Rehearsal) (m : Lifecycle) (evaluated : List String)
    (o : Outcome Recorder α) : Prop where
  returned : ∃ answer, o.ending = .returned answer
  adapter : p.Matches m evaluated o.adapter

lemma Keeps.map {α β : Type} {o : Outcome Recorder α} (h : p.Keeps m evaluated o) (f : α → β) :
    p.Keeps m evaluated (o.map f) :=
  ⟨Outcome.returned_map_iff.mpr h.returned, h.adapter⟩

lemma Matches.conclude {t : Attempt Recorder} (h : p.Matches m evaluated t.adapter)
    (hresult : t.result = .ok ()) : p.Keeps m evaluated (Adapter.conclude t) := by
  rw [Adapter.conclude, hresult]
  exact ⟨⟨(), rfl⟩, h⟩

lemma Matches.fillEnvironment (h : p.Matches m evaluated a)
    (hsettable : ∀ e ∈ p.settings.env.entries, isSettable e.1 e.2 = true) :
    ∃ b, a.fillEnvironment = some b ∧ p.Matches m evaluated b := by
  rw [← h.settings] at hsettable
  obtain ⟨filled, hfilled⟩ := Environment.exists_fill_of_settable hsettable a.env
  rw [Adapter.fillEnvironment, hfilled]
  exact ⟨_, rfl, h.congr rfl rfl⟩

lemma Matches.init (h : p.Matches m evaluated a) (hdies : Recorder.NeverDies p.reactions)
    (hsettable : ∀ e ∈ p.settings.env.entries, isSettable e.1 e.2 = true) (console : Console)
    (code : String) :
    p.Keeps (p.load console.keywords code m).2
      (evaluated ++ (p.load console.keywords code m).1) (a.init console code) := by
  obtain ⟨b, hfill, hb⟩ := h.fillEnvironment hsettable
  obtain ⟨hfatal, hload⟩ := hb.load hdies console code
  refine ⟨?_, ?_⟩
  · simp only [Adapter.init_of_fill hfill, Adapter.concludeLoad]
    split
    · exact ⟨_, rfl⟩
    · next reason hreason => exact absurd hreason (hfatal reason)
    · exact ⟨_, rfl⟩
  · rw [Adapter.init_of_fill hfill]
    exact hload.congr (Adapter.session_concludeLoad _ _) (Adapter.settings_concludeLoad _ _)

lemma Matches.close (h : p.Matches m evaluated a) (hdies : Recorder.NeverDies p.reactions)
    (console : Console) :
    p.Keeps (p.clear m).2 (evaluated ++ (p.clear m).1) (a.close console) := by
  have hattached := h.session.attached
  cases hm : m.attached with
  | true =>
      obtain ⟨hresult, hmatches⟩ := h.release hdies hm console
      simp only [Adapter.close, clear, hattached.trans hm, hm, if_true]
      exact hmatches.conclude hresult
  | false =>
      simp only [Adapter.close, clear, hattached.trans hm, hm, Bool.false_eq_true, if_false,
        List.append_nil]
      exact ⟨⟨(), rfl⟩, h.note _ _⟩

lemma Matches.call (h : p.Matches m evaluated a) (hdies : Recorder.NeverDies p.reactions)
    (console : Console) (request : Source.GuardedCall) :
    p.Keeps (call request m).2 (evaluated ++ (call request m).1) (a.call console request) := by
  have hactive : a.session.isActive = (m.attached && m.runtime == .running) := by
    rw [Session.isActive, h.session.attached, h.session.runtime]
  simp only [Adapter.call, Rehearsal.call, hactive]
  cases hm : m.attached && m.runtime == .running with
  | true =>
      have hup : m.runtime = .running := by simpa using (Bool.and_eq_true_iff.mp hm).2
      obtain ⟨hresult, hmatches⟩ := h.runForgiving hdies hup console request.source
      exact hmatches.conclude hresult
  | false =>
      rw [if_neg Bool.false_ne_true, if_neg Bool.false_ne_true, List.append_nil]
      exact ⟨⟨(), rfl⟩, h.note _ _⟩

lemma Matches.eval (h : p.Matches m evaluated a) (hdies : Recorder.NeverDies p.reactions)
    (hsettable : ∀ e ∈ p.settings.env.entries, isSettable e.1 e.2 = true) (console : Console)
    (code : String) :
    p.Keeps (p.input console.keywords code m).2
      (evaluated ++ (p.input console.keywords code m).1) (a.eval console code) := by
  obtain ⟨b, hfill, hb⟩ := h.fillEnvironment hsettable
  have hruntime := hb.session.runtime
  rw [Adapter.eval, hfill]
  cases hm : m.runtime with
  | notStarted =>
      simp only [Rehearsal.input, hm, Adapter.mustStart, hruntime.trans hm, if_true]
      exact (hb.init hdies hsettable console code).map _
  | running =>
      obtain ⟨hresult, hmatches⟩ := hb.runForgiving hdies hm console code
      simp only [Rehearsal.input, hm, Adapter.mustStart, hruntime.trans hm, Bool.false_eq_true,
        if_false]
      exact hmatches.conclude hresult
  | shutDown =>
      simp only [Rehearsal.input, hm, Adapter.mustStart, hruntime.trans hm, hb.session.canRestart]
      split
      · exact (hb.init hdies hsettable console code).map _
      · -- what was shut down for good evaluates nothing, and says so
        have hne : b.session.runtime ≠ .running := by
          rw [hruntime, hm]
          decide
        simp only [List.append_nil, Adapter.runForgiving]
        rw [Adapter.evaluate_of_not_running hne]
        exact ⟨⟨(), rfl⟩, hb.congr rfl rfl⟩

/-- An operation does what the machine prescribes. -/
lemma Matches.perform (h : p.Matches m evaluated a) (hdies : Recorder.NeverDies p.reactions)
    (hsettable : ∀ e ∈ p.settings.env.entries, isSettable e.1 e.2 = true) (console : Console)
    (operation : Operation) :
    p.Keeps (p.step console operation m).2 (evaluated ++ (p.step console operation m).1)
      (a.perform console operation) := by
  cases operation with
  | init code => exact (h.init hdies hsettable console code).map _
  | close => exact (h.close hdies console).map _
  | tick => exact (h.call hdies console _).map _
  | boot => exact (h.call hdies console _).map _
  | menu index data => exact ((h.note _ _).call hdies console _).map _
  | border row data => exact ((h.note _ _).call hdies console _).map _
  | scanline row data => exact ((h.note _ _).call hdies console _).map _
  | eval code => exact (h.eval hdies hsettable console code).map _
  | invoke request => exact (h.call hdies console request).map _
  | outline code =>
      rw [step, List.append_nil]
      exact ⟨⟨_, rfl⟩, h.congr rfl rfl⟩

/-! ### Runs -/

/-- So does a run. -/
lemma Matches.afterAll (h : p.Matches m evaluated a) (hdies : Recorder.NeverDies p.reactions)
    (hsettable : ∀ e ∈ p.settings.env.entries, isSettable e.1 e.2 = true)
    (operations : List (Console × Operation)) :
    ∃ b, Adapter.afterAll operations a = some b
      ∧ p.Matches (p.run operations m).2 (evaluated ++ (p.run operations m).1.flatten) b := by
  induction operations generalizing a m evaluated with
  | nil => exact ⟨a, rfl, by rwa [run, List.flatten_nil, List.append_nil]⟩
  | cons asked rest ih =>
      obtain ⟨hreturned, hmatches⟩ := h.perform hdies hsettable asked.1 asked.2
      obtain ⟨b, hb, hrest⟩ := ih hmatches
      refine ⟨b, ?_, ?_⟩
      · rw [Adapter.afterAll_cons, Outcome.next?_eq_some_iff.mpr ⟨hreturned, rfl⟩]
        exact hb
      · rwa [run, List.flatten_cons, ← List.append_assoc]

/-- **The lifecycle of an adapter.**

Over a new recorder that never dies, and with settings that the environment accepts, every run
returns from each operation, and the recorder has evaluated exactly the snippets that the machine
prescribes, operation by operation. The session is where the machine is, so that whatever operation
comes next returns and evaluates what the machine prescribes there. -/
theorem evaluated_afterAll (p : Rehearsal) (hdies : Recorder.NeverDies p.reactions)
    (hsettable : ∀ e ∈ p.settings.env.entries, isSettable e.1 e.2 = true) (env : Environment)
    (operations : List (Console × Operation)) :
    ∃ a, Adapter.afterAll operations (p.adapter env) = some a
      ∧ a.session.interpreter.evaluated = (p.run operations {}).1.flatten
      ∧ a.session.runtime = (p.run operations {}).2.runtime
      ∧ a.session.attached = (p.run operations {}).2.attached
      ∧ ∀ (console : Console) (operation : Operation), ∃ answer,
        (a.perform console operation).ending = .returned answer
          ∧ (a.perform console operation).adapter.session.interpreter.evaluated
            = a.session.interpreter.evaluated
              ++ (p.step console operation (p.run operations {}).2).1 := by
  obtain ⟨a, ha, hmatches⟩ := (matches_adapter env).afterAll hdies hsettable operations
  have hs := hmatches.session
  refine ⟨a, ha, hs.evaluated, hs.runtime, hs.attached, fun console operation => ?_⟩
  obtain ⟨⟨answer, hanswer⟩, hnext⟩ := hmatches.perform hdies hsettable console operation
  exact ⟨answer, hanswer, by rw [hnext.session.evaluated, hs.evaluated]⟩

/-- A recorder whose first start fails and whose `stop` raises an error: the second cart gets no
`BOOT`, and no forwarder or cart is lost to what is typed between the two. -/
theorem evaluated_afterAll_unsteady :
    let p : Rehearsal := { failingStarts := 1, reactions := [("stop(", .raises "stopped")] }
    let console : Console := { keywords := ["cls"] }
    let operations : List (Console × Operation) := [(console, .init "x <- 1"), (console, .tick),
      (console, .close), (console, .eval "x"), (console, .init "stop('no')")]
    Recorder.NeverDies p.reactions
      ∧ (∀ e ∈ p.settings.env.entries, isSettable e.1 e.2 = true)
      ∧ ∃ a, Adapter.afterAll operations (p.adapter .empty) = some a
        ∧ a.session.interpreter.evaluated
          = [Source.forwarder "cls", "x <- 1", Source.bootFallback, Source.Hook.tick.call.source,
            Source.wipe, "x", Source.forwarder "cls", "stop('no')"] := by
  intro p console operations
  have hdies : Recorder.NeverDies p.reactions := by
    simp [Recorder.NeverDies, p, Reaction.isDeath]
  have hsettable : ∀ e ∈ p.settings.env.entries, isSettable e.1 e.2 = true := by decide +kernel
  obtain ⟨a, ha, hevaluated, -⟩ := evaluated_afterAll p hdies hsettable .empty operations
  exact ⟨hdies, hsettable, a, ha, hevaluated.trans (by decide +kernel)⟩

end Rehearsal

end RCart
