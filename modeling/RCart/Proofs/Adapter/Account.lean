import RCart.Proofs.Adapter.Cart
import RCart.Proofs.Adapter.Contract
import RCart.Proofs.Adapter.Failure

/-!
What an operation of an adapter over a recorder shows.

* `Session.TurnsAway`: the session turns code away that an operation comes to evaluate;
* `Adapter.Shows`, `Account`: the lines that a step shows are those of its calls, and the calls end
  as the step does;
* `Adapter.account_steps`: so it is with the steps of every operation;
* **`Adapter.lines_perform`**: every error is shown, once and in its place, and nothing comes after
  the failure of an operation.
-/

namespace RCart

/-! ### Evaluations -/

namespace Recorder

/-- What was decided when a recorder was built. -/
def asBuilt (r : Recorder) : Recorder :=
  { failingStarts := r.failingStarts, restartable := r.restartable, reactions := r.reactions }

/-- Nothing that is asked of a recorder changes how it was built. -/
lemma keeps_asBuilt (built : Recorder) :
    Interpreter.Keeps fun r : Recorder => r.asBuilt = built where
  start argv r h := by
    change (start argv r).2.asBuilt = built
    rw [start]
    split <;> exact h
  stop _ h := h
  canRestart _ h := h
  eval code sink w r h := by
    cases hrunning : r.running with
    | false =>
        rw [eval_of_not_running hrunning]
        exact h
    | true =>
        rw [run_eval_of_running sink hrunning]
        exact h

/-- What a recorder remembers: what it has evaluated, and what it was answered. -/
def memory (r : Recorder) : List String × List Value :=
  (r.evaluated, r.answers)

lemma memory_start (argv : List String) (r : Recorder) :
    (Interpreter.start argv r).2.memory = r.memory := by
  change (start argv r).2.memory = _
  rw [start]
  split <;> rfl

end Recorder

/-- An evaluation that was not refused shows its output, and then its error. -/
lemma InterpreterCall.lines_eval (color : UInt8) (reactions : List (String × Reaction))
    (code : String) {result : Except Fault Unit} (h : result ≠ .error .notStarted) :
    (InterpreterCall.eval code result).lines color reactions
      = Recorder.output color reactions code ++ errorLines color result := by
  rcases result with (_ | _) | _
  all_goals first | rfl | exact absurd rfl h

/-- A single evaluation ends as it does. -/
lemma endsBy_eval (settings : Settings) (turnedAway : Prop) (code : String)
    {result : Except Fault Unit}
    (h : ∀ fault, result = .error fault → fault.endsEvaluation = true) :
    EndsBy settings turnedAway [.eval code result] result := by
  cases result with
  | error fault => exact .of_failure (.evaluation code (h fault rfl))
  | ok u => exact .passed (Passage.evaluated code rfl).passed

/-- So does the wiping of an interpreter that has said that it cannot come back. -/
lemma endsBy_wipe (settings : Settings) (turnedAway : Prop) {result : Except Fault Unit}
    (h : ∀ fault, result = .error fault → fault.endsEvaluation = true) :
    EndsBy settings turnedAway [.canRestart false, .eval Source.wipe result] result := by
  cases result with
  | error fault => exact .of_failure (.wiping (h fault rfl))
  | ok u => exact .passed (Passage.wiped rfl).passed

lemma passed_permission (settings : Settings) (runtime : Runtime) :
    Passed settings (Session.permission runtime) := by
  cases runtime with
  | shutDown => exact Passage.permitted.passed
  | _ => exact .nothing

/-- A session turns code away that an operation comes to evaluate: the interpreter is not up and
cannot come back, and the session is attached, so that it is to be wiped, or the interpreter was
shut down, so that it is not started. -/
def Session.TurnsAway {σ : Type} [Interpreter σ] (s : Session σ) : Prop :=
  s.runtime ≠ .running ∧ s.canRestart.1 = false ∧ (s.attached = true ∨ s.runtime = .shutDown)

namespace Adapter

/-! ### The account of a step -/

/-- The reactions of the recorder of an adapter. -/
def reactions (a : Adapter (Watched Recorder)) : List (String × Reaction) :=
  a.session.interpreter.inner.reactions

/-- Nothing that an adapter does changes the reactions. -/
lemma reactions_of_moves {a b : Adapter (Watched Recorder)} (h : a.session.Moves b.session) :
    b.reactions = a.reactions := by
  have hbuilt : b.session.interpreter.inner.asBuilt = a.session.interpreter.inner.asBuilt :=
    h.keeps (Recorder.keeps_asBuilt _).watched rfl
  exact (Recorder.mk.inj hbuilt).2.2.2.2.2.2.2.2

/-- A start, in whatever it ends, adds nothing to what the recorder remembers. -/
lemma memory_start (a : Adapter (Watched Recorder)) :
    a.start.adapter.session.interpreter.inner.memory = a.session.interpreter.inner.memory := by
  rw [session_start]
  refine Session.keeps_start
    (P := fun w : Watched Recorder => w.inner.memory = a.session.interpreter.inner.memory)
    (fun argv w h => ?_) (fun w h => h) _ _ rfl
  exact (Recorder.memory_start argv w.inner).trans h

/-- A step makes the given calls. It shows their lines, in order, but for the error in which it ends
itself. -/
structure Shows (added : List InterpreterCall) (a : Adapter (Watched Recorder))
    (t : Attempt (Watched Recorder)) : Prop where
  settings : t.adapter.settings = a.settings
  reactions : t.adapter.reactions = a.reactions
  calls : t.adapter.session.calls = a.session.calls ++ added
  lines : ∃ passed, t.adapter.transcript.exchanges = a.transcript.exchanges ++ passed
    ∧ linesOf passed ++ errorLines a.settings.traceColor t.result
      = added.flatMap (InterpreterCall.lines a.settings.traceColor a.reactions)

/-- A step shows the lines of its calls, and its calls end as it does. A restart is only refused
when the interpreter was shut down, and `turnedAway` says that the session may have turned code
away. -/
structure Account (turnedAway : Prop) (a : Adapter (Watched Recorder))
    (t : Attempt (Watched Recorder)) : Prop where
  shutDown : t.result = .error .restartUnsupported → t.adapter.session.runtime = .shutDown
  accounted : ∃ added, Shows added a t ∧ EndsBy a.settings turnedAway added t.result

variable {turnedAway : Prop} {added : List InterpreterCall} {a : Adapter (Watched Recorder)}
  {t : Attempt (Watched Recorder)}

/-- Calls without evaluations show nothing. -/
lemma shows_of_no_eval (hsettings : t.adapter.settings = a.settings)
    (hreactions : t.adapter.reactions = a.reactions)
    (hcalls : t.adapter.session.calls = a.session.calls ++ added)
    (hexchanges : t.adapter.transcript.exchanges = a.transcript.exchanges)
    (hadded : ∀ call ∈ added, ∀ code result, call ≠ .eval code result)
    (herror : errorLines a.settings.traceColor t.result = []) : Shows added a t := by
  have hlines : added.flatMap (InterpreterCall.lines a.settings.traceColor a.reactions) = [] := by
    rw [List.flatMap_eq_nil_iff]
    intro call hcall
    cases call with
    | eval code result => exact absurd rfl (hadded _ hcall code result)
    | _ => rfl
  refine ⟨hsettings, hreactions, hcalls, [], ?_, ?_⟩
  · rw [hexchanges, List.append_nil]
  · rw [hlines, herror]
    rfl

/-- Of what a step shows after a success, the lines follow. -/
lemma Shows.append {u : Attempt (Watched Recorder)} {more : List InterpreterCall}
    (h : Shows added a t) (hok : t.result = .ok ()) (hmore : Shows more t.adapter u) :
    Shows (added ++ more) a u := by
  obtain ⟨hsettings, hreactions, hcalls, passed, hexchanges, hlines⟩ := h
  obtain ⟨hsettings', hreactions', hcalls', shown, hexchanges', hlines'⟩ := hmore
  rw [hsettings, hreactions] at hlines'
  rw [hok] at hlines
  refine ⟨hsettings'.trans hsettings, hreactions'.trans hreactions, ?_, passed ++ shown, ?_, ?_⟩
  · rw [hcalls', hcalls, List.append_assoc]
  · rw [hexchanges', hexchanges, List.append_assoc]
  · have hfirst : linesOf passed
        = added.flatMap (InterpreterCall.lines a.settings.traceColor a.reactions) :=
      (List.append_nil _).symm.trans hlines
    rw [linesOf_append, List.append_assoc, hlines', hfirst, List.flatMap_append]

/-- What a step has started from counts only as far as the session, the settings and what has
passed to the console go. -/
lemma Account.congr {b : Adapter (Watched Recorder)} (h : Account turnedAway b t)
    (hsession : b.session = a.session) (hsettings : b.settings = a.settings)
    (hexchanges : b.transcript.exchanges = a.transcript.exchanges) : Account turnedAway a t := by
  obtain ⟨hshut, added, ⟨hset, hreactions, hcalls, passed, hpassed, hlines⟩, hends⟩ := h
  have hsame : b.reactions = a.reactions := congrArg (·.interpreter.inner.reactions) hsession
  rw [hsession] at hcalls
  rw [hsettings] at hset hlines hends
  rw [hsame] at hreactions hlines
  rw [hexchanges] at hpassed
  exact ⟨hshut, added, ⟨hset, hreactions, hcalls, passed, hpassed, hlines⟩, hends⟩

/-- A note before a step does not count. -/
lemma Account.of_note {level : Level} {text : String}
    (h : Account turnedAway (a.note level text) t) : Account turnedAway a t :=
  h.congr rfl rfl rfl

lemma account_done (a : Adapter (Watched Recorder)) : Account turnedAway a a.done where
  shutDown := nofun
  accounted := ⟨[], shows_of_no_eval rfl rfl (List.append_nil _).symm rfl (by simp) rfl,
    .passed .nothing⟩

/-- One step after another, that comes to a session which turns nothing away. -/
lemma Account.andThen {next : Adapter (Watched Recorder) → Attempt (Watched Recorder)}
    (h : Account turnedAway a t)
    (hnext : t.result = .ok () → Account False t.adapter (next t.adapter)) :
    Account turnedAway a (t.andThen next) := by
  cases hresult : t.result with
  | error fault =>
      rw [andThen_of_error hresult]
      exact h
  | ok u =>
      rw [andThen_of_ok hresult]
      obtain ⟨-, added, hshows, hends⟩ := h
      obtain ⟨hshut, more, hmore, hlast⟩ := hnext hresult
      rw [hshows.settings] at hlast
      rw [hresult] at hends
      exact ⟨hshut, added ++ more, hshows.append hresult hmore, hlast.after hends.passed_of_ok⟩

/-- A session that turns nothing away need not be one that might. -/
lemma Account.of_false (h : Account False a t) : Account turnedAway a t := by
  change Account turnedAway a (a.done.andThen fun _ => t)
  exact (account_done a).andThen fun _ => h

/-- A session turns code away: it has asked its interpreter, which cannot come back, and nothing is
shown. -/
lemma account_turnedAway (haway : turnedAway) (hcan : a.session.canRestart.1 = false)
    (hresult : t.result = .error .notStarted)
    (hsettings : t.adapter.settings = a.settings)
    (hreactions : t.adapter.reactions = a.reactions)
    (hcalls : t.adapter.session.calls = a.asked.session.calls)
    (hexchanges : t.adapter.transcript.exchanges = a.transcript.exchanges) :
    Account turnedAway a t where
  shutDown hrefused := by
    cases hresult.symm.trans hrefused
  accounted := by
    have hasked : t.adapter.session.calls = a.session.calls ++ [.canRestart false] := by
      rw [hcalls, ← hcan]
      exact a.session.calls_canRestart
    refine ⟨_, shows_of_no_eval hsettings hreactions hasked hexchanges (by simp) ?_, ?_⟩
    all_goals rw [hresult]
    · rfl
    · exact .turnedAway haway

/-! ### Evaluating -/

/-- A recorder that was stopped behind the session's back refuses to evaluate. -/
lemma evaluate_of_refusing (hup : a.session.runtime = .running)
    (hdown : a.session.interpreter.inner.running = false) (console : Console) (code : String) :
    (a.evaluate console code).result = .error .notStarted
      ∧ (a.evaluate console code).adapter.transcript.exchanges = a.transcript.exchanges := by
  rw [evaluate_of_running hup]
  simp only [Watched.eval_eq_settle, Evaluation.run_settle, Recorder.eval_of_not_running hdown]
  exact ⟨rfl, rfl⟩

/-- Any other ends as the reactions that fire say, and shows their lines. -/
lemma evaluate_of_reacting (hup : a.session.runtime = .running)
    (hrunning : a.session.interpreter.inner.running = true) (console : Console) (code : String) :
    (a.evaluate console code).result = Recorder.verdict (Recorder.fired code a.reactions)
      ∧ ∃ passed, (a.evaluate console code).adapter.transcript.exchanges
          = a.transcript.exchanges ++ passed
        ∧ linesOf passed = Recorder.output a.settings.traceColor a.reactions code := by
  rw [evaluate_of_running hup]
  simp only [Watched.eval_eq_settle, Evaluation.run_settle,
    Recorder.run_eval_of_running _ hrunning]
  exact ⟨rfl, Recorder.exchanges_receive console a.settings.traceColor
    (Recorder.fired code a.reactions) _⟩

/-- What is evaluated by an interpreter that is up shows its lines. -/
lemma shows_evaluate (hup : a.session.runtime = .running) (console : Console) (code : String) :
    Shows [.eval code (a.evaluate console code).result] a (a.evaluate console code) := by
  refine ⟨rfl, reactions_of_moves (a.moves_evaluate console code), calls_evaluate hup console code,
    ?_⟩
  cases hrunning : a.session.interpreter.inner.running with
  | false =>
      obtain ⟨hresult, hexchanges⟩ := evaluate_of_refusing hup hrunning console code
      refine ⟨[], ?_, ?_⟩
      · rw [hexchanges, List.append_nil]
      · rw [hresult]
        rfl
  | true =>
      obtain ⟨hresult, passed, hexchanges, hlines⟩ := evaluate_of_reacting hup hrunning console code
      refine ⟨passed, hexchanges, ?_⟩
      rw [List.flatMap_singleton, hlines, hresult,
        InterpreterCall.lines_eval _ _ _ (Recorder.verdict_ne_notStarted _)]

/-- An evaluation fails because it is refused, or in an error or death. -/
lemma endsEvaluation_of_evaluate (hup : a.session.runtime = .running) (console : Console)
    (code : String) {fault : Fault} (h : (a.evaluate console code).result = .error fault) :
    fault.endsEvaluation = true := by
  cases hrunning : a.session.interpreter.inner.running with
  | false =>
      cases (evaluate_of_refusing hup hrunning console code).1.symm.trans h
      rfl
  | true =>
      rw [(evaluate_of_reacting hup hrunning console code).1] at h
      obtain hok | ⟨reason, herror⟩ | ⟨reason, -, hfatal⟩ :=
        Recorder.verdict_cases (Recorder.fired code a.reactions)
      · cases hok.symm.trans h
      · cases herror.symm.trans h
        rfl
      · cases hfatal.symm.trans h
        rfl

/-- The error of a cart that is forgiven is shown in its place. -/
lemma Shows.runForgiving {console : Console} {code : String}
    (h : Shows added a (a.evaluate console code)) :
    Shows added a (a.runForgiving console code) := by
  rw [Adapter.runForgiving]
  split
  · next reason hreason =>
      obtain ⟨hsettings, hreactions, hcalls, passed, hexchanges, hlines⟩ := h
      rw [hreason] at hlines
      refine ⟨hsettings, hreactions, hcalls, passed ++ [.trace reason a.settings.traceColor], ?_,
        ?_⟩
      · rw [← List.append_assoc, ← hexchanges, ← hsettings]
        rfl
      · rw [linesOf_append, ← hlines]
        exact List.append_nil _
  · exact h

/-- An evaluation by an interpreter that is up is not refused for want of a restart. -/
lemma evaluate_ne_restartUnsupported (hup : a.session.runtime = .running) (console : Console)
    (code : String) : (a.evaluate console code).result ≠ .error .restartUnsupported :=
  fun h => absurd (endsEvaluation_of_evaluate hup console code h) Bool.false_ne_true

/-- Evaluations by an interpreter that is up are accounted for. -/
lemma account_evaluate (hup : a.session.runtime = .running) (console : Console) (code : String) :
    Account False a (a.evaluate console code) where
  shutDown h := absurd h (evaluate_ne_restartUnsupported hup console code)
  accounted := ⟨_, shows_evaluate hup console code,
    endsBy_eval _ _ code fun _ => endsEvaluation_of_evaluate hup console code⟩

lemma forgive_ne_restartUnsupported {result : Except Fault Unit}
    (h : result ≠ .error .restartUnsupported) : forgive result ≠ .error .restartUnsupported := by
  rcases result with (_ | _) | _
  all_goals first | exact h | nofun

lemma account_runForgiving (hup : a.session.runtime = .running) (console : Console)
    (code : String) : Account False a (a.runForgiving console code) := by
  have hresult := a.result_runForgiving console code
  refine ⟨fun h => ?_, _, (shows_evaluate hup console code).runForgiving, ?_⟩
  · exact absurd (hresult.symm.trans h)
      (forgive_ne_restartUnsupported (evaluate_ne_restartUnsupported hup console code))
  · rw [hresult]
    exact (endsBy_eval _ _ code fun _ => endsEvaluation_of_evaluate hup console code).forgive

/-- Forwarders are defined on an interpreter that is up. -/
lemma account_defineForwarders (console : Console) (keywords : List String)
    (hup : a.session.runtime = .running) :
    Account False a (defineForwarders console keywords a) := by
  induction keywords generalizing a with
  | nil => exact account_done a
  | cons keyword rest ih =>
      refine (account_runForgiving hup console _).andThen fun _ => ih ?_
      rw [session_runForgiving, runtime_evaluate, hup]

/-! ### Starting and letting go -/

lemma no_eval_permission (runtime : Runtime) :
    ∀ call ∈ Session.permission runtime, ∀ code result, call ≠ .eval code result := by
  cases runtime <;> simp [Session.permission]

lemma no_eval_failedStarts (argv : List String) (faults : List Fault) :
    ∀ call ∈ failedStarts argv faults, ∀ code result, call ≠ .eval code result := by
  intro call hcall
  obtain ⟨fault, -, rfl⟩ := List.mem_map.mp hcall
  nofun

/-- A start has no evaluations, so only its calls count. -/
lemma account_of_start {result : Except Fault Unit} (hresult : a.start.result = result)
    (herror : errorLines a.settings.traceColor result = [])
    (hshut : result = .error .restartUnsupported → a.start.adapter.session.runtime = .shutDown)
    (hcalls : a.start.adapter.session.calls = a.session.calls ++ added)
    (hadded : ∀ call ∈ added, ∀ code result, call ≠ .eval code result)
    (hends : EndsBy a.settings False added result) : Account False a a.start := by
  subst hresult
  exact ⟨hshut, added, shows_of_no_eval a.settings_start (reactions_of_moves a.moves_start) hcalls
    a.exchanges_start hadded herror, hends⟩

lemma account_start (a : Adapter (Watched Recorder)) : Account False a a.start := by
  have hresult := a.result_start
  have hsession := a.session_start
  cases Session.start_cases a.settings.argv a.settings.maxStartAttempts a.session with
  | held hruntime ht =>
      rw [ht] at hresult hsession
      have hcalls : a.start.adapter.session.calls = a.session.calls ++ [] := by
        rw [hsession, List.append_nil]
        rfl
      exact account_of_start hresult rfl nofun hcalls (by simp) (.passed .nothing)
  | refused hruntime hno ht =>
      rw [ht] at hresult hsession
      have hcalls : a.start.adapter.session.calls = a.session.calls ++ [.canRestart false] := by
        rw [hsession, Session.calls_canRestart, hno]
      have hshut : a.start.adapter.session.runtime = .shutDown := hsession ▸ hruntime
      exact account_of_start hresult rfl (fun _ => hshut) hcalls (by simp) (.of_failure .refused)
  | cameUp hruntime faults h =>
      rw [h.result] at hresult
      have hcalls : a.start.adapter.session.calls = a.session.calls
          ++ (Session.permission a.session.runtime
            ++ (failedStarts a.settings.argv faults ++ [.start a.settings.argv (.ok ())])) := by
        rw [hsession, h.calls]
        simp only [List.append_assoc]
      refine account_of_start hresult rfl nofun hcalls (fun call hcall => ?_)
        (.passed ((passed_permission _ _).append (Passage.cameUp faults h.fewer).passed))
      simp only [List.mem_append, List.mem_singleton] at hcall
      obtain hcall | hcall | rfl := hcall
      · exact no_eval_permission _ call hcall
      · exact no_eval_failedStarts _ _ call hcall
      · simp
  | gaveUp hruntime faults h =>
      rw [h.result] at hresult
      have hcalls : a.start.adapter.session.calls = a.session.calls
          ++ (Session.permission a.session.runtime ++ failedStarts a.settings.argv faults) := by
        rw [hsession, h.calls, List.append_assoc]
      refine account_of_start hresult rfl nofun hcalls (fun call hcall => ?_)
        (.failed (passed_permission _ _) (.gaveUp faults h.all))
      obtain hcall | hcall := List.mem_append.mp hcall
      · exact no_eval_permission _ call hcall
      · exact no_eval_failedStarts _ _ call hcall

/-- To ask shows nothing. -/
lemma shows_asked (a : Adapter (Watched Recorder)) :
    Shows [.canRestart a.session.canRestart.1] a a.asked.done :=
  shows_of_no_eval rfl rfl a.session.calls_canRestart rfl (by simp) rfl

/-- An interpreter that can come back is asked before other steps. -/
lemma Account.of_asked (hcan : a.session.canRestart.1 = true) (h : Account False a.asked t) :
    Account turnedAway a t := by
  have hasked : Account turnedAway a a.asked.done := by
    refine ⟨nofun, _, a.shows_asked, ?_⟩
    rw [hcan]
    exact .passed Passage.permitted.passed
  change Account turnedAway a (a.asked.done.andThen fun _ => t)
  exact hasked.andThen fun _ => h

lemma account_shutDown (a : Adapter (Watched Recorder)) : Account False a a.shutDown.done := by
  by_cases hup : a.session.runtime = .running
  · have hstop : a.session.stop.1.interpreter.inner.reactions = a.reactions := by
      rw [Session.stop, if_pos hup]
      rfl
    refine ⟨by rintro ⟨⟩, _, ?_, .passed Passage.stopped.passed⟩
    exact shows_of_no_eval rfl hstop (Session.stop_of_running hup).2.2 rfl (by simp) rfl
  · have hstop := Session.stop_of_not_running hup
    refine ⟨by rintro ⟨⟩, [], shows_of_no_eval rfl ?_ ?_ rfl (by simp) rfl, .passed .nothing⟩
    · change a.session.stop.1.interpreter.inner.reactions = _
      rw [hstop]
      rfl
    · change a.session.stop.1.calls = _
      rw [hstop, List.append_nil]
      rfl

/-- An interpreter that is up and cannot come back is wiped. -/
lemma account_wiped (hup : a.session.runtime = .running) (hcan : a.session.canRestart.1 = false)
    (console : Console) : Account False a (a.asked.wipeAndDetach console) := by
  have hresult := a.asked.result_wipeAndDetach console
  have hends := endsBy_wipe a.settings False fun _ =>
    endsEvaluation_of_evaluate (a := a.asked) hup console Source.wipe
  have hasked := a.shows_asked
  rw [hcan] at hasked
  have hwiped : Shows [.eval Source.wipe (a.asked.evaluate console Source.wipe).result] a.asked
      (a.asked.runForgiving console Source.wipe) :=
    (shows_evaluate (a := a.asked) hup console Source.wipe).runForgiving
  refine ⟨fun h => ?_, _, hasked.append rfl ⟨hwiped.settings, hwiped.reactions, hwiped.calls,
    hwiped.lines⟩, ?_⟩
  · exact absurd (hresult.symm.trans h) (forgive_ne_restartUnsupported
      (evaluate_ne_restartUnsupported (a := a.asked) hup console Source.wipe))
  · rw [hresult]
    exact hends.forgive

/-- One that is not up, and cannot come back, cannot be wiped either. -/
lemma account_unwiped (hdown : a.session.runtime ≠ .running)
    (hcan : a.session.canRestart.1 = false) (haway : turnedAway) (console : Console) :
    Account turnedAway a (a.asked.wipeAndDetach console) := by
  have hwipe := runForgiving_of_not_running (a := a.asked) hdown console Source.wipe
  have hsettled : a.asked.wipeAndDetach console = ⟨.error .notStarted,
      ({ a.asked with session := a.asked.session.detach } : Adapter _).note .info
        "session detached"⟩ := by
    simp only [wipeAndDetach, hwipe]
  rw [hsettled]
  exact account_turnedAway haway hcan rfl rfl rfl rfl rfl

/-- A session is let go by a shutdown or by wiping, unless it turns the wiping away. -/
lemma account_release (console : Console)
    (haway : a.session.runtime ≠ .running → a.session.canRestart.1 = false → turnedAway) :
    Account turnedAway a (a.release console) := by
  cases hcan : a.session.canRestart.1 with
  | true =>
      rw [release_of_canRestart hcan]
      exact (account_shutDown a.asked).of_asked hcan
  | false =>
      rw [release_of_not_canRestart hcan]
      by_cases hup : a.session.runtime = .running
      · exact (account_wiped hup hcan console).of_false
      · exact account_unwiped hup hcan (haway hup hcan) console

lemma account_releaseAttached (console : Console) (a : Adapter (Watched Recorder)) :
    Account a.session.TurnsAway a (a.releaseAttached console) := by
  rw [releaseAttached]
  split
  · next hattached =>
      refine Account.of_note (account_release console fun hdown hcan => ?_)
      exact ⟨hdown, hcan, .inl hattached⟩
  · exact account_done a

/-! ### Loading -/

lemma account_prepare (console : Console) (a : Adapter (Watched Recorder)) :
    Account a.session.TurnsAway a (a.prepare console) := by
  have hstarted : Account a.session.TurnsAway a ((a.releaseAttached console).andThen start) :=
    (a.account_releaseAttached console).andThen fun _ => account_start _
  refine hstarted.andThen fun hok => account_defineForwarders console _ ?_
  obtain ⟨-, hstart, heq⟩ := ok_of_andThen hok
  rw [heq]
  exact (start_of_ok hstart).1

lemma account_load (console : Console) (code : String) (a : Adapter (Watched Recorder)) :
    Account a.session.TurnsAway a (a.load console code) := by
  have hcart : Account a.session.TurnsAway a
      ((a.prepare console).andThen (evaluateCart console code)) := by
    refine (a.account_prepare console).andThen fun hok => ?_
    have hup := (prepare_of_ok hok).2.2.1
    exact (account_evaluate (a := (a.prepare console).adapter.note _ _) hup console code).of_note
  refine hcart.andThen fun hok => account_runForgiving ?_ console _
  obtain ⟨hprepared, -, heq⟩ := ok_of_andThen hok
  rw [heq]
  exact (runtime_evaluate console code _).trans (prepare_of_ok hprepared).2.2.1

/-! ### Operations -/

/-- Variables that get their defaults do not count either. -/
lemma Account.of_fill {b : Adapter (Watched Recorder)} (hfill : a.fillEnvironment = some b)
    (h : Account turnedAway b t) : Account turnedAway a t := by
  obtain ⟨filled, -, rfl⟩ := Option.map_eq_some_iff.mp hfill
  exact h.congr rfl rfl rfl

lemma account_initSteps (console : Console) (code : String) (a : Adapter (Watched Recorder)) :
    Account a.session.TurnsAway a (a.initSteps console code) := by
  rw [initSteps]
  split
  · exact account_done a
  · next b hfill =>
      rw [← session_of_fillEnvironment hfill]
      exact (b.account_load console code).of_fill hfill

/-- A cart function is called only if the interpreter is up. -/
lemma account_callSteps (console : Console) (request : Source.GuardedCall)
    (a : Adapter (Watched Recorder)) : Account False a (a.callSteps console request) := by
  rw [callSteps]
  split
  · next hactive =>
      have hup : a.session.runtime = .running := by
        simpa using (Bool.and_eq_true_iff.mp hactive).2
      exact account_runForgiving hup console _
  · exact account_done a

/-- Console input is evaluated, or loaded as a cart, or turned away. -/
lemma account_inputSteps (console : Console) (code : String) (a : Adapter (Watched Recorder)) :
    Account a.session.TurnsAway a
      (if a.mustStart.1 then a.mustStart.2.initSteps console code
        else a.mustStart.2.runForgiving console code) := by
  cases hruntime : a.session.runtime with
  | notStarted =>
      have hmust : a.mustStart = (true, a) := by simp only [mustStart, hruntime]
      rw [hmust, if_pos rfl]
      exact a.account_initSteps console code
  | running =>
      have hmust : a.mustStart = (false, a) := by simp only [mustStart, hruntime]
      rw [hmust, if_neg Bool.false_ne_true]
      exact (account_runForgiving hruntime console code).of_false
  | shutDown =>
      have hmust : a.mustStart = (a.session.canRestart.1, a.asked) := by
        simp only [mustStart, hruntime]
        rfl
      rw [hmust]
      split
      · next hcan =>
          -- a recorder gives the same answer when it is asked again, so nothing is turned away
          have hagain : a.asked.session.canRestart.1 = true := hcan
          have hload := a.asked.account_initSteps console code
          have haway : a.asked.session.TurnsAway = False :=
            eq_false fun h => absurd (h.2.1.symm.trans hagain) Bool.false_ne_true
          rw [haway] at hload
          exact hload.of_asked hcan
      · next hcan =>
          have hno : a.session.canRestart.1 = false := eq_false_of_ne_true hcan
          have hdown : a.session.runtime ≠ .running := by
            rw [hruntime]
            decide
          rw [runForgiving_of_not_running (a := a.asked) hdown]
          exact account_turnedAway ⟨hdown, hno, .inr hruntime⟩ hno rfl rfl rfl rfl rfl

/-- The steps of an operation show the lines of their calls, and the calls end as the steps do. -/
lemma account_steps (console : Console) (operation : Operation) (a : Adapter (Watched Recorder)) :
    Account a.session.TurnsAway a (a.steps console operation) := by
  cases operation with
  | init code => exact a.account_initSteps console code
  | close =>
      rw [steps]
      split
      · next hattached =>
          exact account_release console fun hdown hcan => ⟨hdown, hcan, .inl hattached⟩
      · exact account_done a
  | tick => exact (a.account_callSteps console _).of_false
  | boot => exact (a.account_callSteps console _).of_false
  | menu index data => exact ((a.note _ _).account_callSteps console _).of_note.of_false
  | border row data => exact ((a.note _ _).account_callSteps console _).of_note.of_false
  | scanline row data => exact ((a.note _ _).account_callSteps console _).of_note.of_false
  | eval code =>
      rw [steps]
      split
      · exact account_done a
      · next b hfill =>
          rw [← session_of_fillEnvironment hfill]
          exact (b.account_inputSteps console code).of_fill hfill
  | invoke request => exact (a.account_callSteps console request).of_false
  | outline code => exact account_done a

/-! ### Errors -/

/-- The adapter with its interpreter under watch from now on. -/
def watched {σ : Type} (a : Adapter σ) : Adapter (Watched σ) :=
  a.mapInterpreter fun interpreter => { inner := interpreter }

/-- How the steps of an operation end. -/
def resultOf {σ : Type} [Interpreter σ] (console : Console) (operation : Operation)
    (a : Adapter σ) : Except Fault Unit :=
  (a.steps console operation).result

/-- An operation shows the lines of its calls, and then its closing line. -/
lemma account_perform (console : Console) (operation : Operation)
    (a : Adapter (Watched Recorder)) :
    let outcome := a.perform console operation
    let result := a.resultOf console operation
    let color := a.settings.traceColor
    ∃ added during, outcome.adapter.session.calls = a.session.calls ++ added
      ∧ outcome.adapter.transcript.exchanges = a.transcript.exchanges ++ during
        ++ (closingLines color result).map TraceLine.exchange
      ∧ linesOf during = added.flatMap (InterpreterCall.lines color a.reactions)
      ∧ EndsBy a.settings a.session.TurnsAway added result := by
  intro outcome result color
  obtain ⟨-, added, ⟨hsettings, -, hcalls, passed, hexchanges, hlines⟩, hends⟩ :=
    a.account_steps console operation
  have hconcludes := a.concludes_perform console operation
  refine ⟨added, passed ++ (errorLines color result).map TraceLine.exchange, ?_, ?_, ?_, hends⟩
  · rw [hconcludes.session, hcalls]
  · rw [hconcludes.exchanges, hexchanges, hsettings, List.map_append]
    simp only [List.append_assoc]
    rfl
  · rw [linesOf_append, linesOf_map_exchange]
    exact hlines

/-- **No error is lost or shown twice**, in whatever state an adapter over a recorder is.

Its interpreter watched, an operation does what it does unwatched. The lines that it shows are those
of its calls, in order: for each evaluation what the reactions to the code show, and then the error
of the cart if it has ended in one. If the operation fails with anything else, one more line says
so, at the very end. The calls end where the failure is: nothing is evaluated, started or stopped
after it, and before it no start has given up or been refused. So it is with all calls of an
operation that succeeds. A session that turns code away has only asked its interpreter whether it
can come back. The process ends exactly when the interpreter cannot go on. -/
theorem lines_perform (console : Console) (operation : Operation) (a : Adapter Recorder) :
    let outcome := a.watched.perform console operation
    let calls := outcome.adapter.session.calls
    let result := a.watched.resultOf console operation
    let color := a.settings.traceColor
    outcome.mapInterpreter Watched.inner = a.perform console operation
      ∧ (∃ during, outcome.adapter.transcript.exchanges
            = a.transcript.exchanges ++ during ++ (closingLines color result).map TraceLine.exchange
          ∧ linesOf during
            = calls.flatMap (InterpreterCall.lines color a.session.interpreter.reactions))
      ∧ EndsBy a.settings a.session.TurnsAway calls result
      ∧ (outcome.ending = .terminated ↔ ∃ reason, result = .error (.fatal reason)) := by
  intro outcome calls result color
  obtain ⟨added, during, hcalls, hexchanges, hlines, hends⟩ :=
    a.watched.account_perform console operation
  have hadded : calls = added := hcalls.trans (List.nil_append added)
  rw [hadded]
  refine ⟨?_, ⟨during, hexchanges, hlines⟩, hends,
    (a.watched.concludes_perform console operation).terminated⟩
  exact (perform_mapInterpreter Watched.isMorphism_inner console operation a.watched).symm

end Adapter

end RCart
