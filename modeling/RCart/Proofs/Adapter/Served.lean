import RCart.Proofs.Adapter.Account
import RCart.Proofs.Adapter.Stride
import RCart.Proofs.Interpreter.Served

/-!
How an adapter over a recorder serves the calls that fire.

Three parties keep a list of the calls: the recorder that makes them, the consoles that receive
them, and the recorder again, which keeps the answers. The three agree.

* `Adapter.Adds`: what calls, answers and exchanges there are after some strides that there were not
  before;
* `Adapter.addsFor_perform`, `adds_afterAll`: what an operation, and a run, adds serves the calls
  that fire;
* **`Adapter.served_afterAll`**: no call is lost, doubled or moved, and each has the answer of the
  console that received it.
-/

namespace RCart

namespace Adapter

/-- The answers that the recorder of an adapter was given. -/
def answers (a : Adapter (Watched Recorder)) : List Value :=
  a.session.interpreter.inner.answers

/-! ### What is added -/

/-- From one adapter to another the interpreter has received more calls, the recorder was given more
answers and more has passed to the console, and all this serves the calls of the console that have
fired meanwhile. -/
structure Adds (a b : Adapter (Watched Recorder)) (added : List InterpreterCall)
    (given : List Value) (passed : List Exchange) : Prop where
  reactions : b.reactions = a.reactions
  calls : b.session.calls = a.session.calls ++ added
  answers : b.answers = a.answers ++ given
  exchanges : b.transcript.exchanges = a.transcript.exchanges ++ passed
  serves : Serves (added.flatMap (InterpreterCall.requests a.reactions)) given passed

variable {a b c : Adapter (Watched Recorder)} {added added' : List InterpreterCall}
  {given given' : List Value} {passed passed' : List Exchange}

lemma adds_nothing (a : Adapter (Watched Recorder)) : Adds a a [] [] [] :=
  ⟨rfl, (List.append_nil _).symm, (List.append_nil _).symm, (List.append_nil _).symm,
    serves_nil rfl⟩

lemma Adds.trans (hab : Adds a b added given passed) (hbc : Adds b c added' given' passed') :
    Adds a c (added ++ added') (given ++ given') (passed ++ passed') where
  reactions := hbc.reactions.trans hab.reactions
  calls := by rw [hbc.calls, hab.calls, List.append_assoc]
  answers := by rw [hbc.answers, hab.answers, List.append_assoc]
  exchanges := by rw [hbc.exchanges, hab.exchanges, List.append_assoc]
  serves := by
    rw [List.flatMap_append]
    exact hab.serves.append (hab.reactions ▸ hbc.serves)

/-- Calls without evaluations fire nothing. -/
lemma adds_of_no_eval (hcalls : b.session.calls = a.session.calls ++ added)
    (hadded : ∀ call ∈ added, ∀ code result, call ≠ .eval code result)
    (hreactions : b.reactions = a.reactions) (hanswers : b.answers = a.answers)
    (hexchanges : b.transcript.exchanges = a.transcript.exchanges ++ passed)
    (hlines : callsOf passed = []) : Adds a b added [] passed := by
  have hrequests : added.flatMap (InterpreterCall.requests a.reactions) = [] := by
    rw [List.flatMap_eq_nil_iff]
    intro call hmem
    cases call with
    | eval code result => exact absurd rfl (hadded _ hmem code result)
    | _ => rfl
  refine ⟨hreactions, hcalls, ?_, hexchanges, ?_⟩
  · rw [hanswers, List.append_nil]
  · rw [hrequests]
    exact serves_nil hlines

/-! ### Strides -/

variable {console : Console}

/-- What the console `console` is asked while something is added, it answers. -/
def AddsFor (console : Console) (a b : Adapter (Watched Recorder)) : Prop :=
  ∃ added given passed, Adds a b added given passed
    ∧ console.Answers a.transcript.exchanges passed

lemma AddsFor.trans (hab : AddsFor console a b) (hbc : AddsFor console b c) :
    AddsFor console a c := by
  obtain ⟨_, _, _, hfirst, hanswers⟩ := hab
  obtain ⟨_, _, _, hrest, hanswers'⟩ := hbc
  rw [hfirst.exchanges] at hanswers'
  exact ⟨_, _, _, hfirst.trans hrest, hanswers.append hanswers'⟩

/-- Where the session stays as it is and nothing passes, nothing is added. -/
lemma addsFor_of_same (hsession : b.session = a.session)
    (hexchanges : b.transcript.exchanges = a.transcript.exchanges) : AddsFor console a b := by
  have h := adds_nothing a
  refine ⟨[], [], [], ⟨?_, ?_, ?_, ?_, h.serves⟩, Console.answers_nil⟩
  · rw [reactions, hsession]
    rfl
  · rw [hsession]
    exact h.calls
  · rw [Adapter.answers, hsession]
    exact h.answers
  · rw [hexchanges]
    exact h.exchanges

lemma addsFor_line (text : String) (color : UInt8) (hsession : b.session = a.session)
    (hexchanges : b.transcript.exchanges = a.transcript.exchanges ++ [.trace text color]) :
    AddsFor console a b := by
  refine ⟨[], [], _, adds_of_no_eval ?_ (by simp) ?_ ?_ hexchanges rfl,
    Console.answers_trace text color⟩
  · rw [hsession, List.append_nil]
  · rw [reactions, hsession]
    rfl
  · rw [Adapter.answers, hsession]
    rfl

/-- What an evaluation adds. -/
lemma addsFor_evaluate (console : Console) (code : String) (a : Adapter (Watched Recorder)) :
    AddsFor console a (a.evaluate console code).adapter := by
  by_cases hup : a.session.runtime = .running
  · have hreactions := reactions_of_moves (a.moves_evaluate console code)
    have hcalls := calls_evaluate hup console code
    cases hrunning : a.session.interpreter.inner.running with
    | false =>
        obtain ⟨hresult, hexchanges⟩ := evaluate_of_refusing hup hrunning console code
        have hanswers : (a.evaluate console code).adapter.answers = a.answers := by
          rw [Adapter.answers, evaluate_of_running hup]
          simp only [Watched.eval_eq_settle, Evaluation.run_settle,
            Recorder.eval_of_not_running hrunning]
          rfl
        rw [hresult] at hcalls
        refine ⟨_, [], [], ⟨hreactions, hcalls, ?_, ?_, serves_nil rfl⟩, Console.answers_nil⟩
        · rw [hanswers, List.append_nil]
        · rw [hexchanges, List.append_nil]
    | true =>
        have hresult := (evaluate_of_reacting hup hrunning console code).1
        have hended : (a.evaluate console code).result ≠ .error .notStarted :=
          hresult ▸ Recorder.verdict_ne_notStarted _
        obtain ⟨passed, hexchanges, hserves, hconsole⟩ :=
          Recorder.serves_receive console a.settings.traceColor (Recorder.fired code a.reactions)
            (a.transcript.logAll [⟨.debug, "recording eval: " ++ code⟩])
        rw [← InterpreterCall.requests_eval a.reactions code hended,
          ← List.flatMap_singleton (InterpreterCall.requests a.reactions)] at hserves
        refine ⟨_, _, passed, ⟨hreactions, hcalls, ?_, ?_, hserves⟩, hconsole⟩
        · rw [Adapter.answers, evaluate_of_running hup]
          simp only [Watched.eval_eq_settle, Evaluation.run_settle,
            Recorder.run_eval_of_running _ hrunning]
          rfl
        · rw [evaluate_of_running hup]
          simp only [Watched.eval_eq_settle, Evaluation.run_settle,
            Recorder.run_eval_of_running _ hrunning]
          exact hexchanges
  · rw [evaluate_of_not_running hup]
    exact addsFor_of_same rfl rfl

/-- A start evaluates nothing. -/
lemma addsFor_start (a : Adapter (Watched Recorder)) : AddsFor console a a.start.adapter := by
  obtain ⟨asked, starts, hcalls, hasked, hstarts, -⟩ :=
    Session.calls_start a.settings.argv a.settings.maxStartAttempts a.session
  have hanswers : a.start.adapter.answers = a.answers := congrArg Prod.snd a.memory_start
  refine ⟨asked ++ starts, [], [], adds_of_no_eval ?_ ?_ (reactions_of_moves a.moves_start) hanswers
    ?_ rfl, Console.answers_nil⟩
  · rw [session_start, hcalls]
  · intro call hmem
    obtain hmem | hmem := List.mem_append.mp hmem
    · obtain ⟨answer, rfl⟩ := hasked call hmem
      nofun
    · obtain ⟨result, rfl⟩ := hstarts call hmem
      nofun
  · rw [List.append_nil, exchanges_start]

lemma addsFor_shutDown (a : Adapter (Watched Recorder)) : AddsFor console a a.shutDown := by
  by_cases hup : a.session.runtime = .running
  · have hstop : a.shutDown.session.interpreter.inner = a.session.interpreter.inner.stop := by
      rw [session_shutDown, Session.stop, if_pos hup]
      rfl
    refine ⟨_, [], [], adds_of_no_eval (Session.stop_of_running hup).2.2 (by simp) ?_ ?_
      (List.append_nil _).symm rfl, Console.answers_nil⟩
    · rw [reactions, hstop]
      rfl
    · rw [Adapter.answers, hstop]
      rfl
  · have hstop : a.shutDown.session = { a.session with attached := false } :=
      Session.stop_of_not_running hup
    refine ⟨[], [], [], adds_of_no_eval ?_ (by simp) ?_ ?_ (List.append_nil _).symm rfl,
      Console.answers_nil⟩
    · rw [hstop, List.append_nil]
      rfl
    · rw [reactions, hstop]
      rfl
    · rw [Adapter.answers, hstop]
      rfl

/-- Whatever a stride adds serves the calls that fire. -/
lemma Stride.addsFor (h : Stride console a b) : AddsFor console a b := by
  cases h with
  | evaluate code => exact addsFor_evaluate console code a
  | tell text => exact addsFor_line text _ rfl rfl
  | fatal reason => exact addsFor_line _ _ rfl rfl
  | log records => exact addsFor_of_same rfl rfl
  | fill hfill =>
      obtain ⟨filled, -, rfl⟩ := Option.map_eq_some_iff.mp hfill
      exact addsFor_of_same rfl rfl
  | ask =>
      exact ⟨_, [], [], adds_of_no_eval a.session.calls_canRestart (by simp) rfl rfl
        (List.append_nil _).symm rfl, Console.answers_nil⟩
  | start => exact addsFor_start a
  | shutDown => exact addsFor_shutDown a
  | detach =>
      exact ⟨[], [], [], adds_of_no_eval (List.append_nil _).symm (by simp) rfl rfl
        (List.append_nil _).symm rfl, Console.answers_nil⟩
  | outline code => exact addsFor_of_same rfl rfl

lemma Strides.addsFor (h : Strides console a b) : AddsFor console a b := by
  induction h with
  | refl => exact addsFor_of_same rfl rfl
  | tail _ hlast ih => exact ih.trans hlast.addsFor

/-! ### Operations and runs -/

/-- So it is with what an operation adds, and the console that has asked for it gives the
answers. -/
lemma addsFor_perform (console : Console) (operation : Operation)
    (a : Adapter (Watched Recorder)) :
    AddsFor console a (a.perform console operation).adapter :=
  (a.strides_perform console operation).addsFor

lemma adds_afterAll {run : List (Console × Operation)} (hrun : afterAll run a = some b) :
    ∃ added given passed, Adds a b added given passed := by
  refine afterAll_keeps (P := fun c => ∃ added given passed, Adds a c added given passed)
    (fun asked _ c hc => ?_) ⟨[], [], [], adds_nothing a⟩ hrun
  obtain ⟨_, _, _, hbefore⟩ := hc
  obtain ⟨_, _, _, hlast, -⟩ := c.addsFor_perform asked.1 asked.2
  exact ⟨_, _, _, hbefore.trans hlast⟩

/-- **Calls are served in order**, over a recorder with any reactions, for any consoles, from any
state on.

Its interpreter watched, an adapter does what it does unwatched. After a run and one more operation,
which may end the process, take the calls of the console that have fired, evaluation by evaluation,
each up to the error or death that has cut it short. The recorder was given one answer to each, in
this order; the consoles have received those other than `trace`, in this order and with these
answers; those of `trace` have no value. What the operation has passed on its console has answered
itself, and the lines among it are those of its evaluations, where each call of `trace` has one line
in its place, and the closing line of a failure. -/
theorem served_afterAll (start : Adapter Recorder) {run : List (Console × Operation)}
    {a : Adapter (Watched Recorder)} (hrun : afterAll run start.watched = some a)
    (console : Console) (operation : Operation) :
    let outcome := a.perform console operation
    let last := outcome.adapter
    let reactions := start.session.interpreter.reactions
    let color := start.settings.traceColor
    (afterAll run start = some (a.mapInterpreter Watched.inner)
        ∧ (a.mapInterpreter Watched.inner).perform console operation
          = outcome.mapInterpreter Watched.inner)
      ∧ (∃ given passed,
        last.session.interpreter.inner.answers = start.session.interpreter.answers ++ given
          ∧ last.transcript.exchanges = start.transcript.exchanges ++ passed
          ∧ Serves (last.session.calls.flatMap (InterpreterCall.requests reactions)) given passed)
      ∧ ∃ added during, last.session.calls = a.session.calls ++ added
        ∧ last.transcript.exchanges = a.transcript.exchanges ++ during
        ∧ console.Answers a.transcript.exchanges during
        ∧ linesOf during = added.flatMap (InterpreterCall.lines color reactions)
          ++ closingLines color (a.resultOf console operation) := by
  intro outcome last reactions color
  obtain ⟨before, _, _, hbefore⟩ := adds_afterAll hrun
  obtain ⟨calls, _, passed, hadds, hanswers⟩ := a.addsFor_perform console operation
  have hall := hbefore.trans hadds
  have hcalls : last.session.calls = before ++ calls := hall.calls.trans (List.nil_append _)
  refine ⟨⟨?_, perform_mapInterpreter Watched.isMorphism_inner console operation a⟩,
    ⟨_, _, hall.answers, hall.exchanges, ?_⟩, calls, passed, hadds.calls, hadds.exchanges, hanswers,
    ?_⟩
  · have hinner : start = start.watched.mapInterpreter Watched.inner := rfl
    rw [hinner, afterAll_mapInterpreter Watched.isMorphism_inner, hrun]
    rfl
  · rw [hcalls]
    exact hall.serves
  · -- the lines are known from the account of the operation
    obtain ⟨added, during, hcalls, hexchanges, hlines, -⟩ := a.account_perform console operation
    obtain rfl : added = calls := List.append_cancel_left (hcalls.symm.trans hadds.calls)
    have hpassed : passed = during
        ++ (closingLines a.settings.traceColor (a.resultOf console operation)).map
          TraceLine.exchange := by
      rw [List.append_assoc] at hexchanges
      exact List.append_cancel_left (hadds.exchanges.symm.trans hexchanges)
    have hcolor : a.settings.traceColor = color := congrArg _ (settings_afterAll hrun)
    rw [hpassed, linesOf_append, linesOf_map_exchange, hlines, hbefore.reactions, hcolor]
    rfl

/-- A cart that draws and traces before it raises an error, loaded and then typed again: the four
calls that fire before the errors are served, and what comes after an error never fires. -/
theorem served_afterAll_cut :
    let pix : ApiCall := { name := "pix", args := [.bool true] }
    let line : ApiCall := { name := "trace", args := [.text "drawn"] }
    let recorder : Recorder := { reactions := [("pix", .calls pix), ("pix", .calls line),
      ("pix(", .raises "no ink"), ("pix", .calls { name := "cls" })] }
    let console : Console := { keywords := [], reply := fun _ _ => some (.text "done") }
    let start := fresh recorder {} .empty
    ∃ a, afterAll [(console, .init "pix(TRUE)")] start.watched = some a
      ∧ ∃ given passed,
        (a.perform console (.eval "pix(TRUE)")).adapter.session.interpreter.inner.answers = given
          ∧ (a.perform console (.eval "pix(TRUE)")).adapter.transcript.exchanges = passed
          ∧ Serves [pix, line, pix, line] given passed := by
  intro pix line recorder console start
  have hfired : (afterAll [(console, .init "pix(TRUE)")] start.watched).map
      (fun a => (a.perform console (.eval "pix(TRUE)")).adapter.session.calls.flatMap
        (InterpreterCall.requests recorder.reactions)) = some [pix, line, pix, line] := by
    decide +kernel
  obtain ⟨a, hrun, hcalls⟩ := Option.map_eq_some_iff.mp hfired
  obtain ⟨-, ⟨given, passed, hgiven, hpassed, hserves⟩, -⟩ :=
    served_afterAll start hrun console (.eval "pix(TRUE)")
  have hreactions : start.session.interpreter.reactions = recorder.reactions := rfl
  rw [hreactions, hcalls] at hserves
  exact ⟨a, hrun, given, passed, hgiven, hpassed, hserves⟩

end Adapter

end RCart
