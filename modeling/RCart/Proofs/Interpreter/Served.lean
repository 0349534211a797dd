import Mathlib.Data.List.Induction
import RCart.Proofs.Interpreter.Shown

/-!
How the calls are served that fire in evaluations.

* `InterpreterCall.requests`: the calls of the console that fire in a call on a recorder;
* `callsOf`: the calls among what passes to a console, with their answers;
* `Console.Answers`: the answers among what passes are those of the console;
* `Serves`: some calls have fired, and this is what the interpreter was answered and what passed to
  the console;
* `Recorder.serves_receive`: of what some reactions print and call, the calls are served, with the
  answers that the console has given.
-/

namespace RCart

/-! ### Calls that fire -/

/-- The call of the console that a reaction makes, if it does. -/
def Reaction.request? : Reaction → Option ApiCall
  | .calls request => some request
  | .prints _ | .raises _ | .dies _ => none

/-- The calls of the console that fire in a call on a recorder with the given reactions: those of
the reactions to the code, if it is an evaluation that was not refused. -/
def InterpreterCall.requests (reactions : List (String × Reaction)) :
    InterpreterCall → List ApiCall
  | .eval _ (.error .notStarted) | .start _ _ | .stop | .canRestart _ => []
  | .eval code _ => (Recorder.fired code reactions).filterMap Reaction.request?

/-- In an evaluation that was not refused, the calls of the reactions to the code fire. -/
lemma InterpreterCall.requests_eval (reactions : List (String × Reaction)) (code : String)
    {result : Except Fault Unit} (h : result ≠ .error .notStarted) :
    (InterpreterCall.eval code result).requests reactions
      = (Recorder.fired code reactions).filterMap Reaction.request? := by
  rcases result with (_ | _) | _
  all_goals first | rfl | exact absurd rfl h

/-! ### Calls that pass -/

/-- The call that passes to a console, with its answer, if it is one. -/
def Exchange.call? : Exchange → Option (ApiCall × Value)
  | .trace _ _ => none
  | .call request answer => some (request, answer)

/-- The calls among what passes to a console, with their answers. -/
def callsOf (exchanges : List Exchange) : List (ApiCall × Value) :=
  exchanges.filterMap Exchange.call?

@[simp] lemma callsOf_append (first rest : List Exchange) :
    callsOf (first ++ rest) = callsOf first ++ callsOf rest :=
  List.filterMap_append

/-- Each call among what has passed to a console after `history` was answered by it, knowing all
that had passed before. A function that it does not know has no value. -/
def Console.Answers (console : Console) (history passed : List Exchange) : Prop :=
  ∀ before request answer, before ++ [.call request answer] <+: passed →
    answer = (console.reply (history ++ before) request).getD .null

namespace Console

variable {console : Console} {history passed : List Exchange}

lemma answers_nil : console.Answers history [] := by
  intro before request answer h
  simpa using h.length_le

/-- One more exchange. -/
lemma Answers.concat (h : console.Answers history passed) {e : Exchange}
    (he : ∀ request answer, e = .call request answer →
      answer = (console.reply (history ++ passed) request).getD .null) :
    console.Answers history (passed ++ [e]) := by
  intro before request answer hbegins
  obtain heq | hbegins := List.prefix_concat_iff.mp hbegins
  · obtain ⟨rfl, hlast⟩ := List.append_inj' heq rfl
    exact he request answer (List.cons.inj hlast).1.symm
  · exact h before request answer hbegins

lemma Answers.append {more : List Exchange} (h : console.Answers history passed)
    (hmore : console.Answers (history ++ passed) more) :
    console.Answers history (passed ++ more) := by
  induction more using List.reverseRecOn with
  | nil => rwa [List.append_nil]
  | append_singleton more e ih =>
      have hbefore : console.Answers (history ++ passed) more :=
        fun before request answer hbegins =>
          hmore before request answer (hbegins.trans (List.prefix_append more [e]))
      rw [← List.append_assoc]
      refine (ih hbefore).concat fun request answer he => ?_
      rw [← List.append_assoc]
      exact hmore more request answer (he ▸ List.prefix_rfl)

/-- A line needs no answer. -/
lemma answers_trace (text : String) (color : UInt8) :
    console.Answers history [.trace text color] :=
  answers_nil.concat nofun

/-- What the console answers. -/
lemma answers_call (request : ApiCall) :
    console.Answers history [.call request ((console.reply history request).getD .null)] := by
  refine answers_nil.concat fun request answer he => ?_
  obtain ⟨rfl, rfl⟩ := Exchange.call.inj he
  rw [List.append_nil]

end Console

/-! ### Calls that are served -/

/-- Some calls have fired, in order; the interpreter was given the answers, and the exchanges passed
to the console. Each call has one answer. The console has received the calls other than `trace`,
with these answers; those of `trace` have no value. -/
structure Serves (requests : List ApiCall) (answers : List Value) (passed : List Exchange) :
    Prop where
  each : answers.length = requests.length
  calls : callsOf passed = (requests.zip answers).filter (·.1.name != "trace")
  traced : ∀ served ∈ requests.zip answers, served.1.name = "trace" → served.2 = .null

/-- Lines by themselves serve no call. -/
lemma serves_nil {passed : List Exchange} (h : callsOf passed = []) : Serves [] [] passed where
  each := rfl
  calls := h
  traced := nofun

lemma Serves.append {requests requests' : List ApiCall} {answers answers' : List Value}
    {passed passed' : List Exchange} (h : Serves requests answers passed)
    (h' : Serves requests' answers' passed') :
    Serves (requests ++ requests') (answers ++ answers') (passed ++ passed') where
  each := by rw [List.length_append, List.length_append, h.each, h'.each]
  calls := by
    rw [callsOf_append, h.calls, h'.calls, List.zip_append h.each.symm, List.filter_append]
  traced served hmem := by
    rw [List.zip_append h.each.symm, List.mem_append] at hmem
    exact hmem.elim (h.traced served) (h'.traced served)

namespace Recorder

/-- One call is served. -/
lemma serves_native (console : Console) (color : UInt8) (request : ApiCall) (t : Transcript) :
    let answered := console.native color request t
    ∃ passed, answered.2.exchanges = t.exchanges ++ passed
      ∧ Serves [request] [answered.1] passed ∧ console.Answers t.exchanges passed := by
  intro answered
  by_cases htrace : request.name = "trace"
  · have hanswered : answered = (.null, t.traceCall request color) := if_pos htrace
    rw [hanswered]
    refine ⟨_, t.exchanges_traceCall request color, ⟨rfl, ?_, ?_⟩, Console.answers_trace _ _⟩
    · simp [callsOf, Exchange.call?, htrace]
    · simp
  · have hanswered : answered.1 = (console.reply t.exchanges request).getD .null
        ∧ answered.2.exchanges = t.exchanges ++ [.call request answered.1] := by
      have hanswer : answered = console.answer request t := if_neg htrace
      rw [hanswer, Console.answer]
      cases console.reply t.exchanges request with
      | none => exact ⟨rfl, rfl⟩
      | some value => exact ⟨rfl, rfl⟩
    refine ⟨_, hanswered.2, ⟨rfl, ?_, ?_⟩, ?_⟩
    · simp [callsOf, Exchange.call?, htrace]
    · simp [htrace]
    · rw [hanswered.1]
      exact Console.answers_call request

/-- Of what some reactions print and call, the calls are served, with the answers that the console
has given. -/
lemma serves_receive (console : Console) (color : UInt8) (reactions : List Reaction)
    (t : Transcript) :
    let received := (console.sink color).receive (reactions.filterMap Reaction.gathered?) t
    ∃ passed, received.2.exchanges = t.exchanges ++ passed
      ∧ Serves (reactions.filterMap Reaction.request?) received.1 passed
      ∧ console.Answers t.exchanges passed := by
  induction reactions generalizing t with
  | nil => exact ⟨[], (List.append_nil _).symm, serves_nil rfl, Console.answers_nil⟩
  | cons reaction rest ih =>
      cases reaction with
      | prints text =>
          obtain ⟨passed, hpassed, hserves, hconsole⟩ := ih (t.trace text color)
          refine ⟨[.trace text color] ++ passed, ?_, (serves_nil rfl).append hserves,
            (Console.answers_trace text color).append hconsole⟩
          rw [← List.append_assoc]
          exact hpassed
      | calls request =>
          obtain ⟨first, hfirst, hserved, hanswered⟩ := serves_native console color request t
          obtain ⟨passed, hpassed, hserves, hconsole⟩ := ih (console.native color request t).2
          rw [hfirst] at hpassed hconsole
          rw [List.append_assoc] at hpassed
          exact ⟨first ++ passed, hpassed, hserved.append hserves, hanswered.append hconsole⟩
      | raises reason => exact ih t
      | dies reason => exact ih t

end Recorder

end RCart
