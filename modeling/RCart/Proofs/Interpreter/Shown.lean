import RCart.Console.Host
import RCart.Interpreter.Recorder
import RCart.Proofs.Interpreter.Watched

/-!
What a recorder shows of a piece of code.

* `Recorder.fired`: the reactions that fire on a piece of code, up to the first that ends the
  evaluation;
* `Reaction.lines`, `Recorder.verdict`: the lines that a reaction shows, and how the evaluation
  ends;
* `Sink.receive`: prints and calls handed to a sink, and its answers;
* `Recorder.run_eval_of_running`: an evaluation ends as the reactions that fire say, and a sink
  receives what these print and call;
* `Recorder.exchanges_receive`: a console is shown their lines, in order;
* `InterpreterCall.lines`: the lines of a call, with the error in which an evaluation has ended.
-/

namespace RCart

/-! ### Lines -/

/-- A line that a console shows, with its palette colour. -/
abbrev TraceLine := String × UInt8

/-- The line that passes to a console, if it is one. -/
def Exchange.line? : Exchange → Option TraceLine
  | .trace text color => some (text, color)
  | .call _ _ => none

/-- The lines among what passes to a console. -/
def linesOf (exchanges : List Exchange) : List TraceLine :=
  exchanges.filterMap Exchange.line?

@[simp] lemma linesOf_append (first rest : List Exchange) :
    linesOf (first ++ rest) = linesOf first ++ linesOf rest :=
  List.filterMap_append

/-- The line of a call of `trace`: its first argument, in the colour of the second if that is a
number from zero to fifteen, else in `color`. -/
def ApiCall.traceLine (color : UInt8) (request : ApiCall) : TraceLine :=
  ((request.args.head?.map Value.display).getD "",
    (request.args[1]?.bind Transcript.colorOf?).getD color)

lemma Transcript.exchanges_traceCall (t : Transcript) (request : ApiCall) (color : UInt8) :
    (t.traceCall request color).exchanges
      = t.exchanges ++ [.trace (request.traceLine color).1 (request.traceLine color).2] := by
  rcases request with ⟨name, _ | ⟨first, rest⟩⟩ <;> rfl

/-! ### Reactions that fire -/

/-- The fault in which a reaction ends an evaluation, if it does. -/
def Reaction.fault? : Reaction → Option Fault
  | .raises reason => some (.eval reason)
  | .dies reason => some (.fatal reason)
  | .prints _ | .calls _ => none

/-- The lines that a reaction shows. -/
def Reaction.lines (color : UInt8) : Reaction → List TraceLine
  | .prints text => [(text, color)]
  | .calls request => if request.name = "trace" then [request.traceLine color] else []
  | .raises _ | .dies _ => []

namespace Recorder

/-- The reactions whose pattern is in a piece of code, in order, up to the first that ends the
evaluation. -/
def fired (code : String) (reactions : List (String × Reaction)) : List Reaction :=
  let matching := (reactions.filter fun e => contains code e.1).map (·.2)
  matching.takeWhile (·.fault?.isNone) ++ (matching.dropWhile (·.fault?.isNone)).take 1

/-- How an evaluation ends in which the given reactions fire. -/
def verdict (reactions : List Reaction) : Except Fault Unit :=
  match reactions.findSome? Reaction.fault? with
  | some fault => .error fault
  | none => .ok ()

/-- The lines that the reactions to a piece of code show. -/
def output (color : UInt8) (reactions : List (String × Reaction)) (code : String) :
    List TraceLine :=
  (fired code reactions).flatMap (Reaction.lines color)

/-- A reaction whose pattern is not in the code does not fire. -/
lemma fired_cons_of_not_contains {code pattern : String} (h : contains code pattern = false)
    (reaction : Reaction) (rest : List (String × Reaction)) :
    fired code ((pattern, reaction) :: rest) = fired code rest := by
  rw [fired, List.filter_cons_of_neg (by simp [h]), fired]

/-- After a reaction that does not end the evaluation, the others go on. -/
lemma fired_cons_of_going {code pattern : String} (h : contains code pattern = true)
    {reaction : Reaction} (hgoing : reaction.fault? = none) (rest : List (String × Reaction)) :
    fired code ((pattern, reaction) :: rest) = reaction :: fired code rest := by
  rw [fired, List.filter_cons_of_pos (by exact h)]
  simp [hgoing, fired]

/-- After a reaction that ends the evaluation, no other fires. -/
lemma fired_cons_of_end {code pattern : String} (h : contains code pattern = true)
    {reaction : Reaction} {fault : Fault} (hend : reaction.fault? = some fault)
    (rest : List (String × Reaction)) : fired code ((pattern, reaction) :: rest) = [reaction] := by
  rw [fired, List.filter_cons_of_pos (by exact h)]
  simp [hend]

lemma verdict_cons_of_going {reaction : Reaction} (h : reaction.fault? = none)
    (rest : List Reaction) : verdict (reaction :: rest) = verdict rest := by
  rw [verdict, List.findSome?_cons, h, verdict]

lemma verdict_of_end {reaction : Reaction} {fault : Fault} (h : reaction.fault? = some fault) :
    verdict [reaction] = .error fault := by
  rw [verdict, List.findSome?_cons, h]

/-- The reactions that fire end an evaluation with success or in an error or death, never by
refusing it. -/
lemma verdict_cases (reactions : List Reaction) :
    verdict reactions = .ok () ∨ (∃ reason, verdict reactions = .error (.eval reason))
      ∨ ∃ reason, .dies reason ∈ reactions ∧ verdict reactions = .error (.fatal reason) := by
  rw [verdict]
  cases hfault : reactions.findSome? Reaction.fault? with
  | none => exact .inl rfl
  | some fault =>
      obtain ⟨reaction, hmem, hreaction⟩ := List.exists_of_findSome?_eq_some hfault
      cases reaction with
      | prints text => cases hreaction
      | calls request => cases hreaction
      | raises reason =>
          obtain rfl := Option.some.inj hreaction
          exact .inr (.inl ⟨reason, rfl⟩)
      | dies reason =>
          obtain rfl := Option.some.inj hreaction
          exact .inr (.inr ⟨reason, hmem, rfl⟩)

lemma verdict_ne_notStarted (reactions : List Reaction) :
    verdict reactions ≠ .error .notStarted := by
  obtain h | ⟨reason, h⟩ | ⟨reason, -, h⟩ := verdict_cases reactions
  all_goals
    rw [h]
    nofun

end Recorder

/-! ### Carrying out -/

/-- What a sink receives of a reaction, if anything. -/
def Reaction.gathered? : Reaction → Option Gathered
  | .prints text => some (.output text)
  | .calls request => some (.call request)
  | .raises _ | .dies _ => none

/-- Hands prints and calls to a sink, in order: its answers to the calls, and the state in which
that leaves it. -/
def Sink.receive {ω : Type} (sink : Sink ω) : List Gathered → ω → List Value × ω
  | [], w => ([], w)
  | .output text :: rest, w => sink.receive rest (sink.print text w)
  | .call request :: rest, w =>
    let (answer, w) := sink.call request w
    let (answers, w) := sink.receive rest w
    (answer :: answers, w)

namespace Recorder

/-- A recorder that is given answers. -/
def answered (r : Recorder) (answers : List Value) : Recorder :=
  { r with answers := r.answers ++ answers }

lemma answered_nil (r : Recorder) : r.answered [] = r := by
  rw [answered, List.append_nil]

lemma answered_answered (r : Recorder) (first rest : List Value) :
    (r.answered first).answered rest = r.answered (first ++ rest) := by
  rw [answered, answered, answered, List.append_assoc]

/-- Whatever receives them, the reactions to a piece of code end as those that fire say; the sink
receives what these print and call, and the recorder is given its answers. -/
lemma run_react_eq {ω : Type} (sink : Sink ω) (code : String)
    (reactions : List (String × Reaction)) (r : Recorder) (w : ω) :
    let received := sink.receive ((fired code reactions).filterMap Reaction.gathered?) w
    (react code reactions r).run sink w
      = (verdict (fired code reactions), r.answered received.1, received.2) := by
  have hend (result : Except Fault Unit) (r : Recorder) (w : ω) :
      (result, r, w) = (result, r.answered [], w) := by rw [answered_nil]
  induction reactions generalizing r w with
  | nil => exact hend _ r w
  | cons e rest ih =>
      obtain ⟨pattern, reaction⟩ := e
      cases hmatch : contains code pattern with
      | false =>
          rw [fired_cons_of_not_contains hmatch]
          simp only [react, hmatch, Bool.false_eq_true, if_false]
          exact ih r w
      | true =>
          cases reaction with
          | prints text =>
              rw [react, if_pos hmatch, fired_cons_of_going hmatch rfl, verdict_cons_of_going rfl]
              exact ih r (sink.print text w)
          | calls request =>
              rw [react, if_pos hmatch, fired_cons_of_going hmatch rfl, verdict_cons_of_going rfl]
              refine (ih (r.answered [(sink.call request w).1]) (sink.call request w).2).trans ?_
              rw [answered_answered]
              rfl
          | raises reason =>
              rw [react, if_pos hmatch, fired_cons_of_end hmatch rfl, verdict_of_end rfl]
              exact hend _ r w
          | dies reason =>
              rw [react, if_pos hmatch, fired_cons_of_end hmatch rfl, verdict_of_end rfl]
              exact hend _ r w

/-- What the console receives of one call: the line of a call of `trace`, or the call itself. -/
lemma exchanges_native (console : Console) (color : UInt8) (request : ApiCall) (t : Transcript) :
    ∃ passed, (console.native color request t).2.exchanges = t.exchanges ++ passed
      ∧ linesOf passed = (Reaction.calls request).lines color := by
  rw [Console.native, Reaction.lines]
  split
  · exact ⟨_, t.exchanges_traceCall request color, rfl⟩
  · rw [Console.answer]
    cases console.reply t.exchanges request with
    | none => exact ⟨[.call request .null], rfl, rfl⟩
    | some value => exact ⟨[.call request value], rfl, rfl⟩

/-- Of what some reactions print and call, the console is shown their lines, in order. -/
lemma exchanges_receive (console : Console) (color : UInt8) (reactions : List Reaction)
    (t : Transcript) :
    ∃ passed, ((console.sink color).receive (reactions.filterMap Reaction.gathered?) t).2.exchanges
        = t.exchanges ++ passed
      ∧ linesOf passed = reactions.flatMap (Reaction.lines color) := by
  induction reactions generalizing t with
  | nil => exact ⟨[], (List.append_nil _).symm, rfl⟩
  | cons reaction rest ih =>
      cases reaction with
      | prints text =>
          obtain ⟨passed, hpassed, hlines⟩ := ih (t.trace text color)
          exact ⟨.trace text color :: passed, hpassed.trans (List.append_assoc _ _ _),
            congrArg _ hlines⟩
      | calls request =>
          obtain ⟨first, hfirst, hline⟩ := exchanges_native console color request t
          obtain ⟨passed, hpassed, hlines⟩ := ih (console.native color request t).2
          refine ⟨first ++ passed, ?_, ?_⟩
          · rw [← List.append_assoc, ← hfirst]
            exact hpassed
          · rw [linesOf_append, hline, hlines, List.flatMap_cons]
      | raises reason => exact ih t
      | dies reason => exact ih t

/-- A recorder that is running remembers the code and then reacts. -/
lemma eval_of_running {r : Recorder} (h : r.running = true) (code : String) :
    Interpreter.eval code r = .note ⟨.debug, "recording eval: " ++ code⟩
      (react code r.reactions { r with evaluated := r.evaluated ++ [code] }) :=
  if_pos h

/-- One that is not running refuses. -/
lemma eval_of_not_running {r : Recorder} (h : r.running = false) (code : String) :
    Interpreter.eval code r = .finish (.error .notStarted) r :=
  if_neg (ne_true_of_eq_false h)

/-- Whatever receives it, an evaluation on a recorder that is running ends as the reactions that
fire say: the code is remembered, the sink receives the log record and then what these print and
call, and the recorder is given its answers. -/
lemma run_eval_of_running {ω : Type} (sink : Sink ω) {r : Recorder} (h : r.running = true)
    (code : String) (w : ω) :
    let received := sink.receive ((fired code r.reactions).filterMap Reaction.gathered?)
      (sink.note ⟨.debug, "recording eval: " ++ code⟩ w)
    (Interpreter.eval code r).run sink w
      = (verdict (fired code r.reactions), { r with
          evaluated := r.evaluated ++ [code], answers := r.answers ++ received.1 },
        received.2) := by
  rw [eval_of_running h]
  exact run_react_eq sink code r.reactions { r with evaluated := r.evaluated ++ [code] } _

end Recorder

/-! ### Calls -/

/-- The line of an error in which an evaluation has ended. -/
def errorLines (color : UInt8) : Except Fault Unit → List TraceLine
  | .error (.eval reason) => [(reason, color)]
  | _ => []

/-- The lines of a call on a recorder with the given reactions: of an evaluation that was not
refused, what the reactions show, and then the error that it has ended in, if any. -/
def InterpreterCall.lines (color : UInt8) (reactions : List (String × Reaction)) :
    InterpreterCall → List TraceLine
  | .eval _ (.error .notStarted) | .start _ _ | .stop | .canRestart _ => []
  | .eval code result => Recorder.output color reactions code ++ errorLines color result

end RCart
