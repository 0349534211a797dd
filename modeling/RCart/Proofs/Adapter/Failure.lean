import RCart.Proofs.Adapter.Moves
import RCart.Proofs.Interpreter.Shown

/-!
How an operation ends, and what it then shows.

* `Adapter.steps`: the steps of an operation, which end in success or in a fault;
* `closingLines`: the line by which the failure of an operation is shown;
* `Adapter.concludes_perform`: after its steps an operation shows the error of a cart, or its
  closing line, and does nothing else;
* `Passed`: calls on the interpreter of which none stops an operation;
* `Failure`: the calls that stop an operation, with the fault that it ends in;
* `EndsBy`: the calls of an operation that ends with a result.
-/

namespace RCart

/-! ### The steps of an operation -/

namespace Adapter

variable {σ : Type} [Interpreter σ]

/-- The steps by which a cart is loaded. -/
def initSteps (console : Console) (code : String) (a : Adapter σ) : Attempt σ :=
  match a.fillEnvironment with
  | none => a.done
  | some b => b.load console code

/-- The steps by which a cart function is called. -/
def callSteps (console : Console) (request : Source.GuardedCall) (a : Adapter σ) : Attempt σ :=
  if a.session.isActive then a.runForgiving console request.source else a.done

/-- The steps of an operation, before it shows how they have ended. -/
def steps (console : Console) : Operation → Adapter σ → Attempt σ
  | .init code, a => a.initSteps console code
  | .close, a => if a.session.attached then a.release console else a.done
  | .tick, a => a.callSteps console Source.Hook.tick.call
  | .boot, a => a.callSteps console Source.Hook.boot.call
  | .menu index data, a =>
    (a.note .trace (hookRecord .menu "index" index data)).callSteps console Source.Hook.menu.call
  | .border row data, a =>
    (a.note .trace (hookRecord .border "row" row data)).callSteps console Source.Hook.border.call
  | .scanline row data, a =>
    (a.note .trace (hookRecord .scanline "row" row data)).callSteps console
      Source.Hook.scanline.call
  | .eval code, a =>
    match a.fillEnvironment with
    | none => a.done
    | some b =>
      if b.mustStart.1 then b.mustStart.2.initSteps console code
      else b.mustStart.2.runForgiving console code
  | .invoke request, a => a.callSteps console request
  | .outline _, a => a.done

end Adapter

/-! ### The end of an operation -/

/-- A line on its way to a console. -/
def TraceLine.exchange (line : TraceLine) : Exchange :=
  .trace line.1 line.2

@[simp] lemma linesOf_map_exchange (lines : List TraceLine) :
    linesOf (lines.map TraceLine.exchange) = lines := by
  rw [linesOf, List.filterMap_map]
  exact List.filterMap_some

/-- The line of a fault that an operation ends with. -/
def Fault.line (color : UInt8) : Fault → TraceLine
  | .fatal reason => (fatalMessage reason, defaultColor)
  | fault => (fault.message, color)

/-- The line by which an operation that has failed is shown. The error of a cart has been shown with
its evaluation. -/
def closingLines (color : UInt8) : Except Fault Unit → List TraceLine
  | .ok () | .error (.eval _) => []
  | .error fault => [fault.line color]

/-- Either way a fault has one line. -/
lemma errorLines_append_closingLines (color : UInt8) (fault : Fault) :
    errorLines color (.error fault) ++ closingLines color (.error fault) = [fault.line color] := by
  cases fault <;> rfl

namespace Adapter

variable {σ α β : Type}

/-- An operation shows how its steps have ended, and does nothing else. It ends the process exactly
when the interpreter cannot go on. -/
structure Concludes (t : Attempt σ) (o : Outcome σ α) : Prop where
  session : o.adapter.session = t.adapter.session
  settings : o.adapter.settings = t.adapter.settings
  exchanges : o.adapter.transcript.exchanges = t.adapter.transcript.exchanges
    ++ (errorLines t.adapter.settings.traceColor t.result
      ++ closingLines t.adapter.settings.traceColor t.result).map TraceLine.exchange
  terminated : o.ending = .terminated ↔ ∃ reason, t.result = .error (.fatal reason)

lemma Concludes.map {t : Attempt σ} {o : Outcome σ α} (h : Concludes t o) (f : α → β) :
    Concludes t (o.map f) where
  session := h.session
  settings := h.settings
  exchanges := h.exchanges
  terminated := Ending.map_eq_terminated_iff.trans h.terminated

/-- An operation without a failure shows nothing more. -/
lemma concludes_done {a : Adapter σ} {o : Outcome σ α} (hsession : o.adapter.session = a.session)
    (hsettings : o.adapter.settings = a.settings)
    (hexchanges : o.adapter.transcript.exchanges = a.transcript.exchanges)
    (hending : o.ending ≠ .terminated) : Concludes a.done o where
  session := hsession
  settings := hsettings
  exchanges := hexchanges.trans (List.append_nil _).symm
  terminated := iff_of_false hending nofun

lemma concludes_conclude (t : Attempt σ) : Concludes t (conclude t) := by
  obtain ⟨result, a⟩ := t
  cases result with
  | ok u => exact concludes_done rfl rfl rfl nofun
  | error fault =>
      refine ⟨session_conclude _, ?_, ?_, ?_⟩
      · cases fault <;> rfl
      · rw [errorLines_append_closingLines]
        cases fault <;> rfl
      · cases fault <;> simp [conclude, showFault, terminate, quiet]

lemma concludes_concludeLoad (code : String) (t : Attempt σ) :
    Concludes t (concludeLoad code t) := by
  obtain ⟨result, a⟩ := t
  cases result with
  | ok u => exact concludes_done rfl rfl rfl nofun
  | error fault =>
      refine ⟨session_concludeLoad _ _, settings_concludeLoad _ _, ?_, ?_⟩
      · rw [errorLines_append_closingLines]
        cases fault <;> rfl
      · cases fault <;> simp [concludeLoad, terminate]

variable [Interpreter σ]

lemma concludes_init (console : Console) (code : String) (a : Adapter σ) :
    Concludes (a.initSteps console code) (a.init console code) := by
  rw [initSteps, init]
  cases a.fillEnvironment with
  | none => exact concludes_done rfl rfl rfl (by rintro ⟨⟩)
  | some b => exact concludes_concludeLoad code _

lemma concludes_call (console : Console) (request : Source.GuardedCall) (a : Adapter σ) :
    Concludes (a.callSteps console request) (a.call console request) := by
  rw [callSteps, call]
  split
  · exact concludes_conclude _
  · exact concludes_done rfl rfl rfl (by rintro ⟨⟩)

/-- Every operation shows how its steps have ended, and does nothing else. -/
lemma concludes_perform (console : Console) (operation : Operation) (a : Adapter σ) :
    Concludes (a.steps console operation) (a.perform console operation) := by
  cases operation with
  | init code => exact (a.concludes_init console code).map _
  | close =>
      refine Concludes.map ?_ _
      rw [steps, close]
      split
      · exact concludes_conclude _
      · exact concludes_done rfl rfl rfl (by rintro ⟨⟩)
  | tick => exact (a.concludes_call console _).map _
  | boot => exact (a.concludes_call console _).map _
  | menu index data => exact (concludes_call console _ (a.note _ _)).map _
  | border row data => exact (concludes_call console _ (a.note _ _)).map _
  | scanline row data => exact (concludes_call console _ (a.note _ _)).map _
  | eval code =>
      refine Concludes.map ?_ _
      rw [steps, eval]
      cases a.fillEnvironment with
      | none => exact concludes_done rfl rfl rfl (by rintro ⟨⟩)
      | some b =>
          simp only
          split
          · exact (b.mustStart.2.concludes_init console code).map _
          · exact concludes_conclude _
  | invoke request => exact (a.concludes_call console request).map _
  | outline code => exact concludes_done rfl rfl rfl (by rintro ⟨⟩)

end Adapter

/-! ### How calls end -/

/-- Calls that belong together and do not stop an operation. The settings are those of the
adapter. -/
inductive Passage (settings : Settings) : List InterpreterCall → Prop
  /-- The interpreter can come back. -/
  | permitted : Passage settings [.canRestart true]
  /-- It is stopped. -/
  | stopped : Passage settings [.stop]
  /-- An evaluation succeeds, or ends in an error of the cart that is forgiven. -/
  | evaluated (code : String) {result : Except Fault Unit} (h : forgive result = .ok ()) :
    Passage settings [.eval code result]
  /-- The interpreter cannot come back and is wiped instead. -/
  | wiped {result : Except Fault Unit} (h : forgive result = .ok ()) :
    Passage settings [.canRestart false, .eval Source.wipe result]
  /-- A start succeeds, after fewer failures than the settings allow attempts. -/
  | cameUp (faults : List Fault)
    (hfewer : faults.length < (max settings.maxStartAttempts 1).toNat) :
    Passage settings (failedStarts settings.argv faults ++ [.start settings.argv (.ok ())])

/-- Calls of which none stops an operation. -/
inductive Passed (settings : Settings) : List InterpreterCall → Prop
  | nothing : Passed settings []
  | cons {first rest : List InterpreterCall} (h : Passage settings first)
    (hrest : Passed settings rest) : Passed settings (first ++ rest)

/-- Whether an evaluation on a recorder can end in a fault. -/
def Fault.endsEvaluation : Fault → Bool
  | .notStarted | .fatal _ | .eval _ => true
  | .start _ _ | .restartUnsupported | .outOfMemory | .logSetup _ => false

/-- The calls that stop an operation, with the fault that it ends in. -/
inductive Failure (settings : Settings) : List InterpreterCall → Fault → Prop
  /-- An evaluation ends in a fault. -/
  | evaluation (code : String) {fault : Fault} (hfault : fault.endsEvaluation = true) :
    Failure settings [.eval code (.error fault)] fault
  /-- So does the wiping of an interpreter that cannot come back. -/
  | wiping {fault : Fault} (hfault : fault.endsEvaluation = true) :
    Failure settings [.canRestart false, .eval Source.wipe (.error fault)] fault
  /-- All attempts of a start fail, the last one for the reason that is given. -/
  | gaveUp (faults : List Fault)
    (hall : faults.length = (max settings.maxStartAttempts 1).toNat) :
    Failure settings (failedStarts settings.argv faults)
      (.start (max settings.maxStartAttempts 1) ((faults.map Fault.message).getLastD ""))
  /-- The interpreter is to be started and cannot come back. -/
  | refused : Failure settings [.canRestart false] .restartUnsupported

/-- The calls that an operation makes on its interpreter, by its result. If it succeeds, no call has
stopped it; else the last ones have. `turnedAway` says that the session has turned code away itself:
then the interpreter was only asked whether it can come back. -/
inductive EndsBy (settings : Settings) (turnedAway : Prop) :
    List InterpreterCall → Except Fault Unit → Prop
  | passed {calls : List InterpreterCall} (h : Passed settings calls) :
    EndsBy settings turnedAway calls (.ok ())
  | failed {before last : List InterpreterCall} {fault : Fault} (hbefore : Passed settings before)
    (h : Failure settings last fault) : EndsBy settings turnedAway (before ++ last) (.error fault)
  | turnedAway (h : turnedAway) :
    EndsBy settings turnedAway [.canRestart false] (.error .notStarted)

variable {settings : Settings} {turnedAway : Prop} {calls : List InterpreterCall}

lemma Passage.passed (h : Passage settings calls) : Passed settings calls := by
  rw [← List.append_nil calls]
  exact .cons h .nothing

lemma Passed.append {first rest : List InterpreterCall} (hfirst : Passed settings first)
    (hrest : Passed settings rest) : Passed settings (first ++ rest) := by
  induction hfirst with
  | nothing => exact hrest
  | cons h _ ih =>
      rw [List.append_assoc]
      exact .cons h ih

/-- Where an error of the cart is forgiven, it does not stop the operation. -/
lemma Failure.passage_of_eval {reason : String} (h : Failure settings calls (.eval reason)) :
    Passage settings calls := by
  cases h with
  | evaluation code hfault => exact .evaluated code rfl
  | wiping hfault => exact .wiped rfl

/-- Nothing is refused but an evaluation, or a restart. -/
lemma Failure.refused_evaluation (h : Failure settings calls .notStarted) :
    ∃ before code, calls = before ++ [.eval code (.error .notStarted)] := by
  cases h with
  | evaluation code hfault => exact ⟨[], code, rfl⟩
  | wiping hfault => exact ⟨[.canRestart false], Source.wipe, rfl⟩

lemma Failure.refused_restart (h : Failure settings calls .restartUnsupported) :
    calls = [.canRestart false] := by
  cases h with
  | evaluation code hfault => cases hfault
  | wiping hfault => cases hfault
  | refused => rfl

namespace EndsBy

variable {result : Except Fault Unit}

/-- Nothing need come before the calls that stop an operation. -/
lemma of_failure {fault : Fault} (h : Failure settings calls fault) :
    EndsBy settings turnedAway calls (.error fault) :=
  .failed .nothing h

lemma passed_of_ok (h : EndsBy settings turnedAway calls (.ok ())) : Passed settings calls := by
  cases h with
  | passed h => exact h

/-- What has passed may come before, unless the session has turned code away. -/
lemma after (h : EndsBy settings False calls result) {first : List InterpreterCall}
    (hfirst : Passed settings first) : EndsBy settings turnedAway (first ++ calls) result := by
  cases h with
  | passed h => exact .passed (hfirst.append h)
  | failed hbefore h =>
      rw [← List.append_assoc]
      exact .failed (hfirst.append hbefore) h
  | turnedAway h => exact h.elim

/-- An error of the cart that is forgiven is no end. -/
lemma forgive (h : EndsBy settings turnedAway calls result) :
    EndsBy settings turnedAway calls (RCart.forgive result) := by
  cases h with
  | passed h => exact .passed h
  | @failed before last fault hbefore h =>
      cases fault with
      | eval reason => exact .passed (hbefore.append h.passage_of_eval.passed)
      | _ => exact .failed hbefore h
  | turnedAway h => exact .turnedAway h

end EndsBy

end RCart
