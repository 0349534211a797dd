import RCart.Proofs.Session.Action

/-!
The calls that a session makes on its interpreter.

* `failedStarts`: the calls of start attempts that fail;
* `Session.startAttempts_cases`: the attempts of a start end with the first that succeeds, or all
  fail;
* `Session.start_cases`: what a start does in each state of the interpreter, with its calls;
* `Session.stop_of_running`, `eval_of_running`, `calls_canRestart`: the calls of the other
  operations.
-/

namespace RCart

/-- The calls of start attempts that end in the given faults. -/
def failedStarts (argv : List String) (faults : List Fault) : List InterpreterCall :=
  faults.map fun fault => .start argv (.error fault)

namespace Session

variable {σ : Type}

/-- The calls that the interpreter of a session has received. -/
def calls (s : Session (Watched σ)) : List InterpreterCall :=
  s.interpreter.calls

/-- A new session over an interpreter under watch. -/
def watching (interpreter : σ) : Session (Watched σ) :=
  { interpreter := { inner := interpreter } }

/-! ### What asking and evaluating leave -/

section Any

variable [Interpreter σ]

@[simp] lemma runtime_canRestart (s : Session σ) : s.canRestart.2.runtime = s.runtime := rfl

lemma runtime_eval {ω : Type} (code : String) (s : Session σ) (sink : Sink ω) (w : ω) :
    ((s.eval code).run sink w).2.1.runtime = s.runtime := by
  by_cases h : s.runtime = .running
  · simp only [eval, h, if_true, Evaluation.run_map]
  · simp only [eval, h, if_false]
    rfl

lemma attached_eval {ω : Type} (code : String) (s : Session σ) (sink : Sink ω) (w : ω) :
    ((s.eval code).run sink w).2.1.attached = s.attached := by
  by_cases h : s.runtime = .running
  · simp only [eval, h, if_true, Evaluation.run_map]
  · simp only [eval, h, if_false]
    rfl

/-- A stop lets go of the session, whether the interpreter is up or not. -/
lemma attached_stop (s : Session σ) : s.stop.1.attached = false := by
  rw [stop]
  split <;> rfl

/-- An evaluation reaches the interpreter only if it is up. -/
lemma eval_of_not_running {ω : Type} {s : Session σ} (h : s.runtime ≠ .running)
    (code : String) (sink : Sink ω) (w : ω) :
    (s.eval code).run sink w = (.error .notStarted, s, w) := by
  simp only [eval, h, if_false]
  rfl

end Any

variable [Interpreter σ]

@[simp] lemma calls_canRestart (s : Session (Watched σ)) :
    s.canRestart.2.calls = s.calls ++ [.canRestart s.canRestart.1] := rfl

/-! ### Starting -/

/-- One of at most `limit` attempts has succeeded, after others that ended in `faults`. -/
structure CameUp (argv : List String) (limit : ℕ) (before : List InterpreterCall)
    (faults : List Fault) (t : Started (Watched σ)) : Prop where
  result : t.result = .ok true
  fewer : faults.length < limit
  runtime : t.session.runtime = .running
  attached : t.session.attached = true
  calls : t.session.calls = before ++ failedStarts argv faults ++ [.start argv (.ok ())]

/-- All of `limit` attempts have ended in `faults`, and the reason that is given is that of the
last. -/
structure GaveUp (argv : List String) (attempts : UInt32) (limit : ℕ) (reason : String)
    (before : List InterpreterCall) (faults : List Fault) (s : Session (Watched σ))
    (t : Started (Watched σ)) : Prop where
  result : t.result = .error (.start attempts ((faults.map Fault.message).getLastD reason))
  all : faults.length = limit
  runtime : t.session.runtime = s.runtime
  attached : t.session.attached = s.attached
  calls : t.session.calls = before ++ failedStarts argv faults

/-- The attempts of a start end with the first that succeeds, or all fail. -/
lemma startAttempts_cases (argv : List String) (attempts : UInt32) (left : ℕ) (reason : String)
    (s : Session (Watched σ)) :
    ∃ faults, CameUp argv left s.calls faults (startAttempts argv attempts left reason s)
      ∨ GaveUp argv attempts left reason s.calls faults s
          (startAttempts argv attempts left reason s) := by
  induction left generalizing reason s with
  | zero => exact ⟨[], .inr ⟨rfl, rfl, rfl, rfl, (List.append_nil _).symm⟩⟩
  | succ left ih =>
      have hcalls := Watched.calls_start argv s.interpreter
      simp only [startAttempts]
      rcases hstart : Interpreter.start argv s.interpreter with ⟨fault | _, interpreter⟩
      · rw [hstart] at hcalls
        obtain ⟨faults, h⟩ := ih fault.message { s with interpreter }
        -- the calls of the attempts that were left follow the one that has just failed
        have happend : calls { s with interpreter } ++ failedStarts argv faults
            = s.calls ++ failedStarts argv (fault :: faults) := by
          change interpreter.calls ++ _ = _
          rw [hcalls, List.append_assoc]
          rfl
        refine ⟨fault :: faults, h.imp (fun h => ?_) (fun h => ?_)⟩
        · exact ⟨h.result, by simpa using h.fewer, h.runtime, h.attached, by
            rw [h.calls, happend]⟩
        · exact ⟨by rw [h.result, List.map_cons, List.getLastD_cons], by simpa using h.all,
            h.runtime, h.attached, by rw [h.calls, happend]⟩
      · rw [hstart] at hcalls
        exact ⟨[], .inl ⟨rfl, Nat.succ_pos left, rfl, rfl, by
          simpa [calls, failedStarts] using hcalls⟩⟩

/-- What is asked, and answered with yes, before the attempts of a start. -/
def permission : Runtime → List InterpreterCall
  | .notStarted | .running => []
  | .shutDown => [.canRestart true]

/-- What a start does. -/
inductive StartCases (argv : List String) (maxAttempts : UInt32) (s : Session (Watched σ))
    (t : Started (Watched σ)) : Prop where
  /-- The interpreter is up already. -/
  | held (hruntime : s.runtime = .running) (ht : t = ⟨.ok false, { s with attached := true }, []⟩)
  /-- It was shut down and cannot come back. -/
  | refused (hruntime : s.runtime = .shutDown) (hno : s.canRestart.1 = false)
      (ht : t = ⟨.error .restartUnsupported, s.canRestart.2, []⟩)
  /-- An attempt succeeds. -/
  | cameUp (hruntime : s.runtime ≠ .running) (faults : List Fault)
      (h : CameUp argv (max maxAttempts 1).toNat (s.calls ++ permission s.runtime) faults t)
  /-- All attempts fail. -/
  | gaveUp (hruntime : s.runtime ≠ .running) (faults : List Fault)
      (h : GaveUp argv (max maxAttempts 1) (max maxAttempts 1).toNat ""
        (s.calls ++ permission s.runtime) faults s t)

/-- A start that comes to its attempts does what they do. -/
lemma startCases_of_attempts {argv : List String} {maxAttempts : UInt32}
    {s asked : Session (Watched σ)} (hdown : s.runtime ≠ .running)
    (hstart : s.start argv maxAttempts
      = startAttempts argv (max maxAttempts 1) (max maxAttempts 1).toNat "" asked)
    (hruntime : asked.runtime = s.runtime) (hattached : asked.attached = s.attached)
    (hcalls : asked.calls = s.calls ++ permission s.runtime) :
    StartCases argv maxAttempts s (s.start argv maxAttempts) := by
  rw [hstart]
  obtain ⟨faults, h | h⟩ :=
    startAttempts_cases argv (max maxAttempts 1) (max maxAttempts 1).toNat "" asked
  · exact .cameUp hdown faults
      ⟨h.result, h.fewer, h.runtime, h.attached, by rw [h.calls, hcalls]⟩
  · exact .gaveUp hdown faults
      ⟨h.result, h.all, h.runtime.trans hruntime, h.attached.trans hattached,
        by rw [h.calls, hcalls]⟩

lemma start_cases (argv : List String) (maxAttempts : UInt32) (s : Session (Watched σ)) :
    StartCases argv maxAttempts s (s.start argv maxAttempts) := by
  cases hruntime : s.runtime with
  | running => exact .held hruntime (by simp only [start, hruntime])
  | notStarted =>
      have hdown : s.runtime ≠ .running := by rw [hruntime]; decide
      have hstart : s.start argv maxAttempts
          = startAttempts argv (max maxAttempts 1) (max maxAttempts 1).toNat "" s := by
        simp only [start, hruntime]
      refine startCases_of_attempts hdown hstart rfl rfl ?_
      rw [hruntime, permission, List.append_nil]
  | shutDown =>
      have hdown : s.runtime ≠ .running := by rw [hruntime]; decide
      cases hask : s.canRestart.1 with
      | false => exact .refused hruntime hask (by simp [start, hruntime, hask])
      | true =>
          have hstart : s.start argv maxAttempts = startAttempts argv (max maxAttempts 1)
              (max maxAttempts 1).toNat "" s.canRestart.2 := by
            simp only [start, hruntime, hask, if_true]
          refine startCases_of_attempts hdown hstart rfl rfl ?_
          rw [calls_canRestart, hask, hruntime, permission]

/-! ### The other operations -/

/-- A stop reaches the interpreter only if it is up. -/
lemma stop_of_running {s : Session (Watched σ)} (h : s.runtime = .running) :
    s.stop.1.runtime = .shutDown ∧ s.stop.1.attached = false
      ∧ s.stop.1.calls = s.calls ++ [.stop] := by
  simp only [stop, h, if_true]
  exact ⟨trivial, trivial, Watched.calls_stop s.interpreter⟩

lemma stop_of_not_running {s : Session (Watched σ)} (h : s.runtime ≠ .running) :
    s.stop.1 = { s with attached := false } := by
  simp only [stop, h, if_false]

lemma eval_of_running {ω : Type} {s : Session (Watched σ)} (h : s.runtime = .running)
    (code : String) (sink : Sink ω) (w : ω) :
    ((s.eval code).run sink w).2.1.calls
        = s.calls ++ [.eval code ((s.eval code).run sink w).1] := by
  simp only [eval, h, if_true, Evaluation.run_map]
  exact Watched.calls_eval sink code s.interpreter w

end Session

end RCart
