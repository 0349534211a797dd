import Mathlib.Data.List.Induction
import RCart.Proofs.Session.Calls

/-!
The contract between a session and its interpreter.

* `IsUp`: after some calls the interpreter is up, a start having succeeded with no stop since;
* `Session.KeepsContract`: what the contract asks of the calls of a session, and of its states;
* `Session.InStep`: the invariant: the state of the interpreter that the session keeps is what the
  calls say;
* **`Session.keepsContract_actAll`**: whatever is done with a new session, the contract is kept.
-/

namespace RCart

/-! ### Up and down -/

/-- A start has succeeded, and no stop has come since. -/
def IsUp (calls : List InterpreterCall) : Prop :=
  ∃ argv before after, calls = before ++ .start argv (.ok ()) :: after ∧ .stop ∉ after

/-- How far an interpreter has come after one more call. -/
def Runtime.afterCall (r : Runtime) : InterpreterCall → Runtime
  | .start _ (.ok ()) => .running
  | .start _ (.error _) | .canRestart _ | .eval _ _ => r
  | .stop => .shutDown

/-- How far an interpreter has come after some calls. -/
def Runtime.ofCalls (calls : List InterpreterCall) : Runtime :=
  calls.foldl Runtime.afterCall .notStarted

@[simp] lemma Runtime.ofCalls_concat (calls : List InterpreterCall) (call : InterpreterCall) :
    Runtime.ofCalls (calls ++ [call]) = (Runtime.ofCalls calls).afterCall call := by
  rw [ofCalls, List.foldl_append]
  rfl

lemma not_isUp_nil : ¬ IsUp [] := by
  rintro ⟨argv, before, after, h, -⟩
  simp at h

lemma isUp_concat_start (calls : List InterpreterCall) (argv : List String) :
    IsUp (calls ++ [.start argv (.ok ())]) :=
  ⟨argv, calls, [], rfl, by simp⟩

lemma not_isUp_concat_stop (calls : List InterpreterCall) : ¬ IsUp (calls ++ [.stop]) := by
  rintro ⟨argv, before, after, h, hstop⟩
  rcases List.eq_nil_or_concat after with rfl | ⟨after, call, rfl⟩
  · simpa using (List.append_inj' h rfl).2
  · rw [List.concat_eq_append] at h hstop
    rw [← List.cons_append, ← List.append_assoc] at h
    have hcall := (List.append_inj' h rfl).2
    simp only [List.cons.injEq, and_true] at hcall
    simp [← hcall] at hstop

/-- A call that is neither a start that succeeds nor a stop does not change whether the interpreter
is up. -/
lemma isUp_concat_of_idle (calls : List InterpreterCall) {call : InterpreterCall}
    (hstart : ∀ argv, call ≠ .start argv (.ok ())) (hstop : call ≠ .stop) :
    IsUp (calls ++ [call]) ↔ IsUp calls := by
  constructor
  · rintro ⟨argv, before, after, h, hafter⟩
    rcases List.eq_nil_or_concat after with rfl | ⟨after, last, rfl⟩
    · have hcall := (List.append_inj' h rfl).2
      simp only [List.cons.injEq, and_true] at hcall
      exact absurd hcall (hstart argv)
    · rw [List.concat_eq_append] at h hafter
      rw [← List.cons_append, ← List.append_assoc] at h
      exact ⟨argv, before, after, (List.append_inj' h rfl).1, fun hmem =>
        hafter (List.mem_append_left _ hmem)⟩
  · rintro ⟨argv, before, after, rfl, hafter⟩
    refine ⟨argv, before, after ++ [call], by simp, ?_⟩
    simp only [List.mem_append, List.mem_singleton, not_or]
    exact ⟨hafter, hstop.symm⟩

/-- The interpreter is up exactly when the calls have brought it to run. -/
lemma isUp_iff (calls : List InterpreterCall) :
    IsUp calls ↔ Runtime.ofCalls calls = .running := by
  induction calls using List.reverseRecOn with
  | nil => exact iff_of_false not_isUp_nil (by decide)
  | append_singleton calls call ih =>
      rw [Runtime.ofCalls_concat]
      cases call with
      | start argv result =>
          cases result with
          | ok u => exact iff_of_true (isUp_concat_start calls argv) rfl
          | error fault => rw [isUp_concat_of_idle calls (by simp) (by simp), ih]; rfl
      | stop => exact iff_of_false (not_isUp_concat_stop calls) (by simp [Runtime.afterCall])
      | canRestart answer => rw [isUp_concat_of_idle calls (by simp) (by simp), ih]; rfl
      | eval code result => rw [isUp_concat_of_idle calls (by simp) (by simp), ih]; rfl

/-- An interpreter that was never started was never stopped. -/
lemma stop_notMem_of_notStarted {calls : List InterpreterCall}
    (h : Runtime.ofCalls calls = .notStarted) : .stop ∉ calls := by
  induction calls using List.reverseRecOn with
  | nil => simp
  | append_singleton calls call ih =>
      rw [Runtime.ofCalls_concat] at h
      rw [List.mem_append, List.mem_singleton, not_or]
      cases call with
      | start argv result =>
          cases result with
          | ok u => simp [Runtime.afterCall] at h
          | error fault => exact ⟨ih h, by simp⟩
      | stop => simp [Runtime.afterCall] at h
      | canRestart answer => exact ⟨ih h, by simp⟩
      | eval code result => exact ⟨ih h, by simp⟩

/-- After a stop the interpreter is up only if it was started again. -/
lemma start_mem_of_isUp {before between : List InterpreterCall}
    (h : IsUp (before ++ .stop :: between)) : ∃ argv, .start argv (.ok ()) ∈ between := by
  induction between using List.reverseRecOn with
  | nil => exact absurd h (not_isUp_concat_stop before)
  | append_singleton between call ih =>
      rw [← List.cons_append, ← List.append_assoc] at h
      by_cases hstart : ∃ argv, call = .start argv (.ok ())
      · obtain ⟨argv, rfl⟩ := hstart
        exact ⟨argv, by simp⟩
      · by_cases hstop : call = .stop
        · exact absurd (hstop ▸ h) (not_isUp_concat_stop _)
        · rw [isUp_concat_of_idle _ (not_exists.mp hstart) hstop] at h
          obtain ⟨argv, hargv⟩ := ih h
          exact ⟨argv, List.mem_append_left _ hargv⟩

/-! ### Calls that are in place -/

/-- Whether a call may follow some calls: what is up is not started, and only what is up is stopped
or evaluates code. -/
def MayFollow (before : List InterpreterCall) : InterpreterCall → Prop
  | .start _ _ => ¬ IsUp before
  | .stop => IsUp before
  | .canRestart _ => True
  | .eval _ _ => IsUp before

/-- Each call may follow those before it. -/
def InPlace (calls : List InterpreterCall) : Prop :=
  ∀ before call, before ++ [call] <+: calls → MayFollow before call

lemma inPlace_nil : InPlace [] := by
  intro before call h
  simp at h

lemma inPlace_concat {calls : List InterpreterCall} {call : InterpreterCall} (h : InPlace calls)
    (hcall : MayFollow calls call) : InPlace (calls ++ [call]) := by
  intro before last hprefix
  rcases List.prefix_concat_iff.mp hprefix with heq | hprefix
  · obtain ⟨rfl, hlast⟩ := List.append_inj' heq rfl
    rw [List.cons.injEq] at hlast
    exact hlast.1 ▸ hcall
  · exact h before last hprefix

/-- Start attempts that fail are in place while the interpreter is down, and leave it down. -/
lemma inPlace_failedStarts {calls : List InterpreterCall} (h : InPlace calls) (hdown : ¬ IsUp calls)
    (argv : List String) (faults : List Fault) :
    InPlace (calls ++ failedStarts argv faults)
      ∧ Runtime.ofCalls (calls ++ failedStarts argv faults) = Runtime.ofCalls calls := by
  induction faults using List.reverseRecOn with
  | nil => simpa [failedStarts] using h
  | append_singleton faults fault ih =>
      have hconcat : calls ++ failedStarts argv (faults ++ [fault])
          = calls ++ failedStarts argv faults ++ [.start argv (.error fault)] := by
        simp [failedStarts]
      rw [hconcat, Runtime.ofCalls_concat]
      refine ⟨inPlace_concat ih.1 ?_, ih.2⟩
      rwa [MayFollow, isUp_iff, ih.2, ← isUp_iff]

/-! ### The invariant -/

namespace Session

variable {σ : Type}

/-- The state of the interpreter that the session keeps is what the calls say, only a session whose
interpreter is up is attached, and the calls are in place. -/
structure InStep (s : Session (Watched σ)) : Prop where
  runtime : s.runtime = Runtime.ofCalls s.calls
  attached : s.attached = true → s.runtime = .running
  inPlace : InPlace s.calls

lemma inStep_watching (interpreter : σ) : (watching interpreter).InStep :=
  ⟨rfl, (absurd · Bool.false_ne_true), inPlace_nil⟩

lemma InStep.isUp_iff {s : Session (Watched σ)} (h : s.InStep) :
    IsUp s.calls ↔ s.runtime = .running := by
  rw [RCart.isUp_iff, h.runtime]

/-- The calls before the attempts of a start are in place, and the interpreter is as far as
before. -/
lemma InStep.permission {s : Session (Watched σ)} (h : s.InStep) :
    InPlace (s.calls ++ permission s.runtime)
      ∧ Runtime.ofCalls (s.calls ++ permission s.runtime) = s.runtime := by
  cases hruntime : s.runtime with
  | shutDown =>
      rw [Session.permission, Runtime.ofCalls_concat, ← h.runtime]
      exact ⟨inPlace_concat h.inPlace trivial, hruntime⟩
  | _ =>
      rw [Session.permission, List.append_nil, ← h.runtime]
      exact ⟨h.inPlace, hruntime⟩

variable [Interpreter σ]

lemma InStep.canRestart {s : Session (Watched σ)} (h : s.InStep) : s.canRestart.2.InStep where
  runtime := by rw [runtime_canRestart, h.runtime, calls_canRestart, Runtime.ofCalls_concat]; rfl
  attached := h.attached
  inPlace := inPlace_concat h.inPlace trivial

lemma InStep.start {s : Session (Watched σ)} (h : s.InStep) (argv : List String)
    (maxAttempts : UInt32) : (s.start argv maxAttempts).session.InStep := by
  have hdown : s.runtime ≠ .running → ¬ IsUp (s.calls ++ Session.permission s.runtime) := by
    rw [RCart.isUp_iff, h.permission.2]
    exact id
  cases start_cases argv maxAttempts s with
  | held hruntime ht => rw [ht]; exact ⟨h.runtime, fun _ => hruntime, h.inPlace⟩
  | refused hruntime hno ht => rw [ht]; exact h.canRestart
  | cameUp hruntime faults hup =>
      obtain ⟨hplace, hcalls⟩ := inPlace_failedStarts h.permission.1 (hdown hruntime) argv faults
      refine ⟨?_, fun _ => hup.runtime, ?_⟩
      · rw [hup.runtime, hup.calls, Runtime.ofCalls_concat]
        rfl
      · rw [hup.calls]
        refine inPlace_concat hplace ?_
        rwa [MayFollow, RCart.isUp_iff, hcalls, h.permission.2]
  | gaveUp hruntime faults hdead =>
      obtain ⟨hplace, hcalls⟩ := inPlace_failedStarts h.permission.1 (hdown hruntime) argv faults
      refine ⟨?_, ?_, ?_⟩
      · rw [hdead.runtime, hdead.calls, hcalls, h.permission.2]
      · rw [hdead.attached, hdead.runtime]
        exact h.attached
      · rw [hdead.calls]
        exact hplace

lemma InStep.stop {s : Session (Watched σ)} (h : s.InStep) : s.stop.1.InStep := by
  by_cases hruntime : s.runtime = .running
  · obtain ⟨hshut, hfree, hcalls⟩ := stop_of_running hruntime
    refine ⟨?_, ?_, ?_⟩
    · rw [hshut, hcalls, Runtime.ofCalls_concat]
      rfl
    · rw [hfree]
      exact (absurd · Bool.false_ne_true)
    · rw [hcalls]
      exact inPlace_concat h.inPlace (h.isUp_iff.mpr hruntime)
  · rw [stop_of_not_running hruntime]
    exact ⟨h.runtime, (absurd · Bool.false_ne_true), h.inPlace⟩

lemma InStep.eval {ω : Type} {s : Session (Watched σ)} (h : s.InStep) (code : String)
    (sink : Sink ω) (w : ω) : ((s.eval code).run sink w).2.1.InStep := by
  by_cases hruntime : s.runtime = .running
  · have hcalls := eval_of_running hruntime code sink w
    refine ⟨?_, ?_, ?_⟩
    · rw [runtime_eval, hcalls, Runtime.ofCalls_concat, h.runtime]
      rfl
    · rw [attached_eval, runtime_eval]
      exact h.attached
    · rw [hcalls]
      exact inPlace_concat h.inPlace (h.isUp_iff.mpr hruntime)
  · rw [eval_of_not_running hruntime]
    exact h

/-- Every action keeps the session in step. -/
lemma InStep.act {s : Session (Watched σ)} (h : s.InStep) (action : Action) :
    (s.act action).InStep := by
  cases action with
  | start argv maxAttempts => exact h.start argv maxAttempts
  | stop => exact h.stop
  | attach => exact ⟨h.runtime, fun ha => by simpa [Session.act, attach] using ha, h.inPlace⟩
  | detach => exact ⟨h.runtime, (absurd · Bool.false_ne_true), h.inPlace⟩
  | eval code sink received => exact h.eval code sink received
  | askRestart => exact h.canRestart

lemma InStep.actAll {s : Session (Watched σ)} (h : s.InStep) (actions : List Action) :
    (s.actAll actions).InStep := by
  induction actions generalizing s with
  | nil => exact h
  | cons action actions ih => exact ih (h.act action)

/-! ### What the contract asks -/

/-- What the contract asks of a session: of the calls that its interpreter has received, of the
calls that any next action makes, and of the states that the session goes through. -/
structure KeepsContract (s : Session (Watched σ)) : Prop where
  /-- Code is evaluated only after a start that succeeded, with no stop since. -/
  eval_up : ∀ before code result, before ++ [.eval code result] <+: s.calls → IsUp before
  /-- What is up is not started. -/
  start_down : ∀ before argv result, before ++ [.start argv result] <+: s.calls → ¬ IsUp before
  /-- Only what is up is stopped. -/
  stop_up : ∀ before, before ++ [.stop] <+: s.calls → IsUp before
  /-- Between two stops a start succeeds. -/
  stop_once : ∀ before between, before ++ .stop :: between ++ [.stop] <+: s.calls →
    ∃ argv, .start argv (.ok ()) ∈ between
  /-- What was stopped is started again only by a start in which it has agreed to come back. -/
  restart_agreed : ∀ action before argv result,
    s.calls ++ before ++ [.start argv result] <+: (s.act action).calls → .stop ∈ s.calls ++ before →
      (∃ maxAttempts, action = .start argv maxAttempts) ∧ .canRestart true ∈ before
  /-- Only a session whose interpreter is up is attached. -/
  running_of_attached : s.attached = true → s.runtime = .running
  /-- An interpreter that was started has been started from then on. -/
  stays_started : ∀ action, s.runtime ≠ .notStarted → (s.act action).runtime ≠ .notStarted
  /-- An interpreter that was shut down stays so until a restart succeeds. -/
  shutDown_left : ∀ action, s.runtime = .shutDown → (s.act action).runtime ≠ .shutDown →
    (s.act action).runtime = .running ∧ ∃ argv maxAttempts faults,
      action = .start argv maxAttempts
        ∧ (s.act action).calls
            = s.calls ++ .canRestart true :: failedStarts argv faults ++ [.start argv (.ok ())]

/-- An action other than a start adds at most one call, which is not a start. -/
lemma calls_act_of_ne_start (s : Session (Watched σ)) {action : Action}
    (h : ∀ argv maxAttempts, action ≠ .start argv maxAttempts) :
    (s.act action).calls = s.calls
      ∨ ∃ call, (s.act action).calls = s.calls ++ [call]
          ∧ ∀ argv result, call ≠ .start argv result := by
  cases action with
  | start argv maxAttempts => exact absurd rfl (h argv maxAttempts)
  | stop =>
      by_cases hruntime : s.runtime = .running
      · exact .inr ⟨.stop, (stop_of_running hruntime).2.2, by simp⟩
      · exact .inl (by rw [act, stop_of_not_running hruntime]; rfl)
  | attach => exact .inl rfl
  | detach => exact .inl rfl
  | eval code sink received =>
      by_cases hruntime : s.runtime = .running
      · exact .inr ⟨_, eval_of_running hruntime code sink received, by simp⟩
      · exact .inl (by rw [act, eval_of_not_running hruntime])
  | askRestart => exact .inr ⟨_, calls_canRestart s, by simp⟩

/-- A start call that a session adds to its calls, and not the first of all, was made by a start. -/
lemma exists_start_of_calls_act {s : Session (Watched σ)} {action : Action}
    {before : List InterpreterCall} {argv : List String} {result : Except Fault Unit}
    (h : s.calls ++ before ++ [.start argv result] <+: (s.act action).calls) :
    ∃ argv' maxAttempts, action = .start argv' maxAttempts := by
  by_contra hne
  push Not at hne
  rw [List.append_assoc] at h
  rcases s.calls_act_of_ne_start hne with hcalls | ⟨call, hcalls, hcall⟩
  · rw [hcalls] at h
    have hlength := h.length_le
    simp only [List.length_append, List.length_singleton] at hlength
    omega
  · rw [hcalls, List.prefix_append_right_inj] at h
    cases before with
    | nil => exact hcall argv result (List.cons_prefix_cons.mp h).1.symm
    | cons first rest => simpa using h.length_le

/-- The calls of a start: first it may ask, then come attempts. Attempts are only made of an
interpreter that is not up, and of one that was shut down only if it has agreed to come back. -/
lemma calls_start (argv : List String) (maxAttempts : UInt32) (s : Session (Watched σ)) :
    ∃ asked starts, (s.start argv maxAttempts).session.calls = s.calls ++ (asked ++ starts)
      ∧ (∀ call ∈ asked, ∃ answer, call = .canRestart answer)
      ∧ (∀ call ∈ starts, ∃ result, call = .start argv result)
      ∧ (starts ≠ [] → s.runtime ≠ .running ∧ asked = permission s.runtime) := by
  have hpermission : ∀ call ∈ permission s.runtime, ∃ answer, call = .canRestart answer := by
    cases s.runtime <;> simp [permission]
  have hfailed : ∀ faults, ∀ call ∈ failedStarts argv faults,
      ∃ result, call = .start argv result := by
    intro faults call hcall
    obtain ⟨fault, -, rfl⟩ := List.mem_map.mp hcall
    exact ⟨_, rfl⟩
  cases start_cases argv maxAttempts s with
  | held hruntime ht => exact ⟨[], [], by rw [ht]; simp [calls], by simp, by simp, by simp⟩
  | refused hruntime hno ht =>
      exact ⟨[.canRestart false], [], by rw [ht, calls_canRestart, hno]; rfl,
        by simp, by simp, by simp⟩
  | cameUp hruntime faults h =>
      refine ⟨permission s.runtime, failedStarts argv faults ++ [.start argv (.ok ())], ?_,
        hpermission, ?_, fun _ => ⟨hruntime, rfl⟩⟩
      · rw [h.calls]
        simp only [List.append_assoc]
      · intro call hcall
        rcases List.mem_append.mp hcall with hcall | hcall
        · exact hfailed faults call hcall
        · exact ⟨_, List.mem_singleton.mp hcall⟩
  | gaveUp hruntime faults h =>
      exact ⟨permission s.runtime, failedStarts argv faults, by rw [h.calls, List.append_assoc],
        hpermission, hfailed faults, fun _ => ⟨hruntime, rfl⟩⟩

/-- Calls are only added. -/
lemma calls_prefix_act (s : Session (Watched σ)) (action : Action) :
    s.calls <+: (s.act action).calls := by
  by_cases h : ∃ argv maxAttempts, action = .start argv maxAttempts
  · obtain ⟨argv, maxAttempts, rfl⟩ := h
    obtain ⟨asked, starts, hcalls, -⟩ := calls_start argv maxAttempts s
    exact ⟨asked ++ starts, hcalls.symm⟩
  · push Not at h
    rcases s.calls_act_of_ne_start h with hcalls | ⟨call, hcalls, -⟩
    · exact hcalls ▸ List.prefix_rfl
    · exact ⟨[call], hcalls.symm⟩

lemma Reaches.calls_prefix {s t : Session (Watched σ)} (h : s.Reaches t) : s.calls <+: t.calls := by
  obtain ⟨actions, rfl⟩ := h
  induction actions generalizing s with
  | nil => exact List.prefix_rfl
  | cons action actions ih => exact (s.calls_prefix_act action).trans ih

lemma Reaches.inStep {s t : Session (Watched σ)} (h : s.Reaches t) (hs : s.InStep) : t.InStep := by
  obtain ⟨actions, rfl⟩ := h
  exact hs.actAll actions

/-- After a stop, a start asks the interpreter whether it can come back before its first attempt. -/
lemma InStep.restart_agreed {s : Session (Watched σ)} (hs : s.InStep) {action : Action}
    {before : List InterpreterCall} {argv : List String} {result : Except Fault Unit}
    (h : s.calls ++ before ++ [.start argv result] <+: (s.act action).calls)
    (hstop : .stop ∈ s.calls ++ before) :
    (∃ maxAttempts, action = .start argv maxAttempts) ∧ .canRestart true ∈ before := by
  obtain ⟨argv', maxAttempts, rfl⟩ := exists_start_of_calls_act h
  obtain ⟨asked, starts, hcalls, hasked, hstarts, hattempts⟩ := calls_start argv' maxAttempts s
  rw [Session.act, hcalls, List.append_assoc, List.prefix_append_right_inj] at h
  -- the start that was found is one of the attempts
  have hmem : .start argv result ∈ starts := by
    have hlast : .start argv result ∈ asked ++ starts := h.subset (by simp)
    rcases List.mem_append.mp hlast with hmem | hmem
    · obtain ⟨answer, heq⟩ := hasked _ hmem
      simp at heq
    · exact hmem
  obtain ⟨result', hstart⟩ := hstarts _ hmem
  obtain ⟨hdown, rfl⟩ := hattempts (List.ne_nil_of_mem hmem)
  refine ⟨⟨maxAttempts, by rw [(InterpreterCall.start.inj hstart).1]⟩, ?_⟩
  -- the stop came before this start, so the interpreter was shut down
  have hbefore : .stop ∉ before := by
    intro hmem
    rcases List.mem_append.mp (h.subset (List.mem_append_left _ hmem)) with hmem | hmem
    · obtain ⟨answer, heq⟩ := hasked _ hmem
      simp at heq
    · obtain ⟨result'', heq⟩ := hstarts _ hmem
      simp at heq
  have hearlier : .stop ∈ s.calls := (List.mem_append.mp hstop).resolve_right hbefore
  have hshut : s.runtime = .shutDown := by
    cases hruntime : s.runtime with
    | notStarted => exact absurd hearlier (stop_notMem_of_notStarted (hs.runtime ▸ hruntime))
    | running => exact absurd hruntime hdown
    | shutDown => rfl
  rw [hshut, Session.permission, List.singleton_append] at h
  cases before with
  | nil => simpa using (List.cons_prefix_cons.mp h).1
  | cons first rest => simp [(List.cons_prefix_cons.mp h).1]

/-- The state of the interpreter after an action other than a start: it may have been shut down. -/
lemma runtime_act_of_ne_start (s : Session (Watched σ)) {action : Action}
    (h : ∀ argv maxAttempts, action ≠ .start argv maxAttempts) :
    (s.act action).runtime = s.runtime
      ∨ s.runtime = .running ∧ (s.act action).runtime = .shutDown := by
  cases action with
  | start argv maxAttempts => exact absurd rfl (h argv maxAttempts)
  | stop =>
      by_cases hruntime : s.runtime = .running
      · exact .inr ⟨hruntime, (stop_of_running hruntime).1⟩
      · exact .inl (by rw [act, stop_of_not_running hruntime])
  | attach => exact .inl rfl
  | detach => exact .inl rfl
  | eval code sink received => exact .inl (runtime_eval code s sink received)
  | askRestart => exact .inl rfl

/-- The state of the interpreter after a start: it is as before, or it has come up. -/
lemma runtime_start (argv : List String) (maxAttempts : UInt32) (s : Session (Watched σ)) :
    (s.start argv maxAttempts).session.runtime = s.runtime
      ∨ ∃ faults, (s.start argv maxAttempts).session.runtime = .running
        ∧ (s.start argv maxAttempts).session.calls
            = s.calls ++ permission s.runtime ++ failedStarts argv faults
              ++ [.start argv (.ok ())] := by
  cases start_cases argv maxAttempts s with
  | held hruntime ht => exact .inl (by rw [ht])
  | refused hruntime hno ht => exact .inl (by rw [ht]; rfl)
  | cameUp hruntime faults h => exact .inr ⟨faults, h.runtime, h.calls⟩
  | gaveUp hruntime faults h => exact .inl h.runtime

lemma stays_started (s : Session (Watched σ)) (action : Action) (hne : s.runtime ≠ .notStarted) :
    (s.act action).runtime ≠ .notStarted := by
  by_cases h : ∃ argv maxAttempts, action = .start argv maxAttempts
  · obtain ⟨argv, maxAttempts, rfl⟩ := h
    rcases runtime_start argv maxAttempts s with hruntime | ⟨faults, hruntime, -⟩
    · rwa [act, hruntime]
    · rw [act, hruntime]
      decide
  · push Not at h
    rcases s.runtime_act_of_ne_start h with hruntime | ⟨-, hruntime⟩
    · rwa [hruntime]
    · rw [hruntime]
      decide

lemma shutDown_left (s : Session (Watched σ)) (action : Action) (hshut : s.runtime = .shutDown)
    (hne : (s.act action).runtime ≠ .shutDown) :
    (s.act action).runtime = .running ∧ ∃ argv maxAttempts faults,
      action = .start argv maxAttempts
        ∧ (s.act action).calls
            = s.calls ++ .canRestart true :: failedStarts argv faults
                ++ [.start argv (.ok ())] := by
  by_cases h : ∃ argv maxAttempts, action = .start argv maxAttempts
  · obtain ⟨argv, maxAttempts, rfl⟩ := h
    rcases runtime_start argv maxAttempts s with hruntime | ⟨faults, hruntime, hcalls⟩
    · exact absurd (hruntime.trans hshut) hne
    · refine ⟨hruntime, argv, maxAttempts, faults, rfl, ?_⟩
      rw [act, hcalls, hshut, permission]
      simp only [List.append_assoc, List.cons_append, List.nil_append]
  · push Not at h
    rcases s.runtime_act_of_ne_start h with hruntime | ⟨hruntime, -⟩
    · exact absurd (hruntime.trans hshut) hne
    · rw [hshut] at hruntime
      exact absurd hruntime (by decide)

/-- A session in step keeps the contract. -/
lemma InStep.keepsContract {s : Session (Watched σ)} (h : s.InStep) : s.KeepsContract where
  eval_up before code result hprefix := h.inPlace before (.eval code result) hprefix
  start_down before argv result hprefix := h.inPlace before (.start argv result) hprefix
  stop_up before hprefix := h.inPlace before .stop hprefix
  stop_once before between hprefix :=
    start_mem_of_isUp (h.inPlace (before ++ .stop :: between) .stop hprefix)
  restart_agreed _ _ _ _ hprefix hstop := h.restart_agreed hprefix hstop
  running_of_attached := h.attached
  stays_started := s.stays_started
  shutDown_left := s.shutDown_left

/-- **The contract is kept**, whatever is done with a new session over whatever interpreter. -/
theorem keepsContract_actAll (interpreter : σ) (actions : List Action) :
    ((watching interpreter).actAll actions).KeepsContract :=
  ((inStep_watching interpreter).actAll actions).keepsContract

end Session

end RCart
