import Mathlib.Data.UInt
import Mathlib.Logic.Function.Iterate
import RCart.Interpreter.Recorder
import RCart.Proofs.Session.Calls

/-!
The attempts of a start.

What an interpreter makes of being started again and again is a sequence of results. A start of a
session goes through this sequence up to the first success, or gives up.

* `Interpreter.afterStarts`, `startResult`: an interpreter after starts in a row, and what comes of
  the next one;
* `Session.attemptRecords`, `Watched.calls_afterStarts`: what is logged of starts in a row, and the
  calls that they are;
* `Session.startAttempts_of_firstUp`, `startAttempts_of_noneUp`: the attempts of a start end with
  the first that succeeds, and are all made if none does;
* `Session.toStart?`: the interpreter that is to come up, if a start comes to its attempts;
* **`Session.start_retries`**: what a start returns, what it leaves, and every call that it makes.
-/

namespace RCart

/-! ### Starts in a row -/

namespace Interpreter

variable {σ : Type} [Interpreter σ]

/-- An interpreter after so many starts in a row, whatever came of them. -/
def afterStarts (argv : List String) (count : ℕ) (s : σ) : σ :=
  (fun s => (Interpreter.start argv s).2)^[count] s

/-- What comes of a start that so many others have come before. -/
def startResult (argv : List String) (before : ℕ) (s : σ) : Except Fault Unit :=
  (Interpreter.start argv (afterStarts argv before s)).1

/-- None of the first starts in a row succeeds. -/
def NoneUp (argv : List String) (count : ℕ) (s : σ) : Prop :=
  ∀ before < count, startResult argv before s ≠ .ok ()

/-- The start that so many others come before is the first that succeeds. -/
def FirstUp (argv : List String) (before : ℕ) (s : σ) : Prop :=
  startResult argv before s = .ok () ∧ NoneUp argv before s

instance (argv : List String) (count : ℕ) (s : σ) : Decidable (NoneUp argv count s) :=
  inferInstanceAs (Decidable (∀ before < count, startResult argv before s ≠ .ok ()))

instance (argv : List String) (before : ℕ) (s : σ) : Decidable (FirstUp argv before s) :=
  inferInstanceAs (Decidable (_ ∧ _))

/-- The calls that starts in a row are. -/
def startCalls (argv : List String) (count : ℕ) (s : σ) : List InterpreterCall :=
  (List.range count).map fun before => .start argv (startResult argv before s)

/-- A sequence without a success begins with a failure, and goes on without a success. -/
lemma NoneUp.cons {argv : List String} {count : ℕ} {s : σ} (h : NoneUp argv (count + 1) s) :
    (∃ fault, (Interpreter.start argv s).1 = .error fault)
      ∧ NoneUp argv count (Interpreter.start argv s).2 := by
  refine ⟨?_, fun before hlt => h (before + 1) (Nat.succ_lt_succ hlt)⟩
  have hfirst : (Interpreter.start argv s).1 ≠ .ok () := h 0 count.succ_pos
  cases hresult : (Interpreter.start argv s).1 with
  | error fault => exact ⟨fault, rfl⟩
  | ok u => exact absurd hresult hfirst

end Interpreter

/-! ### Calls -/

namespace Watched

open Interpreter

variable {σ : Type} [Interpreter σ]

lemma inner_afterStarts (argv : List String) (count : ℕ) (w : Watched σ) :
    (afterStarts argv count w).inner = afterStarts argv count w.inner := by
  induction count generalizing w with
  | zero => rfl
  | succ count ih => exact ih (Interpreter.start argv w).2

lemma startResult_inner (argv : List String) (before : ℕ) (w : Watched σ) :
    startResult argv before w = startResult argv before w.inner := by
  rw [startResult, startResult, ← inner_afterStarts]
  rfl

lemma noneUp_iff {argv : List String} {count : ℕ} {w : Watched σ} :
    NoneUp argv count w ↔ NoneUp argv count w.inner := by
  simp only [NoneUp, startResult_inner]

lemma firstUp_iff {argv : List String} {before : ℕ} {w : Watched σ} :
    FirstUp argv before w ↔ FirstUp argv before w.inner := by
  rw [FirstUp, FirstUp, startResult_inner, noneUp_iff]

/-- Each start in a row is one call. -/
lemma calls_afterStarts (argv : List String) (count : ℕ) (w : Watched σ) :
    (afterStarts argv count w).calls = w.calls ++ startCalls argv count w.inner := by
  induction count with
  | zero => exact (List.append_nil _).symm
  | succ count ih =>
      have hlast : afterStarts argv (count + 1) w
          = (Interpreter.start argv (afterStarts argv count w)).2 :=
        Function.iterate_succ_apply' _ _ _
      rw [hlast, calls_start, ih, startCalls, startCalls, List.range_succ, List.map_append,
        List.append_assoc, List.map_singleton, ← startResult_inner]
      rfl

end Watched

/-! ### Attempts -/

namespace Session

open Interpreter

variable {σ : Type} [Interpreter σ]

/-- The log record of an attempt. -/
def attemptRecord (attempt attempts : ℕ) : Except Fault Unit → LogRecord
  | .ok () => startedRecord attempt attempts
  | .error fault => failedRecord attempt attempts fault

/-- The log records of attempts in a row, of which some have been made before. -/
def attemptRecords (argv : List String) (attempts made count : ℕ) (s : σ) : List LogRecord :=
  (List.range count).map fun before =>
    attemptRecord (made + before + 1) attempts (startResult argv before s)

lemma attemptRecords_succ (argv : List String) (attempts made count : ℕ) (s : σ) :
    attemptRecords argv attempts made (count + 1) s
      = attemptRecord (made + 1) attempts (Interpreter.start argv s).1
        :: attemptRecords argv attempts (made + 1) count (Interpreter.start argv s).2 := by
  rw [attemptRecords, List.range_succ_eq_map, List.map_cons, List.map_map, attemptRecords]
  refine congrArg₂ _ rfl (List.map_congr_left fun before _ => ?_)
  rw [Function.comp_apply, Nat.succ_eq_add_one, Nat.add_right_comm made 1 before]
  rfl

/-- After a failed attempt the rest of the attempts decides, and the failure is logged first. -/
lemma startAttempts_of_error {argv : List String} {attempts : UInt32} {left count : ℕ}
    {s session : Session σ} {fault : Fault} {result : Except Fault Bool}
    (hfault : (Interpreter.start argv s.interpreter).1 = .error fault)
    (hleft : left < attempts.toNat)
    (hrest : startAttempts argv attempts left fault.message
        { s with interpreter := (Interpreter.start argv s.interpreter).2 }
      = ⟨result, session, attemptRecords argv attempts.toNat (attempts.toNat - left) count
        (Interpreter.start argv s.interpreter).2⟩) (reason : String) :
    startAttempts argv attempts (left + 1) reason s = ⟨result, session,
      attemptRecords argv attempts.toNat (attempts.toNat - (left + 1)) (count + 1)
        s.interpreter⟩ := by
  have hattempt : attempts.toNat - (left + 1) + 1 = attempts.toNat - left := by omega
  have hstart : Interpreter.start argv s.interpreter
      = (.error fault, (Interpreter.start argv s.interpreter).2) := Prod.ext hfault rfl
  rw [startAttempts, attemptRecords_succ, hattempt, hstart]
  simp only
  rw [hrest]
  rfl

/-- The attempts end with the first that succeeds. -/
lemma startAttempts_of_firstUp {argv : List String} {attempts : UInt32} {left before : ℕ}
    {s : Session σ} (hup : FirstUp argv before s.interpreter) (hlt : before < left)
    (hleft : left ≤ attempts.toNat) (reason : String) :
    startAttempts argv attempts left reason s
      = ⟨.ok true, ⟨afterStarts argv (before + 1) s.interpreter, .running, true⟩,
        attemptRecords argv attempts.toNat (attempts.toNat - left) (before + 1) s.interpreter⟩ := by
  induction before generalizing left reason s with
  | zero =>
      obtain ⟨left, rfl⟩ := Nat.exists_eq_add_one_of_ne_zero (Nat.ne_zero_of_lt hlt)
      have hattempt : attempts.toNat - (left + 1) + 1 = attempts.toNat - left := by omega
      have hstart : Interpreter.start argv s.interpreter
          = (.ok (), afterStarts argv 1 s.interpreter) := Prod.ext hup.1 rfl
      rw [startAttempts, attemptRecords_succ, hattempt, hstart]
      rfl
  | succ before ih =>
      obtain ⟨left, rfl⟩ := Nat.exists_eq_add_one_of_ne_zero (Nat.ne_zero_of_lt hlt)
      obtain ⟨⟨fault, hfault⟩, hrest⟩ := hup.2.cons
      refine startAttempts_of_error hfault hleft ?_ reason
      exact ih (s := { s with interpreter := (Interpreter.start argv s.interpreter).2 })
        ⟨hup.1, hrest⟩ (Nat.lt_of_succ_lt_succ hlt) (Nat.le_of_succ_le hleft) fault.message

/-- If none of the attempts that are left succeeds, all are made, and the reason is that of the
last. -/
lemma startAttempts_of_noneUp {argv : List String} {attempts : UInt32} {left : ℕ} {s : Session σ}
    (hdown : NoneUp argv (left + 1) s.interpreter) (hleft : left < attempts.toNat)
    (reason : String) :
    ∃ fault, startResult argv left s.interpreter = .error fault
      ∧ startAttempts argv attempts (left + 1) reason s
        = ⟨.error (.start attempts fault.message),
          { s with interpreter := afterStarts argv (left + 1) s.interpreter },
          attemptRecords argv attempts.toNat (attempts.toNat - (left + 1)) (left + 1)
            s.interpreter⟩ := by
  induction left generalizing reason s with
  | zero =>
      obtain ⟨⟨fault, hfault⟩, -⟩ := hdown.cons
      exact ⟨fault, hfault, startAttempts_of_error hfault hleft rfl reason⟩
  | succ left ih =>
      obtain ⟨⟨fault, hfault⟩, hrest⟩ := hdown.cons
      obtain ⟨last, hlast, hattempts⟩ :=
        ih (s := { s with interpreter := (Interpreter.start argv s.interpreter).2 }) hrest
          (Nat.lt_of_succ_lt hleft) fault.message
      exact ⟨last, hlast, startAttempts_of_error hfault hleft hattempts reason⟩

/-! ### Starts -/

/-- The interpreter to which a start makes its attempts, if it comes to any: one that was never up,
or one that was shut down and says that it can come back. -/
def toStart? (s : Session σ) : Option σ :=
  match s.runtime with
  | .notStarted => some s.interpreter
  | .running => none
  | .shutDown => if s.canRestart.1 then some s.canRestart.2.interpreter else none

lemma start_of_toStart {s : Session σ} {interpreter : σ} (h : s.toStart? = some interpreter)
    (argv : List String) (maxAttempts : UInt32) :
    s.start argv maxAttempts
      = startAttempts argv (max maxAttempts 1) (max maxAttempts 1).toNat ""
        { s with interpreter } := by
  obtain ⟨before, runtime, attached⟩ := s
  cases runtime with
  | notStarted =>
      obtain rfl := Option.some.inj h
      rfl
  | running => cases h
  | shutDown =>
      obtain ⟨hcan, heq⟩ := Option.ite_none_right_eq_some.mp h
      obtain rfl := Option.some.inj heq
      exact if_pos hcan

/-- A start that comes to its attempts ends with the first that succeeds, or gives up. -/
lemma start_cases_of_toStart {s : Session σ} {interpreter : σ}
    (h : s.toStart? = some interpreter) (argv : List String) (maxAttempts : UInt32) :
    let attempts := max maxAttempts 1
    (∀ before < attempts.toNat, FirstUp argv before interpreter →
      s.start argv maxAttempts
        = ⟨.ok true, ⟨afterStarts argv (before + 1) interpreter, .running, true⟩,
          attemptRecords argv attempts.toNat 0 (before + 1) interpreter⟩)
    ∧ (NoneUp argv attempts.toNat interpreter →
      ∃ fault, startResult argv (attempts.toNat - 1) interpreter = .error fault
        ∧ s.start argv maxAttempts
          = ⟨.error (.start attempts fault.message),
            { s with interpreter := afterStarts argv attempts.toNat interpreter },
            attemptRecords argv attempts.toNat 0 attempts.toNat interpreter⟩) := by
  intro attempts
  rw [start_of_toStart h]
  constructor
  · intro before hlt hup
    have hattempts := startAttempts_of_firstUp (s := { s with interpreter }) hup hlt
      (Nat.le_refl _) ""
    rwa [Nat.sub_self] at hattempts
  · intro hdown
    have hpositive : 0 < attempts.toNat :=
      UInt32.toNat_max maxAttempts 1 ▸ Nat.le_max_right maxAttempts.toNat 1
    obtain ⟨left, hleft⟩ := Nat.exists_eq_add_one_of_ne_zero hpositive.ne'
    have hlt : left < attempts.toNat := hleft ▸ left.lt_succ_self
    rw [hleft] at hdown
    obtain ⟨fault, hlast, hattempts⟩ :=
      startAttempts_of_noneUp (s := { s with interpreter }) hdown hlt ""
    rw [← hleft, Nat.sub_self] at hattempts
    refine ⟨fault, ?_, hattempts⟩
    rwa [hleft, Nat.add_sub_cancel]

/-! ### Starts under watch -/

/-- The session with its interpreter under watch from now on. -/
def watched (s : Session σ) : Session (Watched σ) :=
  s.mapInterpreter fun interpreter => { inner := interpreter }

/-- What is to come up has been asked for its permission, if at all. -/
lemma toStart?_watched {s : Session σ} {interpreter : σ} (h : s.toStart? = some interpreter) :
    s.watched.toStart? = some ⟨interpreter, permission s.runtime⟩ := by
  obtain ⟨before, runtime, attached⟩ := s
  cases runtime with
  | notStarted =>
      obtain rfl := Option.some.inj h
      rfl
  | running => cases h
  | shutDown =>
      obtain ⟨hcan, heq⟩ := Option.ite_none_right_eq_some.mp h
      obtain rfl := Option.some.inj heq
      exact (if_pos hcan).trans
        (congrArg (fun answer => some (Watched.mk _ [.canRestart answer])) hcan)

/-- **What a start does**, whatever the session, the interpreter and the limit.

Its interpreter watched, a start does what it does unwatched. If the interpreter is up, it is not
called and the session is attached. If it was shut down and says that it cannot come back, it is
asked just that, and the session stays as it is unless being asked changes the interpreter.
Otherwise what comes of its starts, one after another, decides: the first that succeeds within the
limit is the last that is made, and brings the session up; if there is none, as many are made as the
limit says, the reason is that of the last one and the session stays as it is. The limit is at least
one. -/
theorem start_retries (argv : List String) (maxAttempts : UInt32) (s : Session σ) :
    let attempts := max maxAttempts 1
    let limit := attempts.toNat
    let started := s.start argv maxAttempts
    let watched := s.watched.start argv maxAttempts
    let calls := watched.session.calls
    (limit = max maxAttempts.toNat 1
        ∧ started = ⟨watched.result, watched.session.mapInterpreter Watched.inner, watched.log⟩)
      ∧ (s.runtime = .running →
        started = ⟨.ok false, { s with attached := true }, []⟩ ∧ calls = [])
      ∧ (s.runtime = .shutDown → s.canRestart.1 = false →
        started = ⟨.error .restartUnsupported,
            { s with interpreter := (Interpreter.canRestart s.interpreter).2 }, []⟩
          ∧ calls = [.canRestart false]
          ∧ ((Interpreter.canRestart s.interpreter).2 = s.interpreter → started.session = s))
      ∧ ∀ interpreter, s.toStart? = some interpreter →
        (∀ before < limit, FirstUp argv before interpreter →
          started = ⟨.ok true, ⟨afterStarts argv (before + 1) interpreter, .running, true⟩,
              attemptRecords argv limit 0 (before + 1) interpreter⟩
            ∧ calls = permission s.runtime ++ startCalls argv (before + 1) interpreter)
        ∧ (NoneUp argv limit interpreter →
          ∃ fault, startResult argv (limit - 1) interpreter = .error fault
            ∧ started = ⟨.error (.start attempts fault.message),
                { s with interpreter := afterStarts argv limit interpreter },
                attemptRecords argv limit 0 limit interpreter⟩
            ∧ calls = permission s.runtime ++ startCalls argv limit interpreter) := by
  intro attempts limit started watched calls
  refine ⟨⟨UInt32.toNat_max maxAttempts 1, ?_⟩, fun hup => ?_, fun hshut hno => ?_,
    fun interpreter hinterpreter => ⟨fun before hlt hup => ?_, fun hdown => ?_⟩⟩
  · exact start_mapInterpreter Watched.isMorphism_inner argv maxAttempts s.watched
  · obtain ⟨interpreter, runtime, attached⟩ := s
    obtain rfl : runtime = .running := hup
    exact ⟨rfl, rfl⟩
  · obtain ⟨interpreter, runtime, attached⟩ := s
    obtain rfl : runtime = .shutDown := hshut
    have hstarted : started = ⟨.error .restartUnsupported,
        ⟨(Interpreter.canRestart interpreter).2, .shutDown, attached⟩, []⟩ :=
      if_neg (ne_true_of_eq_false hno)
    have hwatched : watched.session.calls = [.canRestart (Interpreter.canRestart interpreter).1] :=
      congrArg (fun t : Started (Watched σ) => t.session.calls) (if_neg (ne_true_of_eq_false hno))
    refine ⟨hstarted, hwatched.trans ?_, fun hsame => ?_⟩
    · exact congrArg (fun answer => [InterpreterCall.canRestart answer]) hno
    · rw [hstarted]
      exact congrArg (Session.mk · .shutDown attached) hsame
  · have hcalls := (start_cases_of_toStart (toStart?_watched hinterpreter) argv maxAttempts).1
      before hlt (Watched.firstUp_iff.mpr hup)
    refine ⟨(start_cases_of_toStart hinterpreter argv maxAttempts).1 before hlt hup, ?_⟩
    exact (congrArg (fun t => t.session.calls) hcalls).trans (Watched.calls_afterStarts ..)
  · obtain ⟨fault, hlast, hstarted⟩ :=
      (start_cases_of_toStart hinterpreter argv maxAttempts).2 hdown
    obtain ⟨_, -, hcalls⟩ := (start_cases_of_toStart (toStart?_watched hinterpreter) argv
      maxAttempts).2 (Watched.noneUp_iff.mpr hdown)
    refine ⟨fault, hlast, hstarted, ?_⟩
    exact (congrArg (fun t => t.session.calls) hcalls).trans (Watched.calls_afterStarts ..)

/-- A recorder that was shut down and can come back, and that fails its next two starts: the third
of at most three attempts brings the session up; where none is allowed, one is made, and the session
stays as it is. -/
theorem start_retries_third :
    let r : Recorder := { failingStarts := 2, restartable := true }
    let s : Session Recorder := { interpreter := r, runtime := .shutDown }
    s.toStart? = some r
      ∧ FirstUp ["R"] 2 r
      ∧ (s.start ["R"] 3).result = .ok true
      ∧ (s.watched.start ["R"] 3).session.calls = .canRestart true :: startCalls ["R"] 3 r
      ∧ NoneUp ["R"] 1 r
      ∧ (s.start ["R"] 0).session = { s with interpreter := afterStarts ["R"] 1 r }
      ∧ (s.watched.start ["R"] 0).session.calls = .canRestart true :: startCalls ["R"] 1 r := by
  intro r s
  have hup : FirstUp ["R"] 2 r := by decide +kernel
  have hdown : NoneUp ["R"] 1 r := fun before hlt => hup.2 before (Nat.lt_succ_of_lt hlt)
  obtain ⟨hthird, hcalls⟩ := ((start_retries ["R"] 3 s).2.2.2 r rfl).1 2 (by decide) hup
  obtain ⟨fault, -, honce, hcall⟩ := ((start_retries ["R"] 0 s).2.2.2 r rfl).2 hdown
  exact ⟨rfl, hup, congrArg Started.result hthird, hcalls, hdown, congrArg Started.session honce,
    hcall⟩

end Session

end RCart
