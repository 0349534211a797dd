import RCart.Interpreter.Recorder
import RCart.Proofs.Adapter.Cart
import RCart.Proofs.Adapter.Contract

/-!
What lies between two carts.

* `Isolated`: between two carts the interpreter was restarted, or wiped without an error;
* `Guarded`: the invariant: since a cart, the globals were seen to, or the next load has to see to
  them;
* `Adapter.wipe_of_init`: a load whose wipe raises an error of the cart goes on;
* **`Adapter.cart_isolation`**: isolation fails exactly when every wipe between the carts has
  failed.
-/

namespace RCart

/-! ### Between two carts -/

/-- The interpreter was stopped, and later it has come up. -/
def Restarted (calls : List InterpreterCall) : Prop :=
  ∃ argv, [.stop, .start argv (.ok ())].Sublist calls

/-- The interpreter was restarted, or wiped without an error. -/
def Isolated (calls : List InterpreterCall) : Prop :=
  Restarted calls ∨ .eval Source.wipe (.ok ()) ∈ calls

/-- The interpreter was restarted, or it was at least asked to wipe its globals. -/
def SeenTo (calls : List InterpreterCall) : Prop :=
  Restarted calls ∨ ∃ result, .eval Source.wipe result ∈ calls

lemma Restarted.append {calls : List InterpreterCall} (h : Restarted calls)
    (more : List InterpreterCall) : Restarted (calls ++ more) := by
  obtain ⟨argv, hargv⟩ := h
  exact ⟨argv, hargv.trans (List.sublist_append_left calls more)⟩

lemma SeenTo.append {calls : List InterpreterCall} (h : SeenTo calls)
    (more : List InterpreterCall) : SeenTo (calls ++ more) := by
  obtain hrestarted | ⟨result, hresult⟩ := h
  · exact .inl (hrestarted.append more)
  · exact .inr ⟨result, List.mem_append_left more hresult⟩

/-- What was seen to is isolated unless every wipe has failed. -/
lemma not_isolated_iff {calls : List InterpreterCall} (h : SeenTo calls) :
    ¬ Isolated calls ↔ ¬ Restarted calls ∧ .eval Source.wipe (.ok ()) ∉ calls
      ∧ ∃ fault, .eval Source.wipe (.error fault) ∈ calls := by
  rw [Isolated, not_or]
  refine and_congr_right fun hrestarted => ⟨fun hwipe => ⟨hwipe, ?_⟩, And.left⟩
  obtain hagain | ⟨result, hresult⟩ := h
  · exact absurd hagain hrestarted
  · cases result with
    | ok u => exact absurd hresult hwipe
    | error fault => exact ⟨fault, hresult⟩

/-! ### The invariant -/

/-- Since some calls, the globals were seen to; or they will be before a cart is evaluated, because
the session is attached, or the interpreter was stopped and has to come up again. -/
def Guarded {σ : Type} (before : List InterpreterCall) (s : Session (Watched σ)) : Prop :=
  ∃ since, s.calls = before ++ since
    ∧ (s.attached = true ∨ SeenTo since ∨ s.runtime = .shutDown ∧ .stop ∈ since)

variable {σ : Type} [Interpreter σ] {before : List InterpreterCall} {s t : Session (Watched σ)}

/-- A move keeps an attached session attached, or stops or wipes its interpreter. -/
lemma Session.Move.of_attached (hmove : s.Move t) (hup : s.runtime = .running)
    (hattached : s.attached = true) :
    t.attached = true ∨ (∃ result, .eval Source.wipe result ∈ t.calls.drop s.calls.length)
      ∨ t.runtime = .shutDown ∧ .stop ∈ t.calls.drop s.calls.length := by
  cases hmove with
  | start argv maxAttempts =>
      left
      simp only [Session.start, hup]
  | eval code sink received => exact .inl ((s.attached_eval code sink received).trans hattached)
  | ask => exact .inl hattached
  | shutDown hyes =>
      obtain ⟨hshut, -, hcalls⟩ := stop_of_running (s := s.canRestart.2) hup
      rw [hcalls, calls_canRestart, List.append_assoc, List.drop_left]
      exact .inr (.inr ⟨hshut, List.mem_append_right _ List.mem_cons_self⟩)
  | wipe sink received hno =>
      have hcalls := eval_of_running (s := s.canRestart.2) hup Source.wipe sink received
      change _ ∨ (∃ result, _ ∈ ((s.canRestart.2.eval Source.wipe).run sink received).2.1.calls.drop
        s.calls.length) ∨ _
      rw [hcalls, calls_canRestart, List.append_assoc, List.drop_left]
      exact .inr (.inl ⟨_, List.mem_append_right _ List.mem_cons_self⟩)

/-- What was shut down stays so under a move, unless it comes up and the session is attached. -/
lemma Session.Move.of_shutDown (hmove : s.Move t) (hshut : s.runtime = .shutDown) :
    t.attached = true ∨ t.runtime = .shutDown := by
  have hdown : s.runtime ≠ .running := by
    rw [hshut]
    decide
  cases hmove with
  | start argv maxAttempts =>
      cases s.start_cases argv maxAttempts with
      | held hruntime => exact absurd hruntime hdown
      | refused _ _ ht => rw [ht]; exact .inr hshut
      | cameUp _ _ h => exact .inl h.attached
      | gaveUp _ _ h => exact .inr (h.runtime.trans hshut)
  | eval code sink received => exact .inr ((s.runtime_eval code sink received).trans hshut)
  | ask => exact .inr hshut
  | shutDown hyes =>
      rw [stop_of_not_running (s := s.canRestart.2) hdown]
      exact .inr hshut
  | wipe sink received hno =>
      exact .inr ((s.canRestart.2.runtime_eval Source.wipe sink received).trans hshut)

/-- Every move keeps the globals guarded. -/
lemma Session.Move.guarded (hmove : s.Move t) (hstep : s.InStep) (h : Guarded before s) :
    Guarded before t := by
  obtain ⟨since, hcalls, hcase⟩ := h
  obtain ⟨more, hmore⟩ := hmove.reaches.calls_prefix
  refine ⟨since ++ more, by rw [← hmore, hcalls, List.append_assoc], ?_⟩
  have hdrop : t.calls.drop s.calls.length = more := by rw [← hmore, List.drop_left]
  obtain hattached | hseen | ⟨hshut, hstop⟩ := hcase
  · have hof := hmove.of_attached (hstep.attached hattached) hattached
    rw [hdrop] at hof
    obtain hattached' | ⟨result, hwipe⟩ | ⟨hshut, hstop⟩ := hof
    · exact .inl hattached'
    · exact .inr (.inl (.inr ⟨result, List.mem_append_right since hwipe⟩))
    · exact .inr (.inr ⟨hshut, List.mem_append_right since hstop⟩)
  · exact .inr (.inl (hseen.append more))
  · obtain hattached | hshut' := hmove.of_shutDown hshut
    · exact .inl hattached
    · exact .inr (.inr ⟨hshut', List.mem_append_left more hstop⟩)

/-- So does any number of moves. -/
lemma Session.Moves.guarded (hmoves : s.Moves t) (hstep : s.InStep) (h : Guarded before s) :
    Guarded before t := by
  induction hmoves with
  | refl => exact h
  | tail hfirst hlast ih => exact hlast.guarded (Session.Moves.reaches hfirst |>.inStep hstep) ih

namespace Adapter

/-! ### Making ready -/

/-- When a session whose globals are guarded is ready for a cart, they were seen to. -/
lemma seenTo_of_ready {console : Console} {a m : Adapter (Watched σ)}
    (hready : a.ready? console = some m) (hstep : a.session.InStep)
    (hguarded : Guarded before a.session) :
    ∃ since, m.session.calls = before ++ since ∧ SeenTo since := by
  obtain ⟨b, hfill, hresult, rfl⟩ := ready?_eq_some_iff.mp hready
  rw [← session_of_fillEnvironment hfill] at hstep hguarded
  obtain ⟨-, hstart, -, -, added, -, hcalls⟩ := prepare_of_ok hresult
  obtain ⟨-, -, hstarted⟩ := start_of_ok hstart
  have hfree : (b.releaseAttached console).adapter.session.attached = false := by
    cases hattached : b.session.attached with
    | true =>
        cases releaseAttached_cases (hstep.attached hattached) hattached console with
        | stopped _ _ _ hfree => exact hfree
        | wiped _ _ _ _ hfree => exact hfree
    | false => rw [releaseAttached_of_detached hattached]; exact hattached
  obtain ⟨since, hsince, hcase⟩ := (b.moves_releaseAttached console).guarded hstep hguarded
  rw [hfree] at hcase
  rw [hcalls]
  obtain ⟨hrunning, hsame⟩ | ⟨-, asked, argv, hcame⟩ := hstarted
  · obtain hattached | hseen | ⟨hshut, -⟩ := hcase
    · cases hattached
    · exact ⟨since ++ added, by rw [hsame, hsince, List.append_assoc], hseen.append added⟩
    · cases hshut.symm.trans hrunning
  · have hseen : SeenTo (since ++ (asked ++ [.start argv (.ok ())])) := by
      obtain hattached | hseen | ⟨-, hstop⟩ := hcase
      · cases hattached
      · exact hseen.append _
      · exact .inl ⟨argv, (List.singleton_sublist.mpr hstop).append
          (List.sublist_append_right asked _)⟩
    refine ⟨since ++ (asked ++ [.start argv (.ok ())]) ++ added, ?_, hseen.append added⟩
    rw [hcame, hsince]
    simp only [List.append_assoc]

/-- The same at the moment of a cart. -/
lemma seenTo_of_cartMoment {console : Console} {operation : Operation} {a m : Adapter (Watched σ)}
    {code : String} (hmoment : a.cartMoment? console operation = some (m, code))
    (hstep : a.session.InStep) (hguarded : Guarded before a.session) :
    ∃ since, m.session.calls = before ++ since ∧ SeenTo since := by
  rcases cartMoment?_cases hmoment with ⟨-, hready⟩ | ⟨-, b, hfill, -, hready⟩
  · exact seenTo_of_ready hready hstep hguarded
  · rw [← session_of_fillEnvironment hfill] at hstep hguarded
    have hmoves := b.moves_mustStart
    exact seenTo_of_ready hready (hmoves.reaches.inStep hstep) (hmoves.guarded hstep hguarded)

/-- A cart that has been evaluated leaves the globals guarded, through the rest of its operation. -/
lemma guarded_of_cartMoment {console : Console} {operation : Operation} {a m : Adapter (Watched σ)}
    {code : String} (hmoment : a.cartMoment? console operation = some (m, code))
    (hstep : a.session.InStep) :
    Guarded (m.session.calls ++ [.eval code (m.evaluateCart console code).result])
      (a.perform console operation).adapter.session := by
  obtain ⟨hup, hattached⟩ := held_of_cartMoment hmoment
  have hcart : m.session.Moves (m.evaluateCart console code).adapter.session :=
    moves_evaluate console code (m.note _ _)
  refine (moves_of_cartMoment hmoment).guarded
    (((moves_to_cartMoment hmoment).trans hcart).reaches.inStep hstep) ?_
  refine ⟨[], ?_, .inl ((attached_evaluate console code (m.note _ _)).trans hattached)⟩
  rw [calls_evaluateCart hup, List.append_nil]

/-! ### Loading over an attached session -/

/-- What a load makes of the wipe that it needs: an error of the cart does not stop it, any other
does, and nothing is evaluated after it. -/
lemma wipe_of_init {a b : Adapter (Watched σ)} (hfill : a.fillEnvironment = some b)
    (hup : b.session.runtime = .running) (hattached : b.session.attached = true)
    (hno : b.session.canRestart.1 = false) (console : Console) :
    ∃ result, (b.releaseAttached console).adapter.session.calls
        = b.session.calls ++ [.canRestart false, .eval Source.wipe result]
      ∧ ((result = .ok () ∨ ∃ reason, result = .error (.eval reason)) →
        b.prepare console = defineForwarders console console.keywords
          (b.releaseAttached console).adapter.start.adapter)
      ∧ (¬ (result = .ok () ∨ ∃ reason, result = .error (.eval reason)) →
        ∀ code, (a.init console code).adapter.session
          = (b.releaseAttached console).adapter.session) := by
  cases releaseAttached_cases hup hattached console with
  | stopped hyes => cases hyes.symm.trans hno
  | wiped _ result hresult hrunning _ hcalls =>
      refine ⟨result, hcalls, ?_⟩
      rw [← forgive_eq_ok_iff, ← hresult]
      refine ⟨fun hok => ?_, fun hfails code => ?_⟩
      · have hstart : (b.releaseAttached console).adapter.start.result = .ok () := by
          cases h : (b.releaseAttached console).adapter.start.result with
          | ok u => rfl
          | error fault => exact absurd hrunning (start_of_error h).1
        rw [prepare, andThen_of_ok hok, andThen_of_ok hstart]
      · cases h : (b.releaseAttached console).result with
        | ok u => exact absurd h hfails
        | error fault =>
            have hprepare : b.prepare console = b.releaseAttached console := by
              rw [prepare, andThen_of_error h, andThen_of_error h]
            rw [init_of_fill hfill, session_concludeLoad, load_of_prepare_error (hprepare ▸ h),
              hprepare]

/-! ### Runs -/

/-- **Isolation of carts**, for every interpreter and every run.

Between one cart and any later one the interpreter was restarted or asked to wipe its globals, so
carts are not isolated exactly when it was not restarted and the wipes, of which there was one, have
all ended in an error. Such a wipe does not keep a load from going on: over an attached session, the
load goes on to the forwarders of its cart if the error is one of the cart, and comes to no cart
otherwise. -/
theorem cart_isolation (interpreter : σ) (settings : Settings) (env : Environment)
    {run : List (Console × Operation)} {a : Adapter (Watched σ)}
    (hrun : afterAll run (watching interpreter settings env) = some a) :
    (∀ (first second : Console × Operation) (middle : List (Console × Operation))
        (b m n : Adapter (Watched σ)) (cart next : String),
      a.cartMoment? first.1 first.2 = some (m, cart) →
      afterAll (first :: middle) a = some b →
      b.cartMoment? second.1 second.2 = some (n, next) →
      ∃ result between, n.session.calls = m.session.calls ++ .eval cart result :: between
        ∧ (¬ Isolated between ↔ ¬ Restarted between ∧ .eval Source.wipe (.ok ()) ∉ between
          ∧ ∃ fault, .eval Source.wipe (.error fault) ∈ between))
    ∧ ∀ (b : Adapter (Watched σ)) (console : Console), a.fillEnvironment = some b →
      b.session.attached = true → b.session.canRestart.1 = false →
      ∃ result, (b.releaseAttached console).adapter.session.calls
          = b.session.calls ++ [.canRestart false, .eval Source.wipe result]
        ∧ ((result = .ok () ∨ ∃ reason, result = .error (.eval reason)) →
          b.prepare console = defineForwarders console console.keywords
            (b.releaseAttached console).adapter.start.adapter)
        ∧ (¬ (result = .ok () ∨ ∃ reason, result = .error (.eval reason)) →
          ∀ code, (a.init console code).adapter.session
            = (b.releaseAttached console).adapter.session) := by
  have hstep : a.session.InStep :=
    (moves_afterAll hrun).reaches.inStep (Session.inStep_watching interpreter)
  refine ⟨?_, fun b console hfill hattached hno => ?_⟩
  · intro first second middle b m n cart next hfirst hmiddle hsecond
    rw [afterAll_cons] at hmiddle
    obtain ⟨c, hc, hb⟩ := Option.bind_eq_some_iff.mp hmiddle
    obtain ⟨-, rfl⟩ := Outcome.next?_eq_some_iff.mp hc
    have hstep' := (moves_perform first.1 first.2 a).reaches.inStep hstep
    have hguarded := (moves_afterAll hb).guarded hstep' (guarded_of_cartMoment hfirst hstep)
    obtain ⟨between, hcalls, hseen⟩ :=
      seenTo_of_cartMoment hsecond ((moves_afterAll hb).reaches.inStep hstep') hguarded
    refine ⟨(m.evaluateCart first.1 cart).result, between, ?_, not_isolated_iff hseen⟩
    rw [hcalls, List.append_assoc, List.singleton_append]
  · have hup : b.session.runtime = .running := by
      rw [session_of_fillEnvironment hfill] at hattached ⊢
      exact hstep.attached hattached
    exact wipe_of_init hfill hup hattached hno console

/-- A console with no functions. -/
def silentConsole : Console :=
  { keywords := [] }

/-- A recorder that cannot wipe its globals. -/
def unclean : Recorder :=
  { reactions := [("rm(list", .raises "cannot clear")] }

/-- Over a recorder that cannot wipe its globals, a second load comes to its cart, and the two carts
are not isolated. -/
theorem cart_isolation_unclean :
    ∃ a b m n : Adapter (Watched Recorder),
      afterAll [] (watching unclean {} .empty) = some a
        ∧ a.cartMoment? silentConsole (.init "a <- 1") = some (m, "a <- 1")
        ∧ afterAll [(silentConsole, .init "a <- 1")] a = some b
        ∧ b.cartMoment? silentConsole (.init "b <- 2") = some (n, "b <- 2")
        ∧ ∃ result between, n.session.calls = m.session.calls ++ .eval "a <- 1" result :: between
          ∧ ¬ Isolated between := by
  have hrun : afterAll [] (watching unclean {} .empty) = some (watching unclean {} .empty) := rfl
  have h := cart_isolation unclean {} .empty hrun
  refine ⟨_, _, _, _, rfl, rfl, rfl, rfl, ?_⟩
  obtain ⟨result, between, hcalls, hiff⟩ := h.1 (silentConsole, .init "a <- 1")
    (silentConsole, .init "b <- 2") [] _ _ _ _ _ rfl rfl rfl
  refine ⟨result, between, hcalls, hiff.mpr ?_⟩
  have heq : [.start ["TIC-80", "--quiet", "--vanilla"] (.ok ())]
        ++ .eval "a <- 1" (.ok ()) :: [.eval Source.bootFallback (.ok ()), .canRestart false,
          .eval Source.wipe (.error (.eval "cannot clear"))]
      = [InterpreterCall.start ["TIC-80", "--quiet", "--vanilla"] (.ok ())]
        ++ .eval "a <- 1" result :: between := hcalls
  obtain ⟨-, rfl⟩ := List.cons.inj (List.append_cancel_left heq)
  refine ⟨?_, ?_, .eval "cannot clear", by simp⟩
  · rintro ⟨argv, hargv⟩
    simpa using hargv.subset (List.mem_cons_of_mem _ List.mem_cons_self)
  · have hne : Source.wipe ≠ Source.bootFallback := by decide +kernel
    simp [hne]

end Adapter

end RCart
