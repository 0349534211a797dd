import RCart.Proofs.Adapter.Moves

/-!
The moment at which a cart is evaluated.

* `Adapter.ready?`, `cartMoment?`: the adapter of which an operation evaluates a cart, if it does;
* `Adapter.release_cases`, `prepare_of_ok`: what letting go and making ready do to the interpreter;
* `Adapter.calls_of_cartMoment`: from that moment the operation goes on by evaluating the cart.
-/

namespace RCart

namespace Adapter

section Any

variable {σ : Type} [Interpreter σ]

/-- The adapter as it is when its session has been made ready for a cart, if that succeeds. -/
def ready? (console : Console) (a : Adapter σ) : Option (Adapter σ) :=
  a.fillEnvironment.bind fun b =>
    match (b.prepare console).result with
    | .ok () => some (b.prepare console).adapter
    | .error _ => none

/-- The adapter of which an operation evaluates a cart, and the cart: a load does if the session can
be made ready, and so does console input that has to start the interpreter first. -/
def cartMoment? (console : Console) : Operation → Adapter σ → Option (Adapter σ × String)
  | .init code, a => (a.ready? console).map (·, code)
  | .eval code, a => a.fillEnvironment.bind fun b =>
    if b.mustStart.1 then (b.mustStart.2.ready? console).map (·, code) else none
  | _, _ => none

lemma ready?_eq_some_iff {console : Console} {a m : Adapter σ} :
    a.ready? console = some m
      ↔ ∃ b, a.fillEnvironment = some b ∧ (b.prepare console).result = .ok ()
        ∧ (b.prepare console).adapter = m := by
  rw [ready?, Option.bind_eq_some_iff]
  refine exists_congr fun b => and_congr_right fun _ => ?_
  cases (b.prepare console).result with
  | ok u => simp
  | error fault => simp

/-- The two ways to a cart. -/
lemma cartMoment?_cases {console : Console} {operation : Operation} {a m : Adapter σ}
    {code : String} (h : a.cartMoment? console operation = some (m, code)) :
    (operation = .init code ∧ a.ready? console = some m)
      ∨ (operation = .eval code ∧ ∃ b, a.fillEnvironment = some b ∧ b.mustStart.1 = true
        ∧ b.mustStart.2.ready? console = some m) := by
  cases operation with
  | init input =>
      obtain ⟨n, hn, heq⟩ := Option.map_eq_some_iff.mp h
      cases heq
      exact .inl ⟨rfl, hn⟩
  | eval input =>
      obtain ⟨b, hfill, hb⟩ := Option.bind_eq_some_iff.mp h
      split at hb
      · next hmust =>
        obtain ⟨n, hn, heq⟩ := Option.map_eq_some_iff.mp hb
        cases heq
        exact .inr ⟨rfl, b, hfill, hmust, hn⟩
      · cases hb
  | _ => cases h

/-- Console input that has to start the interpreter first is loaded as a cart. -/
lemma eval_of_mustStart {a b : Adapter σ} (hfill : a.fillEnvironment = some b)
    (hmust : b.mustStart.1 = true) (console : Console) (code : String) :
    a.eval console code = (b.mustStart.2.init console code).map fun _ => () := by
  rw [eval, hfill]
  exact if_pos hmust

/-- Any other console input is evaluated, and its errors are shown. -/
lemma eval_of_not_mustStart {a b : Adapter σ} (hfill : a.fillEnvironment = some b)
    (hmust : b.mustStart.1 = false) (console : Console) (code : String) :
    a.eval console code = conclude (b.mustStart.2.runForgiving console code) := by
  rw [eval, hfill]
  exact if_neg (ne_true_of_eq_false hmust)

/-- An interpreter that has to be started is not up. -/
lemma runtime_of_mustStart {a : Adapter σ} (h : a.mustStart.1 = true) :
    a.mustStart.2.session.runtime ≠ .running := by
  rw [mustStart] at h ⊢
  split at h
  · next hruntime => simp [hruntime]
  · next hruntime => simp [hruntime]
  · cases h

/-- An interpreter that is up need not be asked. -/
lemma mustStart_of_running {a : Adapter σ} (h : a.mustStart.2.session.runtime = .running) :
    a.mustStart.2 = a := by
  have hruntime : a.mustStart.2.session.runtime = a.session.runtime := by
    rw [mustStart]
    split <;> rfl
  rw [hruntime] at h
  rw [mustStart, h]

lemma moves_ready {console : Console} {a m : Adapter σ} (h : a.ready? console = some m) :
    a.session.Moves m.session := by
  obtain ⟨b, hfill, -, rfl⟩ := ready?_eq_some_iff.mp h
  rw [← session_of_fillEnvironment hfill]
  exact b.moves_prepare console

/-- A load that has made its session ready goes on with the cart. -/
lemma moves_of_ready {console : Console} {a m : Adapter σ} (h : a.ready? console = some m)
    (code : String) :
    (m.evaluateCart console code).adapter.session.Moves (a.init console code).adapter.session := by
  obtain ⟨b, hfill, hresult, rfl⟩ := ready?_eq_some_iff.mp h
  rw [init_of_fill hfill, session_concludeLoad, load, andThen_of_ok hresult]
  exact moves_andThen (.refl _) (moves_runForgiving console Source.bootFallback)

/-- An operation comes to its cart by moves. -/
lemma moves_to_cartMoment {console : Console} {operation : Operation} {a m : Adapter σ}
    {code : String} (h : a.cartMoment? console operation = some (m, code)) :
    a.session.Moves m.session := by
  rcases cartMoment?_cases h with ⟨-, hready⟩ | ⟨-, b, hfill, -, hready⟩
  · exact moves_ready hready
  · rw [← session_of_fillEnvironment hfill]
    exact b.moves_mustStart.trans (moves_ready hready)

/-- From the moment of its cart an operation goes on with the cart. -/
lemma moves_of_cartMoment {console : Console} {operation : Operation} {a m : Adapter σ}
    {code : String} (h : a.cartMoment? console operation = some (m, code)) :
    (m.evaluateCart console code).adapter.session.Moves
      (a.perform console operation).adapter.session := by
  rcases cartMoment?_cases h with ⟨rfl, hready⟩ | ⟨rfl, b, hfill, hmust, hready⟩
  · exact moves_of_ready hready code
  · change (m.evaluateCart console code).adapter.session.Moves (a.eval console code).adapter.session
    rw [eval_of_mustStart hfill hmust]
    exact moves_of_ready hready code

end Any

/-! ### Evaluating and letting go -/

variable {σ : Type} [Interpreter σ]

lemma calls_evaluate {a : Adapter (Watched σ)} (h : a.session.runtime = .running)
    (console : Console) (code : String) :
    (a.evaluate console code).adapter.session.calls
      = a.session.calls ++ [.eval code (a.evaluate console code).result] :=
  Session.eval_of_running h code _ _

lemma calls_evaluateCart {a : Adapter (Watched σ)} (h : a.session.runtime = .running)
    (console : Console) (code : String) :
    (a.evaluateCart console code).adapter.session.calls
      = a.session.calls ++ [.eval code (a.evaluateCart console code).result] :=
  calls_evaluate (a := a.note _ _) h console code

/-- What letting go of a session does with an interpreter that is up. -/
inductive ReleaseCases (s : Session (Watched σ)) (t : Attempt (Watched σ)) : Prop where
  /-- It can come back and is shut down. -/
  | stopped (hyes : s.canRestart.1 = true) (hresult : t.result = .ok ())
    (hruntime : t.adapter.session.runtime = .shutDown)
    (hattached : t.adapter.session.attached = false)
    (hcalls : t.adapter.session.calls = s.calls ++ [.canRestart true, .stop])
  /-- It cannot, and is wiped. Only what is not an error of the cart counts as a failure. -/
  | wiped (hno : s.canRestart.1 = false) (result : Except Fault Unit)
    (hresult : t.result = forgive result) (hruntime : t.adapter.session.runtime = .running)
    (hattached : t.adapter.session.attached = false)
    (hcalls : t.adapter.session.calls
      = s.calls ++ [.canRestart false, .eval Source.wipe result])

lemma release_cases {a : Adapter (Watched σ)} (hup : a.session.runtime = .running)
    (console : Console) : ReleaseCases a.session (a.release console) := by
  have hcalls := a.session.calls_canRestart
  cases h : a.session.canRestart.1 with
  | true =>
      rw [h] at hcalls
      rw [release_of_canRestart h]
      obtain ⟨hshut, hfree, hstop⟩ := Session.stop_of_running (s := a.session.canRestart.2) hup
      refine .stopped h rfl hshut hfree ?_
      rw [done, session_shutDown, session_asked, hstop, hcalls, List.append_assoc]
      rfl
  | false =>
      rw [h] at hcalls
      rw [release_of_not_canRestart h]
      have hwipe := calls_evaluate (a := a.asked) hup console Source.wipe
      refine .wiped h _ (a.asked.result_wipeAndDetach console) ?_ rfl ?_
      · rw [session_wipeAndDetach]
        exact (runtime_evaluate console Source.wipe a.asked).trans hup
      · rw [session_wipeAndDetach]
        refine hwipe.trans ?_
        rw [session_asked, hcalls, List.append_assoc]
        rfl

lemma releaseAttached_cases {a : Adapter (Watched σ)} (hup : a.session.runtime = .running)
    (hattached : a.session.attached = true) (console : Console) :
    ReleaseCases a.session (a.releaseAttached console) := by
  rw [releaseAttached, if_pos hattached]
  exact release_cases (a := a.note _ _) hup console

/-! ### Making ready -/

/-- Defining the forwarders of keywords evaluates them, in order, and does nothing else. -/
lemma calls_defineForwarders (console : Console) (keywords : List String) {a : Adapter (Watched σ)}
    (hup : a.session.runtime = .running)
    (hok : (defineForwarders console keywords a).result = .ok ()) :
    let b := (defineForwarders console keywords a).adapter
    b.session.runtime = .running
      ∧ ∃ added, List.Forall₂ InterpreterCall.Evaluates (keywords.map Source.forwarder) added
        ∧ b.session.calls = a.session.calls ++ added := by
  induction keywords generalizing a with
  | nil => exact ⟨hup, [], .nil, (List.append_nil _).symm⟩
  | cons keyword rest ih =>
      obtain ⟨hfirst, hrest, heq⟩ := ok_of_andThen hok
      rw [defineForwarders, heq]
      have hsession := a.session_runForgiving console (Source.forwarder keyword)
      obtain ⟨hrunning, added, hadded, hcalls⟩ :=
        ih (by rw [hsession, runtime_evaluate, hup]) hrest
      refine ⟨hrunning, .eval (Source.forwarder keyword)
        (a.evaluate console (Source.forwarder keyword)).result :: added, .cons ⟨_, rfl⟩ hadded, ?_⟩
      rw [hcalls, hsession, calls_evaluate hup, List.append_assoc, List.singleton_append]

/-- After a start that succeeds the interpreter is up, be it that it was up or that it came up, and
the session is attached. -/
lemma start_of_ok {a : Adapter (Watched σ)} (hok : a.start.result = .ok ()) :
    let s := a.start.adapter.session
    s.runtime = .running ∧ s.attached = true
      ∧ (a.session.runtime = .running ∧ s.calls = a.session.calls
        ∨ a.session.runtime ≠ .running
          ∧ ∃ asked argv, s.calls = a.session.calls ++ asked ++ [.start argv (.ok ())]) := by
  rw [result_start] at hok
  rw [session_start]
  cases Session.start_cases a.settings.argv a.settings.maxStartAttempts a.session with
  | held hruntime ht =>
      rw [ht]
      exact ⟨hruntime, rfl, .inl ⟨hruntime, rfl⟩⟩
  | refused hruntime hno ht =>
      rw [ht] at hok
      cases hok
  | cameUp hruntime faults h =>
      refine ⟨h.runtime, h.attached, .inr ⟨hruntime,
        Session.permission a.session.runtime ++ failedStarts a.settings.argv faults,
        a.settings.argv, ?_⟩⟩
      rw [h.calls]
      simp only [List.append_assoc]
  | gaveUp hruntime faults h =>
      rw [h.result] at hok
      cases hok

/-- A start that fails leaves the interpreter as it was, and it was not up. -/
lemma start_of_error {a : Adapter (Watched σ)} {fault : Fault} (h : a.start.result = .error fault) :
    a.session.runtime ≠ .running ∧ a.start.adapter.session.runtime = a.session.runtime := by
  rw [result_start] at h
  rw [session_start]
  cases Session.start_cases a.settings.argv a.settings.maxStartAttempts a.session with
  | held hruntime ht =>
      rw [ht] at h
      cases h
  | refused hruntime hno ht =>
      rw [ht, hruntime]
      exact ⟨by decide, hruntime⟩
  | cameUp hruntime faults hup =>
      rw [hup.result] at h
      cases h
  | gaveUp hruntime faults hdown => exact ⟨hruntime, hdown.runtime⟩

/-- A start never ends because the interpreter cannot go on. -/
lemma start_ne_fatal (a : Adapter (Watched σ)) (reason : String) :
    a.start.result ≠ .error (.fatal reason) := by
  rw [result_start]
  cases Session.start_cases a.settings.argv a.settings.maxStartAttempts a.session with
  | held hruntime ht =>
      rw [ht]
      nofun
  | refused hruntime hno ht =>
      rw [ht]
      nofun
  | cameUp hruntime faults hup =>
      rw [hup.result]
      nofun
  | gaveUp hruntime faults hdown =>
      rw [hdown.result]
      nofun

/-- What loading has gone through when its session is ready: what was attached is let go, the
interpreter is started, and the forwarders are evaluated. -/
lemma prepare_of_ok {console : Console} {a : Adapter (Watched σ)}
    (hok : (a.prepare console).result = .ok ()) :
    let t := a.releaseAttached console
    let b := (a.prepare console).adapter
    t.result = .ok () ∧ t.adapter.start.result = .ok ()
      ∧ b.session.runtime = .running ∧ b.session.attached = true
      ∧ ∃ added,
          List.Forall₂ InterpreterCall.Evaluates (console.keywords.map Source.forwarder) added
        ∧ b.session.calls = t.adapter.start.adapter.session.calls ++ added := by
  obtain ⟨hstarted, hforwarders, heq⟩ := ok_of_andThen hok
  obtain ⟨hreleased, hstart, heq'⟩ := ok_of_andThen hstarted
  rw [heq'] at hforwarders
  obtain ⟨hrunning, hattached, -⟩ := start_of_ok hstart
  obtain ⟨hup, hadded⟩ := calls_defineForwarders console console.keywords hrunning hforwarders
  rw [prepare, heq, heq']
  exact ⟨hreleased, hstart, hup, (attached_defineForwarders _ _ _).trans hattached, hadded⟩

/-- A cart is evaluated by an interpreter that is up, for a session that is attached. -/
lemma held_of_cartMoment {console : Console} {operation : Operation} {a m : Adapter (Watched σ)}
    {code : String} (h : a.cartMoment? console operation = some (m, code)) :
    m.session.runtime = .running ∧ m.session.attached = true := by
  have hready : ∃ b : Adapter (Watched σ), b.ready? console = some m := by
    rcases cartMoment?_cases h with ⟨-, hready⟩ | ⟨-, b, -, -, hready⟩
    · exact ⟨a, hready⟩
    · exact ⟨b.mustStart.2, hready⟩
  obtain ⟨b, hready⟩ := hready
  obtain ⟨c, -, hresult, rfl⟩ := ready?_eq_some_iff.mp hready
  obtain ⟨-, -, hup, hattached, -⟩ := prepare_of_ok hresult
  exact ⟨hup, hattached⟩

/-- From the moment of its cart an operation goes on by evaluating it. -/
lemma calls_of_cartMoment {console : Console} {operation : Operation} {a m : Adapter (Watched σ)}
    {code : String} (h : a.cartMoment? console operation = some (m, code)) :
    m.session.calls ++ [.eval code (m.evaluateCart console code).result]
      <+: (a.perform console operation).adapter.session.calls := by
  rw [← calls_evaluateCart (held_of_cartMoment h).1]
  exact (moves_of_cartMoment h).reaches.calls_prefix

end Adapter

end RCart
