import Mathlib.Data.List.Induction
import RCart.Interpreter.Recorder
import RCart.Proofs.Adapter.Cart
import RCart.Proofs.Adapter.Contract

/-!
What the globals hold when a cart is evaluated.

An interpreter starts with nothing in its globals, and wiping them leaves nothing. What was
evaluated since then is what a new cart can find there.

* `slate`: the snippets evaluated since the interpreter came up or was wiped, whichever is later;
* `Adapter.slate_of_ready`: when a session is ready, the slate has the forwarders, and before them
  only what was evaluated while the interpreter was up and nobody held on to the session;
* **`Adapter.slate_of_cartMoment`**: along every run, that is what the console has typed meanwhile.
-/

namespace RCart

/-! ### The slate -/

/-- The slate after one more call. -/
def slateAfter (evaluated : List String) : InterpreterCall → List String
  | .start _ (.ok ()) => []
  | .eval code (.ok ()) => if code = Source.wipe then [] else evaluated ++ [code]
  | .eval code (.error _) => evaluated ++ [code]
  | .start _ (.error _) | .stop | .canRestart _ => evaluated

/-- The snippets that were evaluated since the interpreter last came up or was wiped without an
error. -/
def slate (calls : List InterpreterCall) : List String :=
  calls.foldl slateAfter []

lemma slate_concat (calls : List InterpreterCall) (call : InterpreterCall) :
    slate (calls ++ [call]) = slateAfter (slate calls) call := by
  rw [slate, List.foldl_append]
  rfl

lemma slate_start (calls : List InterpreterCall) (argv : List String) :
    slate (calls ++ [.start argv (.ok ())]) = [] := by
  rw [slate_concat]
  rfl

lemma slate_wipe (calls : List InterpreterCall) :
    slate (calls ++ [.eval Source.wipe (.ok ())]) = [] := by
  rw [slate_concat, slateAfter, if_pos rfl]

/-- Whatever is evaluated other than a wipe is on the slate. -/
lemma slate_eval_of_ne {code : String} (h : code ≠ Source.wipe) (calls : List InterpreterCall)
    (result : Except Fault Unit) :
    slate (calls ++ [.eval code result]) = slate calls ++ [code] := by
  rw [slate_concat]
  cases result with
  | ok u => exact if_neg h
  | error fault => rfl

/-- A forwarder is not a wipe: it ends differently. -/
lemma forwarder_ne_wipe (keyword : String) : Source.forwarder keyword ≠ Source.wipe := by
  have hend : ∀ text : String,
      (text ++ ", list(...))").toList.reverse.take 3 = [')', ')', '.'] := by
    intro text
    rw [String.toList_append, List.reverse_append]
    rfl
  intro h
  have hforwarder : (Source.forwarder keyword).toList.reverse.take 3 = [')', ')', '.'] := hend _
  rw [h] at hforwarder
  exact absurd hforwarder (by decide +kernel)

/-- Evaluating forwarders writes them on the slate. -/
lemma slate_append_forwarders (keywords : List String) {added : List InterpreterCall}
    (h : List.Forall₂ InterpreterCall.Evaluates (keywords.map Source.forwarder) added)
    (calls : List InterpreterCall) :
    slate (calls ++ added) = slate calls ++ keywords.map Source.forwarder := by
  induction keywords generalizing added calls with
  | nil =>
      cases h
      rw [List.append_nil, List.map_nil, List.append_nil]
  | cons keyword rest ih =>
      cases h with
      | cons hcall hlater =>
          obtain ⟨result, rfl⟩ := hcall
          rw [List.append_cons, ih hlater, slate_eval_of_ne (forwarder_ne_wipe keyword),
            List.map_cons, List.append_assoc, List.singleton_append]

/-- No wipe has ended in an error. -/
def WipesSucceed (calls : List InterpreterCall) : Prop :=
  ∀ result, .eval Source.wipe result ∈ calls → result = .ok ()

lemma WipesSucceed.of_prefix {first calls : List InterpreterCall} (h : WipesSucceed calls)
    (hle : first <+: calls) : WipesSucceed first :=
  fun result hmem => h result (hle.subset hmem)

/-- What is typed into the console with an operation, if anything is. -/
def Operation.typed? : Operation → Option String
  | .eval code => some code
  | _ => none

/-- Whether the interpreter is up while nobody holds on to the session. -/
def Session.isIdle {σ : Type} (s : Session σ) : Bool :=
  s.runtime == .running && !s.attached

lemma Session.isIdle_iff {σ : Type} {s : Session σ} :
    s.isIdle = true ↔ s.runtime = .running ∧ s.attached = false := by
  rw [isIdle, Bool.and_eq_true, beq_iff_eq, Bool.not_eq_true']

lemma Session.isIdle_of_attached {σ : Type} {s : Session σ} (h : s.attached = true) :
    s.isIdle = false := by
  rw [isIdle, h, Bool.not_true, Bool.and_false]

lemma Session.isIdle_of_down {σ : Type} {s : Session σ} (h : s.runtime ≠ .running) :
    s.isIdle = false := by
  rw [isIdle, beq_false_of_ne h, Bool.false_and]

namespace Adapter

variable {σ : Type} [Interpreter σ]

/-! ### Making ready -/

/-- When a session is ready, the slate has the forwarders, and before them what was on it if the
session was idle: otherwise the interpreter was wiped, or has just come up. -/
lemma slate_of_ready {console : Console} {a m : Adapter (Watched σ)}
    (hready : a.ready? console = some m) (hstep : a.session.InStep)
    (hwipes : WipesSucceed m.session.calls) :
    slate m.session.calls
      = (if a.session.isIdle then slate a.session.calls else [])
        ++ console.keywords.map Source.forwarder := by
  obtain ⟨b, hfill, hresult, rfl⟩ := ready?_eq_some_iff.mp hready
  rw [← session_of_fillEnvironment hfill] at hstep ⊢
  obtain ⟨hreleased, hstart, -, -, added, hadded, hcalls⟩ := prepare_of_ok hresult
  obtain ⟨-, -, hstarted⟩ := start_of_ok hstart
  rw [hcalls] at hwipes ⊢
  rw [slate_append_forwarders _ hadded]
  congr 1
  cases hattached : b.session.attached with
  | true =>
      have hup := hstep.attached hattached
      rw [Session.isIdle_of_attached hattached, if_neg Bool.false_ne_true]
      obtain ⟨hrunning, hsame⟩ | ⟨-, asked, argv, hcame⟩ := hstarted
      · cases releaseAttached_cases hup hattached console with
        | stopped _ _ hshut =>
            rw [hshut] at hrunning
            cases hrunning
        | wiped _ result _ _ _ hwiped =>
            rw [hsame, hwiped] at hwipes ⊢
            obtain rfl := hwipes result (by simp)
            rw [List.append_cons, slate_wipe]
      · rw [hcame, slate_start]
  | false =>
      rw [releaseAttached_of_detached hattached] at hstarted ⊢
      obtain ⟨hrunning, hsame⟩ | ⟨hdown, asked, argv, hcame⟩ := hstarted
      · have hidle : b.session.isIdle = true := Session.isIdle_iff.mpr ⟨hrunning, hattached⟩
        rw [hsame, if_pos hidle]
        rfl
      · rw [hcame, slate_start, if_neg]
        rw [Bool.not_eq_true]
        exact Session.isIdle_of_down hdown

/-! ### Idle sessions -/

/-- Letting go fails only if a wipe does. -/
lemma releaseAttached_ok {a : Adapter (Watched σ)} (hstep : a.session.InStep) {console : Console}
    (hwipes : WipesSucceed (a.releaseAttached console).adapter.session.calls) :
    (a.releaseAttached console).result = .ok () := by
  cases hattached : a.session.attached with
  | true =>
      cases releaseAttached_cases (hstep.attached hattached) hattached console with
      | stopped _ hresult => exact hresult
      | wiped _ result hresult _ _ hcalls =>
          rw [hcalls] at hwipes
          rw [hresult, hwipes result (by simp)]
          rfl
  | false =>
      rw [releaseAttached_of_detached hattached]
      rfl

/-- Loading leaves no session idle: it is attached, or the interpreter is not up. -/
lemma not_idle_load {a : Adapter (Watched σ)} (hstep : a.session.InStep) {console : Console}
    {code : String} (hwipes : WipesSucceed (a.load console code).adapter.session.calls) :
    (a.load console code).adapter.session.isIdle = false := by
  cases hprepare : (a.prepare console).result with
  | ok u =>
      obtain ⟨-, -, -, hattached, -⟩ := prepare_of_ok hprepare
      have hcart : ((a.prepare console).adapter.evaluateCart console code).adapter.session.attached
          = true := (attached_evaluate console code _).trans hattached
      apply Session.isIdle_of_attached
      rw [load, andThen_of_ok hprepare]
      cases hresult : ((a.prepare console).adapter.evaluateCart console code).result with
      | ok u => rw [andThen_of_ok hresult, session_runForgiving, attached_evaluate, hcart]
      | error fault => rw [andThen_of_error hresult, hcart]
  | error fault =>
      have hload := load_of_prepare_error hprepare code
      have hrelease : (a.releaseAttached console).result = .ok () :=
        releaseAttached_ok hstep (hwipes.of_prefix
          (moves_load_of_released console code a).reaches.calls_prefix)
      rw [hload, prepare, andThen_of_ok hrelease]
      cases hstart : (a.releaseAttached console).adapter.start.result with
      | ok u =>
          obtain ⟨-, hattached, -⟩ := start_of_ok hstart
          apply Session.isIdle_of_attached
          rw [andThen_of_ok hstart, attached_defineForwarders, hattached]
      | error fault =>
          obtain ⟨hdown, hsame⟩ := start_of_error hstart
          apply Session.isIdle_of_down
          rw [andThen_of_error hstart, hsame]
          exact hdown

lemma not_idle_init {a : Adapter (Watched σ)} (hstep : a.session.InStep) {console : Console}
    {code : String} (hreturned : ∃ answer, (a.init console code).ending = .returned answer)
    (hwipes : WipesSucceed (a.init console code).adapter.session.calls) :
    (a.init console code).adapter.session.isIdle = false := by
  cases hfill : a.fillEnvironment with
  | none =>
      rw [init, hfill] at hreturned
      obtain ⟨answer, hanswer⟩ := hreturned
      cases hanswer
  | some b =>
      rw [init_of_fill hfill, session_concludeLoad] at hwipes ⊢
      rw [← session_of_fillEnvironment hfill] at hstep
      exact not_idle_load hstep hwipes

/-- Where a call leaves an idle session, it has done nothing. -/
lemma session_call_of_idle {a : Adapter (Watched σ)} {console : Console}
    {request : Source.GuardedCall}
    (hidle : (a.call console request).adapter.session.isIdle = true) :
    (a.call console request).adapter.session = a.session := by
  rw [call] at hidle ⊢
  split at hidle
  · next hactive =>
    have hattached : a.session.attached = true := (Bool.and_eq_true_iff.mp hactive).1
    rw [session_conclude, session_runForgiving, Session.isIdle_of_attached] at hidle
    · cases hidle
    · rw [attached_evaluate, hattached]
  · next hactive => rw [if_neg hactive]; rfl

/-- Where a close leaves an idle session, it has wiped it, or has done nothing. -/
lemma slate_close {a : Adapter (Watched σ)} (hstep : a.session.InStep) {console : Console}
    (hidle : (a.close console).adapter.session.isIdle = true)
    (hwipes : WipesSucceed (a.close console).adapter.session.calls) :
    slate (a.close console).adapter.session.calls = []
      ∨ (a.close console).adapter.session = a.session := by
  rw [close] at hidle hwipes ⊢
  cases hattached : a.session.attached with
  | true =>
      rw [if_pos hattached, session_conclude] at hidle hwipes
      rw [if_pos rfl, session_conclude]
      cases release_cases (hstep.attached hattached) console with
      | stopped _ _ hshut =>
          rw [Session.isIdle_iff, hshut] at hidle
          cases hidle.1
      | wiped _ result _ _ _ hcalls =>
          rw [hcalls] at hwipes ⊢
          obtain rfl := hwipes result (by simp)
          rw [List.append_cons, slate_wipe]
          exact .inl rfl
  | false => exact .inr rfl

/-- Where console input leaves an idle session, it was typed into one. -/
lemma slate_eval {a : Adapter (Watched σ)} (hstep : a.session.InStep) {console : Console}
    {code : String} (hreturned : ∃ answer, (a.eval console code).ending = .returned answer)
    (hidle : (a.eval console code).adapter.session.isIdle = true)
    (hwipes : WipesSucceed (a.eval console code).adapter.session.calls) :
    slate (a.eval console code).adapter.session.calls = []
      ∨ a.session.isIdle = true
        ∧ slate (a.eval console code).adapter.session.calls = slate a.session.calls ++ [code] := by
  cases hfill : a.fillEnvironment with
  | none =>
      rw [eval, hfill] at hreturned
      obtain ⟨answer, hanswer⟩ := hreturned
      cases hanswer
  | some b =>
      have hsession := session_of_fillEnvironment hfill
      have hstep' : b.mustStart.2.session.InStep :=
        b.moves_mustStart.reaches.inStep (hsession ▸ hstep)
      cases hmust : b.mustStart.1 with
      | true =>
          rw [eval_of_mustStart hfill hmust] at hreturned hidle hwipes
          have hinit := Outcome.returned_map_iff.mp hreturned
          cases hidle.symm.trans (not_idle_init hstep' hinit hwipes)
      | false =>
          rw [eval_of_not_mustStart hfill hmust] at hidle hwipes ⊢
          simp only [session_conclude, session_runForgiving] at hidle hwipes ⊢
          obtain ⟨hup, hattached⟩ := Session.isIdle_iff.mp hidle
          rw [runtime_evaluate] at hup
          rw [attached_evaluate] at hattached
          have hsame : b.mustStart.2.session = a.session := by
            rw [mustStart_of_running hup, hsession]
          rw [calls_evaluate hup] at hwipes ⊢
          by_cases hcode : code = Source.wipe
          · subst hcode
            have hok : (b.mustStart.2.evaluate console Source.wipe).result = .ok () :=
              hwipes _ (List.mem_append_right _ List.mem_cons_self)
            rw [hok, slate_wipe]
            exact .inl rfl
          · rw [slate_eval_of_ne hcode, hsame]
            exact .inr ⟨Session.isIdle_iff.mpr ⟨hsame ▸ hup, hsame ▸ hattached⟩, rfl⟩

/-- An operation leaves an idle session only where it has let go of one, nothing being on the slate,
or where it found one, and then it has written at most what was typed. -/
lemma slate_perform {console : Console} {operation : Operation} {a b : Adapter (Watched σ)}
    (hstep : a.session.InStep) (hnext : (a.perform console operation).next? = some b)
    (hidle : b.session.isIdle = true) (hwipes : WipesSucceed b.session.calls) :
    slate b.session.calls = []
      ∨ a.session.isIdle = true
        ∧ slate b.session.calls = slate a.session.calls ++ operation.typed?.toList := by
  obtain ⟨hreturned, rfl⟩ := Outcome.next?_eq_some_iff.mp hnext
  -- an operation that types nothing and leaves the session as it was
  have hsame : ∀ s : Session (Watched σ), s = a.session → s.isIdle = true →
      slate s.calls = []
        ∨ a.session.isIdle = true ∧ slate s.calls = slate a.session.calls ++ [] := by
    rintro s rfl h
    exact .inr ⟨h, (List.append_nil _).symm⟩
  cases operation with
  | init code =>
      have hinit := Outcome.returned_map_iff.mp hreturned
      cases hidle.symm.trans (not_idle_init hstep hinit hwipes)
  | close => exact (slate_close hstep hidle hwipes).elim .inl fun h => hsame _ h hidle
  | tick => exact hsame _ (session_call_of_idle hidle) hidle
  | boot => exact hsame _ (session_call_of_idle hidle) hidle
  | menu index data => exact hsame _ (session_call_of_idle (a := a.note _ _) hidle) hidle
  | border row data => exact hsame _ (session_call_of_idle (a := a.note _ _) hidle) hidle
  | scanline row data => exact hsame _ (session_call_of_idle (a := a.note _ _) hidle) hidle
  | eval code => exact slate_eval hstep (Outcome.returned_map_iff.mp hreturned) hidle hwipes
  | invoke request => exact hsame _ (session_call_of_idle hidle) hidle
  | outline code => exact hsame _ rfl hidle

/-! ### Runs -/

/-- A run from `start` ends with a stretch of operations along which the session is idle, before the
first, between them and after the last. -/
def EndsIdle (start : Adapter σ) (run stretch : List (Console × Operation)) : Prop :=
  ∃ earlier b, run = earlier ++ stretch ∧ afterAll earlier start = some b
    ∧ ∀ first, first <+: stretch → ∀ c, afterAll first b = some c → c.session.isIdle = true

/-- What is on the slate of an idle session was typed along an idle stretch. -/
lemma exists_endsIdle {start : Adapter (Watched σ)} (hstep : start.session.InStep)
    (hdown : start.session.isIdle = false) {run : List (Console × Operation)}
    {a : Adapter (Watched σ)} (hrun : afterAll run start = some a)
    (hidle : a.session.isIdle = true) (hwipes : WipesSucceed a.session.calls) :
    ∃ stretch, EndsIdle start run stretch
      ∧ slate a.session.calls = stretch.filterMap fun asked => asked.2.typed? := by
  induction run using List.reverseRecOn generalizing a with
  | nil =>
      obtain rfl := Option.some.inj hrun
      cases hidle.symm.trans hdown
  | append_singleton run asked ih =>
      have hrun' := hrun
      rw [afterAll_append] at hrun'
      obtain ⟨b, hb, hlast⟩ := Option.bind_eq_some_iff.mp hrun'
      obtain ⟨c, hnext, hc⟩ := Option.bind_eq_some_iff.mp hlast
      obtain rfl := Option.some.inj hc
      have hstep' := (moves_afterAll hb).reaches.inStep hstep
      rcases slate_perform hstep' hnext hidle hwipes with hempty | ⟨hidle', htyped⟩
      · -- the stretch starts here
        refine ⟨[], ⟨run ++ [asked], c, (List.append_nil _).symm, hrun, ?_⟩, hempty⟩
        intro first hfirst d hd
        obtain rfl := List.prefix_nil.mp hfirst
        obtain rfl := Option.some.inj hd
        exact hidle
      · -- the stretch goes on
        have hle := (moves_perform asked.1 asked.2 b).reaches.calls_prefix
        rw [(Outcome.next?_eq_some_iff.mp hnext).2] at hle
        obtain ⟨stretch, ⟨earlier, d, rfl, hd, hstretch⟩, hslate⟩ :=
          ih hb hidle' (hwipes.of_prefix hle)
        refine ⟨stretch ++ [asked], ⟨earlier, d, by simp, hd, ?_⟩, ?_⟩
        · intro first hfirst e he
          rcases List.prefix_concat_iff.mp hfirst with rfl | hfirst
          · rw [List.append_assoc, afterAll_append, hd] at hrun
            obtain rfl := Option.some.inj (he.symm.trans hrun)
            exact hidle
          · exact hstretch first hfirst e he
        · have hasked :
              [asked].filterMap (fun asked => asked.2.typed?) = asked.2.typed?.toList := by
            cases h : asked.2.typed? <;> simp [h]
          rw [htyped, hslate, List.filterMap_append, hasked]

/-- **The slate of a new cart**, for every interpreter and every run.

When an operation comes to its cart, and no wipe has ended in an error so far, the interpreter has
evaluated since it last came up or was wiped: what was typed along a stretch of the run, up to this
operation, in which the session was idle; and then the forwarders of this operation. Nothing else is
on the slate, and the operation goes on by evaluating the cart. -/
theorem slate_of_cartMoment (interpreter : σ) (settings : Settings) (env : Environment)
    {run : List (Console × Operation)} {a m : Adapter (Watched σ)} {console : Console}
    {operation : Operation} {code : String}
    (hrun : afterAll run (watching interpreter settings env) = some a)
    (hmoment : a.cartMoment? console operation = some (m, code))
    (hwipes : WipesSucceed m.session.calls) :
    (∃ result, m.session.calls ++ [.eval code result]
        <+: (a.perform console operation).adapter.session.calls)
      ∧ ∃ typed, slate m.session.calls = typed ++ console.keywords.map Source.forwarder
        ∧ (typed = [] ∨ ∃ stretch, EndsIdle (watching interpreter settings env) run stretch
          ∧ typed = stretch.filterMap fun asked => asked.2.typed?) := by
  have hstep : a.session.InStep :=
    (moves_afterAll hrun).reaches.inStep (Session.inStep_watching interpreter)
  refine ⟨⟨_, calls_of_cartMoment hmoment⟩, ?_⟩
  rcases cartMoment?_cases hmoment with ⟨rfl, hready⟩ | ⟨rfl, b, hfill, hmust, hready⟩
  · have hslate := slate_of_ready hready hstep hwipes
    cases hidle : a.session.isIdle with
    | true =>
        rw [hidle, if_pos rfl] at hslate
        obtain ⟨stretch, hstretch, htyped⟩ :=
          exists_endsIdle (Session.inStep_watching interpreter) rfl hrun hidle
            (hwipes.of_prefix (moves_ready hready).reaches.calls_prefix)
        exact ⟨_, hslate, .inr ⟨stretch, hstretch, htyped⟩⟩
    | false =>
        rw [hidle, if_neg Bool.false_ne_true] at hslate
        exact ⟨[], hslate, .inl rfl⟩
  · -- what has to be started was not up
    have hidle := Session.isIdle_of_down (runtime_of_mustStart hmust)
    rw [← session_of_fillEnvironment hfill] at hstep
    have hslate := slate_of_ready hready (b.moves_mustStart.reaches.inStep hstep) hwipes
    rw [hidle, if_neg Bool.false_ne_true] at hslate
    exact ⟨[], hslate, .inl rfl⟩

/-- A console with one function. -/
def clsConsole : Console :=
  { keywords := ["cls"] }

/-- A cart is closed, and input is typed before the next one. -/
def typedBetweenCarts : List (Console × Operation) :=
  [(clsConsole, .init "a <- 1"), (clsConsole, .close), (clsConsole, .eval "x <- 1")]

/-- The calls of that run, up to the next cart. -/
def callsBetweenCarts : List InterpreterCall :=
  [.start ["TIC-80", "--quiet", "--vanilla"] (.ok ()), .eval (Source.forwarder "cls") (.ok ()),
    .eval "a <- 1" (.ok ()), .eval Source.bootFallback (.ok ()), .canRestart false,
    .eval Source.wipe (.ok ()), .eval "x <- 1" (.ok ()), .eval (Source.forwarder "cls") (.ok ())]

lemma ok_of_mem_callsBetweenCarts {code : String} {result : Except Fault Unit}
    (h : .eval code result ∈ callsBetweenCarts) : result = .ok () := by
  simp only [callsBetweenCarts, List.mem_cons, List.not_mem_nil, InterpreterCall.eval.injEq,
    reduceCtorEq, false_or, or_false] at h
  grind

/-- The forwarders need not be all that is on the slate: an interpreter that cannot be restarted is
left running by a close, and evaluates what is typed; the next load has nothing to let go. -/
theorem slate_not_only_forwarders :
    ∃ a m : Adapter (Watched Recorder),
      afterAll typedBetweenCarts (watching ({} : Recorder) {} .empty) = some a
        ∧ a.cartMoment? clsConsole (.init "b <- 2") = some (m, "b <- 2")
        ∧ (∀ code result, .eval code result ∈ m.session.calls → result = .ok ())
        ∧ slate m.session.calls = ["x <- 1", Source.forwarder "cls"]
        ∧ slate m.session.calls ≠ clsConsole.keywords.map Source.forwarder := by
  refine ⟨_, _, rfl, rfl, ?_, rfl, by decide +kernel⟩
  exact fun code result => ok_of_mem_callsBetweenCarts

/-- What was typed between the two carts is all that the second finds besides the forwarders. -/
theorem slate_of_typedBetweenCarts :
    ∃ a m : Adapter (Watched Recorder),
      afterAll typedBetweenCarts (watching ({} : Recorder) {} .empty) = some a
        ∧ a.cartMoment? clsConsole (.init "b <- 2") = some (m, "b <- 2")
        ∧ WipesSucceed m.session.calls
        ∧ (∃ result, m.session.calls ++ [.eval "b <- 2" result]
          <+: (a.perform clsConsole (.init "b <- 2")).adapter.session.calls)
        ∧ ∃ typed, slate m.session.calls = typed ++ clsConsole.keywords.map Source.forwarder
          ∧ (typed = [] ∨ ∃ stretch,
            EndsIdle (watching ({} : Recorder) {} .empty) typedBetweenCarts stretch
              ∧ typed = stretch.filterMap fun asked => asked.2.typed?) := by
  have hwipes : WipesSucceed callsBetweenCarts := fun result => ok_of_mem_callsBetweenCarts
  exact ⟨_, _, rfl, rfl, hwipes, slate_of_cartMoment ({} : Recorder) {} .empty rfl rfl hwipes⟩

end Adapter

end RCart
