import RCart.Proofs.Adapter.Alike
import RCart.Proofs.Adapter.Stride
import RCart.Proofs.Adapter.Upright
import RCart.Proofs.Environment.Fill

/-!
Console input that starts the interpreter.

* `Recorder.kills`, `upToDeath`, `loaded`: the snippets that are evaluated one after another, up to
  one that kills the recorder, and those of a load;
* `Recorder.Forgiven`: evaluations of which the errors are forgiven end in success or death;
* `Adapter.Evaluating`: the recorder is up, and has evaluated the given snippets;
* `Adapter.evaluated_loadFresh`: what loading over nothing evaluates, and whether the recorder
  lives;
* `Adapter.eval_alike_init`: console input that must start the interpreter goes as a load goes, over
  any interpreter;
* `Adapter.NeedsStart`: the interpreter has to be started first, and can be;
* **`Adapter.eval_is_init`**: console input that has to start the interpreter is loaded as a cart,
  any other is evaluated and nothing else;
* `Adapter.eval_starts_without_code`: but a forwarder may kill the recorder before the code.
-/

namespace RCart

/-! ### Snippets -/

namespace Recorder

/-- Whether a piece of code kills a recorder with the given reactions. -/
def kills (reactions : List (String × Reaction)) (code : String) : Bool :=
  match verdict (fired code reactions) with
  | .error (.fatal _) => true
  | _ => false

/-- The snippets that are evaluated, of some that come one after another: those up to the first that
kills the recorder. -/
def upToDeath (reactions : List (String × Reaction)) (snippets : List String) : List String :=
  snippets.takeWhile (!kills reactions ·) ++ (snippets.dropWhile (!kills reactions ·)).take 1

/-- The snippets that a recorder evaluates when it has come up for a cart: the forwarders; then, if
none of them has killed it, the cart; and then, if that has succeeded, the fallback for `BOOT`. -/
def loaded (reactions : List (String × Reaction)) (keywords : List String) (code : String) :
    List String :=
  let forwarders := keywords.map Source.forwarder
  upToDeath reactions forwarders
    ++ if forwarders.any (kills reactions) then []
      else code :: if (verdict (fired code reactions)).isOk then [Source.bootFallback] else []

variable {reactions : List (String × Reaction)} {snippet : String}

lemma upToDeath_cons_of_kills (h : kills reactions snippet = true) (rest : List String) :
    upToDeath reactions (snippet :: rest) = [snippet] := by
  simp [upToDeath, h]

lemma upToDeath_cons_of_not_kills (h : kills reactions snippet = false) (rest : List String) :
    upToDeath reactions (snippet :: rest) = snippet :: upToDeath reactions rest := by
  simp [upToDeath, h]

/-- If one of some snippets kills the recorder, it is evaluated. -/
lemma any_upToDeath (reactions : List (String × Reaction)) (snippets : List String) :
    (upToDeath reactions snippets).any (kills reactions) = snippets.any (kills reactions) := by
  induction snippets with
  | nil => rfl
  | cons snippet rest ih =>
      cases h : kills reactions snippet with
      | true =>
          rw [upToDeath_cons_of_kills h, List.any_cons, List.any_cons, h, Bool.true_or,
            Bool.true_or]
      | false => rw [upToDeath_cons_of_not_kills h, List.any_cons, List.any_cons, ih]

lemma kills_iff (reactions : List (String × Reaction)) (code : String) :
    kills reactions code = true
      ↔ ∃ reason, verdict (fired code reactions) = .error (.fatal reason) := by
  rw [kills]
  obtain h | ⟨reason, h⟩ | ⟨reason, -, h⟩ := verdict_cases (fired code reactions)
  all_goals
    rw [h]
    simp

/-- How evaluations end of which the errors of the cart are forgiven: with success, unless the
recorder has been killed. -/
inductive Forgiven : Bool → Except Fault Unit → Prop
  | lives : Forgiven false (.ok ())
  | dies (reason : String) : Forgiven true (.error (.fatal reason))

lemma Forgiven.fatal_iff {died : Bool} {result : Except Fault Unit} (h : Forgiven died result) :
    (∃ reason, result = .error (.fatal reason)) ↔ died = true := by
  cases h with
  | lives => simp
  | dies reason => simp

lemma forgiven_verdict (reactions : List (String × Reaction)) (code : String) :
    Forgiven (kills reactions code) (forgive (verdict (fired code reactions))) := by
  rw [kills]
  obtain h | ⟨reason, h⟩ | ⟨reason, -, h⟩ := verdict_cases (fired code reactions)
  all_goals rw [h]
  · exact .lives
  · exact .lives
  · exact .dies reason

end Recorder

/-! ### Evaluating -/

namespace Adapter

/-- An evaluation on a recorder that is up ends as the reactions say, and leaves the session as it
was but for the code and the answers. -/
lemma evaluate_of_up {a : Adapter Recorder} (hup : a.session.runtime = .running)
    (hrunning : a.session.interpreter.running = true) (console : Console) (code : String) :
    let r := a.session.interpreter
    (a.evaluate console code).result = Recorder.verdict (Recorder.fired code r.reactions)
      ∧ ∃ answers, (a.evaluate console code).adapter.session
        = { a.session with
            interpreter := { r with evaluated := r.evaluated ++ [code], answers } } := by
  intro r
  rw [evaluate_of_running hup, Recorder.run_eval_of_running _ hrunning]
  exact ⟨rfl, _, rfl⟩

/-- The recorder is up, has the given reactions and has evaluated the given snippets. -/
structure Evaluating (reactions : List (String × Reaction)) (evaluated : List String)
    (a : Adapter Recorder) : Prop where
  runtime : a.session.runtime = .running
  running : a.session.interpreter.running = true
  reactions : a.session.interpreter.reactions = reactions
  evaluated : a.session.interpreter.evaluated = evaluated

variable {reactions : List (String × Reaction)} {evaluated : List String} {a b : Adapter Recorder}

lemma Evaluating.congr (h : Evaluating reactions evaluated a) (hsession : b.session = a.session) :
    Evaluating reactions evaluated b :=
  ⟨hsession ▸ h.runtime, hsession ▸ h.running, hsession ▸ h.reactions, hsession ▸ h.evaluated⟩

lemma Evaluating.evaluate (h : Evaluating reactions evaluated a) (console : Console)
    (code : String) :
    (a.evaluate console code).result = Recorder.verdict (Recorder.fired code reactions)
      ∧ Evaluating reactions (evaluated ++ [code]) (a.evaluate console code).adapter := by
  obtain ⟨hresult, answers, hsession⟩ := evaluate_of_up h.runtime h.running console code
  rw [h.reactions] at hresult
  refine ⟨hresult, ?_, ?_, ?_, ?_⟩
  · rw [hsession, h.runtime]
  · rw [hsession, h.running]
  · rw [hsession, h.reactions]
  · rw [hsession, h.evaluated]

lemma Evaluating.runForgiving (h : Evaluating reactions evaluated a) (console : Console)
    (code : String) :
    Recorder.Forgiven (Recorder.kills reactions code) (a.runForgiving console code).result
      ∧ Evaluating reactions (evaluated ++ [code]) (a.runForgiving console code).adapter := by
  obtain ⟨hresult, hnext⟩ := h.evaluate console code
  refine ⟨?_, hnext.congr (a.session_runForgiving console code)⟩
  rw [result_runForgiving, hresult]
  exact Recorder.forgiven_verdict reactions code

/-- Defining forwarders goes on up to the first that kills the recorder. -/
lemma Evaluating.defineForwarders (h : Evaluating reactions evaluated a) (console : Console)
    (keywords : List String) :
    Recorder.Forgiven ((keywords.map Source.forwarder).any (Recorder.kills reactions))
        (Adapter.defineForwarders console keywords a).result
      ∧ Evaluating reactions
        (evaluated ++ Recorder.upToDeath reactions (keywords.map Source.forwarder))
        (Adapter.defineForwarders console keywords a).adapter := by
  induction keywords generalizing a evaluated with
  | nil => exact ⟨.lives, (List.append_nil evaluated).symm ▸ h⟩
  | cons keyword rest ih =>
      obtain ⟨hend, hnext⟩ := h.runForgiving console (Source.forwarder keyword)
      rw [List.map_cons, List.any_cons, Adapter.defineForwarders]
      generalize hkills : Recorder.kills reactions (Source.forwarder keyword) = died at hend
      generalize hresult : (a.runForgiving console (Source.forwarder keyword)).result = result
        at hend
      cases hend with
      | lives =>
          rw [andThen_of_ok hresult, Recorder.upToDeath_cons_of_not_kills hkills, Bool.false_or,
            List.append_cons]
          exact ih hnext
      | dies reason =>
          rw [andThen_of_error hresult, Recorder.upToDeath_cons_of_kills hkills, hresult]
          exact ⟨.dies reason, hnext⟩

/-! ### Loading over nothing -/

/-- The cart is followed by the fallback for `BOOT` if it succeeds. -/
lemma Evaluating.cart (h : Evaluating reactions evaluated a) (console : Console) (code : String) :
    let t := (a.evaluateCart console code).andThen
      (Adapter.runForgiving console Source.bootFallback)
    let snippets := code :: if (Recorder.verdict (Recorder.fired code reactions)).isOk
      then [Source.bootFallback] else []
    t.adapter.session.interpreter.evaluated = evaluated ++ snippets
      ∧ ((∃ reason, t.result = .error (.fatal reason))
        ↔ snippets.any (Recorder.kills reactions) = true) := by
  intro t snippets
  have hnoted : Evaluating reactions evaluated
      (a.note .debug (toString console.keywords.length ++ " forwarding shims defined")) :=
    h.congr rfl
  obtain ⟨hresult, hcart⟩ := hnoted.evaluate console code
  have hkills := Recorder.kills_iff reactions code
  cases hend : (a.evaluateCart console code).result with
  | ok u =>
      have ht : t = (a.evaluateCart console code).adapter.runForgiving console
        Source.bootFallback := andThen_of_ok hend _
      have hok : Recorder.verdict (Recorder.fired code reactions) = .ok () :=
        hresult.symm.trans hend
      have hsnippets : snippets = [code, Source.bootFallback] := by
        simp only [snippets, hok]
        rfl
      have hlives : Recorder.kills reactions code = false := by
        simpa [hok] using hkills
      obtain ⟨hboot, hnext⟩ := hcart.runForgiving console Source.bootFallback
      rw [ht, hsnippets, List.any_cons, hlives, List.any_cons, List.any_nil, Bool.or_false,
        Bool.false_or]
      exact ⟨hnext.evaluated.trans (List.append_assoc _ _ _), hboot.fatal_iff⟩
  | error fault =>
      have ht : t = a.evaluateCart console code := andThen_of_error hend _
      have herror : Recorder.verdict (Recorder.fired code reactions) = .error fault :=
        hresult.symm.trans hend
      have hsnippets : snippets = [code] := by
        simp only [snippets, herror]
        rfl
      rw [ht, hsnippets, hend, List.any_cons, List.any_nil, Bool.or_false, hkills, herror]
      exact ⟨hcart.evaluated, Iff.rfl⟩

/-- What is evaluated once the interpreter has come up for a cart, and whether the recorder lives
through it. -/
lemma Evaluating.loadFresh (hstarted : a.start.result = .ok ())
    (h : Evaluating reactions evaluated a.start.adapter) (console : Console) (code : String) :
    let t := a.loadFresh console code
    let snippets := Recorder.loaded reactions console.keywords code
    t.adapter.session.interpreter.evaluated = evaluated ++ snippets
      ∧ ((∃ reason, t.result = .error (.fatal reason))
        ↔ snippets.any (Recorder.kills reactions) = true) := by
  intro t snippets
  obtain ⟨hend, hdefined⟩ := h.defineForwarders console console.keywords
  have hany := Recorder.any_upToDeath reactions (console.keywords.map Source.forwarder)
  have ht : t = ((Adapter.defineForwarders console console.keywords a.start.adapter).andThen
      (evaluateCart console code)).andThen (Adapter.runForgiving console Source.bootFallback) := by
    simp only [t, Adapter.loadFresh, andThen_of_ok hstarted]
  have hsnippets : snippets = _ := Recorder.loaded.eq_1 reactions console.keywords code
  rw [ht, hsnippets]
  generalize hkills : (console.keywords.map Source.forwarder).any (Recorder.kills reactions) = died
    at hend hany
  generalize hresult :
    (Adapter.defineForwarders console console.keywords a.start.adapter).result = result at hend
  cases hend with
  | dies reason =>
      rw [andThen_of_error hresult, andThen_of_error hresult, if_pos rfl, List.append_nil, hany,
        hresult]
      exact ⟨hdefined.evaluated, by simp⟩
  | lives =>
      obtain ⟨hevaluated, hfatal⟩ := hdefined.cart console code
      rw [andThen_of_ok hresult, if_neg Bool.false_ne_true, List.any_append, hany, Bool.false_or,
        ← List.append_assoc]
      exact ⟨hevaluated, hfatal⟩

/-- A start that succeeds brings an upright recorder up, and evaluates nothing. -/
lemma evaluating_start {comesBack : Bool} {w : Adapter (Watched Recorder)}
    (hupright : w.session.Upright comesBack) (hok : w.start.result = .ok ()) :
    let r := w.session.interpreter.inner
    Evaluating r.reactions r.evaluated (w.mapInterpreter Watched.inner).start.adapter := by
  have hup := (start_of_ok hok).1
  rw [start_mapInterpreter Watched.isMorphism_inner]
  refine ⟨hup, ?_, reactions_of_moves w.moves_start, congrArg Prod.fst w.memory_start⟩
  exact (hupright.moves w.moves_start).running_iff.mp hup

/-- What loading over nothing evaluates, if the start succeeds, and whether the recorder lives
through it. -/
lemma evaluated_loadFresh {comesBack : Bool} {w : Adapter (Watched Recorder)}
    (hupright : w.session.Upright comesBack) (console : Console) (code : String) :
    let a := w.mapInterpreter Watched.inner
    let r := a.session.interpreter
    let t := a.loadFresh console code
    let snippets :=
      match (a.session.start a.settings.argv a.settings.maxStartAttempts).result with
      | .ok _ => Recorder.loaded r.reactions console.keywords code
      | .error _ => []
    t.adapter.session.interpreter.evaluated = r.evaluated ++ snippets
      ∧ ((∃ reason, t.result = .error (.fatal reason))
        ↔ snippets.any (Recorder.kills r.reactions) = true) := by
  intro a r t
  have hmap : a.start = w.start.mapInterpreter Watched.inner :=
    start_mapInterpreter Watched.isMorphism_inner w
  have hsame : a.start.result = w.start.result := congrArg Attempt.result hmap
  have hresult := a.result_start
  cases hstart : (a.session.start a.settings.argv a.settings.maxStartAttempts).result with
  | ok up =>
      rw [hstart] at hresult
      exact Evaluating.loadFresh hresult (evaluating_start hupright (hsame ▸ hresult)) console code
  | error fault =>
      rw [hstart] at hresult
      have ht : t = a.start := by
        simp only [t, loadFresh, andThen_of_error hresult]
      have hfatal (reason : String) : a.start.result ≠ .error (.fatal reason) :=
        hsame ▸ w.start_ne_fatal reason
      rw [ht]
      refine ⟨?_, iff_of_false (not_exists.mpr hfatal) Bool.false_ne_true⟩
      rw [List.append_nil, hmap]
      exact congrArg Prod.fst w.memory_start

/-! ### Console input -/

/-- An environment that was given the defaults takes them again, and nothing changes. -/
lemma exists_refill {σ : Type} {a b : Adapter σ} (hfill : a.fillEnvironment = some b) :
    ∃ c, b.fillEnvironment = some c ∧ c.Alike b ∧ c.SameSurroundings b := by
  obtain ⟨filled, hfilled, rfl⟩ := Option.map_eq_some_iff.mp hfill
  obtain ⟨again, hagain, henv⟩ := Environment.fill_fill hfilled
  obtain ⟨c, hc, halike, hsame⟩ := fillEnvironment_of_fill
    (a := { a with env := filled.env }.logAll filled.log) hagain
  exact ⟨c, hc, halike, hsame.settings, hsame.env.trans henv, hsame.panel⟩

/-- Console input that must start the interpreter is loaded as a cart. The defaults of the
environment are given twice on this way, which is no different from once. -/
lemma eval_alike_init {σ : Type} [Interpreter σ] {a b : Adapter σ}
    (hfill : a.fillEnvironment = some b) (hmust : b.mustStart = (true, b)) (console : Console)
    (code : String) :
    (a.eval console code).ending = (a.init console code).ending.map (fun _ => ())
      ∧ (a.eval console code).adapter.Alike (a.init console code).adapter
      ∧ (a.eval console code).adapter.SameSurroundings (a.init console code).adapter := by
  obtain ⟨c, hc, halike, hsame⟩ := exists_refill hfill
  have htyped : a.eval console code
      = (concludeLoad code (c.load console code)).map fun _ => () := by
    rw [eval_of_mustStart hfill (by rw [hmust]), hmust, init_of_fill hc]
  have hload : (c.load console code).adapter.SameSurroundings (b.load console code).adapter :=
    calc SameSurroundings (c.load console code).adapter c := c.surroundings_load console code
      SameSurroundings _ b := hsame
      SameSurroundings _ (b.load console code).adapter := (b.surroundings_load console code).symm
  obtain ⟨hending, hadapter⟩ := alike_concludeLoad (halike.load console code) code
  rw [htyped, init_of_fill hfill]
  exact ⟨congrArg (Ending.map fun _ => ()) hending, hadapter, hload.concludeLoad code⟩

/-- The interpreter has to be started before it can evaluate anything, and it can be started: it was
never up, or it was shut down and can come back. -/
def NeedsStart (a : Adapter Recorder) : Prop :=
  a.session.runtime = .notStarted
    ∨ a.session.runtime = .shutDown ∧ a.session.interpreter.restartable = true

/-- A recorder is asked without a trace. -/
lemma mustStart_of_needsStart (h : a.NeedsStart) : a.mustStart = (true, a) := by
  obtain h | ⟨h, hcan⟩ := h
  · simp only [mustStart, h]
  · have hasked : a.session.canRestart = (true, a.session) := by
      rw [← hcan]
      rfl
    simp only [mustStart, h, hasked]

/-- What need not be started is up: what an upright session has shut down can come back. -/
lemma running_of_not_needsStart {comesBack : Bool} {w : Adapter (Watched Recorder)}
    (hupright : w.session.Upright comesBack)
    (h : ¬ (w.mapInterpreter Watched.inner).NeedsStart) :
    w.session.runtime = .running ∧ w.session.interpreter.inner.running = true := by
  have hup : w.session.runtime = .running := by
    cases hruntime : w.session.runtime with
    | notStarted => exact absurd (.inl hruntime) h
    | running => rfl
    | shutDown =>
        have hcan := hupright.restartable.trans (hupright.of_shutDown hruntime)
        exact absurd (.inr ⟨hruntime, hcan⟩) h
  exact ⟨hup, hupright.running_iff.mp hup⟩

/-- What has to be started is not attached. -/
lemma detached_of_needsStart {comesBack : Bool} {w : Adapter (Watched Recorder)}
    (hupright : w.session.Upright comesBack) (h : (w.mapInterpreter Watched.inner).NeedsStart) :
    w.session.attached = false := by
  have hdown : w.session.runtime ≠ .running := by
    obtain h | ⟨h, -⟩ := h
    · exact fun hup => absurd (hup.symm.trans h) (by decide)
    · exact fun hup => absurd (hup.symm.trans h) (by decide)
  exact eq_false_of_ne_true fun hattached => hdown (hupright.inStep.attached hattached)

/-- **Console input that has to start the interpreter is loaded as a cart**, over a new recorder
that nobody else touches and with settings that the environment accepts.

Whatever has happened, if the interpreter was never up, or was shut down and can come back, `eval`
and `init` end alike, with the same session, the same record of the recorder, the same exchanges
with the console and the same environment. If the start succeeds, what is evaluated is what a load
evaluates: the forwarders, the code, and the fallback for `BOOT`. If it fails, nothing is. The
process ends just if one of these snippets, a forwarder or not, kills the recorder. In any other
state `eval` evaluates the code, and changes nothing else of the session but the answers. -/
theorem eval_is_init (p : Rehearsal) (env : Environment)
    (hsettable : ∀ e ∈ p.settings.env.entries, isSettable e.1 e.2 = true)
    {run : List (Console × Operation)} {a : Adapter Recorder}
    (hrun : afterAll run (p.adapter env) = some a) (console : Console) (code : String) :
    let typed := a.eval console code
    let loaded := a.init console code
    let r := a.session.interpreter
    let snippets :=
      match (a.session.start a.settings.argv a.settings.maxStartAttempts).result with
      | .ok _ => Recorder.loaded r.reactions console.keywords code
      | .error _ => []
    (a.NeedsStart →
      typed.ending = loaded.ending.map (fun _ => ())
        ∧ typed.adapter.Alike loaded.adapter ∧ typed.adapter.SameSurroundings loaded.adapter
        ∧ typed.adapter.session.interpreter.evaluated = r.evaluated ++ snippets
        ∧ (typed.ending = .terminated
          ↔ snippets.any (Recorder.kills r.reactions) = true))
    ∧ (¬ a.NeedsStart → ∃ answers, typed.adapter.session
        = { a.session with
            interpreter := { r with evaluated := r.evaluated ++ [code], answers } }) := by
  intro typed loaded r snippets
  -- the same run under watch
  have hnew : p.adapter env = (watching p.recorder p.settings env).mapInterpreter Watched.inner :=
    rfl
  rw [hnew, afterAll_mapInterpreter Watched.isMorphism_inner, Option.map_eq_some_iff] at hrun
  obtain ⟨w, hw, rfl⟩ := hrun
  have hupright : w.session.Upright p.restartable :=
    (Session.upright_watching (r := p.recorder) rfl).moves (moves_afterAll hw)
  have hsettings : w.settings = p.settings := settings_afterAll hw
  obtain ⟨filled, hfilled⟩ := Environment.exists_fill_of_settable (hsettings ▸ hsettable) w.env
  obtain ⟨b, hb, hbalike, hbsame⟩ :=
    fillEnvironment_of_fill (a := w.mapInterpreter Watched.inner) hfilled
  constructor
  · intro hneeds
    have hmust : b.mustStart = (true, b) := by
      refine mustStart_of_needsStart ?_
      rwa [NeedsStart, hbalike.session]
    obtain ⟨hending, halike, hsame⟩ := eval_alike_init hb hmust console code
    have hfree : (w.mapInterpreter Watched.inner).session.attached = false :=
      detached_of_needsStart hupright hneeds
    have hfresh := hbalike.load console code
    rw [load_over_detached hfree] at hfresh
    have hconcludes := concludes_concludeLoad code (b.load console code)
    obtain ⟨hevaluated, hfatal⟩ := evaluated_loadFresh hupright console code
    refine ⟨hending, halike, hsame, ?_, ?_⟩
    · rw [halike.session, init_of_fill hb, hconcludes.session, hfresh.adapter.session]
      exact hevaluated
    · rw [hending, init_of_fill hb, Ending.map_eq_terminated_iff, hconcludes.terminated,
        hfresh.result]
      exact hfatal
  · intro hneeds
    obtain ⟨hup, hrunning⟩ := running_of_not_needsStart hupright hneeds
    have hmust : b.mustStart = (false, b) := by
      have hbup : b.session.runtime = .running := hbalike.session ▸ hup
      simp only [mustStart, hbup]
    have htyped : typed = conclude (b.runForgiving console code) := by
      have heval := eval_of_not_mustStart hb (by rw [hmust]) console code
      rwa [hmust] at heval
    obtain ⟨-, answers, hsession⟩ :=
      evaluate_of_up (a := w.mapInterpreter Watched.inner) hup hrunning console code
    refine ⟨answers, ?_⟩
    rw [htyped, session_conclude, session_runForgiving,
      (hbalike.evaluate console code).adapter.session]
    exact hsession

/-- A recorder whose first start fails, that was shut down and comes back for what is typed: the
input is evaluated between the forwarder and the fallback. -/
theorem eval_is_init_again :
    let p : Rehearsal := { failingStarts := 1, restartable := true }
    let console : Console := { keywords := ["cls"] }
    (∀ e ∈ p.settings.env.entries, isSettable e.1 e.2 = true)
      ∧ ∃ a, afterAll [(console, .init "a <- 1"), (console, .close)] (p.adapter .empty) = some a
        ∧ a.NeedsStart
        ∧ (a.eval console "a").ending = (a.init console "a").ending.map (fun _ => ())
        ∧ (a.eval console "a").adapter.Alike (a.init console "a").adapter
        ∧ (a.eval console "a").adapter.session.interpreter.evaluated
          = a.session.interpreter.evaluated
            ++ [Source.forwarder "cls", "a", Source.bootFallback] := by
  intro p console
  have hsettable : ∀ e ∈ p.settings.env.entries, isSettable e.1 e.2 = true := by decide +kernel
  have hlive : (afterAll [(console, .init "a <- 1"), (console, .close)] (p.adapter .empty)).map
      (fun a => (a.session.runtime, a.session.interpreter.restartable,
        (a.session.start a.settings.argv a.settings.maxStartAttempts).result.isOk,
        Recorder.loaded a.session.interpreter.reactions console.keywords "a"))
      = some (.shutDown, true, true, [Source.forwarder "cls", "a", Source.bootFallback]) := by
    decide +kernel
  obtain ⟨a, ha, hstate⟩ := Option.map_eq_some_iff.mp hlive
  simp only [Prod.mk.injEq] at hstate
  obtain ⟨hruntime, hcan, hstarts, hloaded⟩ := hstate
  have hneeds : a.NeedsStart := .inr ⟨hruntime, hcan⟩
  obtain ⟨hending, halike, -, hevaluated, -⟩ :=
    (eval_is_init p .empty hsettable ha console "a").1 hneeds
  refine ⟨hsettable, a, ha, hneeds, hending, halike, hevaluated.trans ?_⟩
  cases hstart : (a.session.start a.settings.argv a.settings.maxStartAttempts).result with
  | ok up => exact congrArg _ hloaded
  | error fault =>
      rw [hstart] at hstarts
      cases hstarts

/-- **A forwarder may kill the recorder.** Then what is typed is not evaluated, although the start
has succeeded. -/
theorem eval_starts_without_code :
    let p : Rehearsal := { reactions := [("cls", .dies "dead")] }
    let console : Console := { keywords := ["cls"] }
    let a := p.adapter .empty
    a.NeedsStart
      ∧ (a.session.start a.settings.argv a.settings.maxStartAttempts).result.isOk = true
      ∧ (a.eval console "x <- 1").adapter.session.interpreter.evaluated
        = [Source.forwarder "cls"] := by
  intro p console a
  exact ⟨.inl rfl, by decide +kernel, by decide +kernel⟩

end Adapter

end RCart
