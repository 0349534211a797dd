import RCart.Proofs.Adapter.Simulation

/-!
What the steps of an adapter depend on, and what they leave alone.

* `Adapter.Alike`: two adapters have the same session and settings, and the same has passed to their
  consoles;
* `Adapter.loadSimulation_alike`, `Alike.load`, `Alike.loadFresh`, `alike_concludeLoad`: alike
  adapters go the same way, whatever is in their logs, environments and outlines;
* `Adapter.SameSurroundings`: a step leaves settings, environment and outline alone;
* `Adapter.load_of_released`, `load_over_detached`: loading is letting go, if the session is
  attached, and then loading over nothing.
-/

namespace RCart

/-! ### Consoles -/

/-- What a console answers, and what passes to it, does not depend on the log. -/
lemma Console.native_congr (console : Console) (color : UInt8) (request : ApiCall)
    {t u : Transcript} (h : t.exchanges = u.exchanges) :
    (console.native color request t).1 = (console.native color request u).1
      ∧ (console.native color request t).2.exchanges
        = (console.native color request u).2.exchanges := by
  rw [native, native]
  split
  · refine ⟨rfl, ?_⟩
    simp only [Transcript.traceCall, Transcript.trace, Transcript.pass, h]
  · rw [answer, answer, h]
    cases console.reply u.exchanges request with
    | none => exact ⟨rfl, congrArg (· ++ [_]) h⟩
    | some value => exact ⟨rfl, congrArg (· ++ [_]) h⟩

/-- Nor does an evaluation that is carried out for it. -/
lemma Evaluation.run_sink_congr {α : Type} (console : Console) (color : UInt8) (e : Evaluation α)
    {t u : Transcript} (h : t.exchanges = u.exchanges) :
    (e.run (console.sink color) t).1 = (e.run (console.sink color) u).1
      ∧ (e.run (console.sink color) t).2.1 = (e.run (console.sink color) u).2.1
      ∧ (e.run (console.sink color) t).2.2.exchanges
        = (e.run (console.sink color) u).2.2.exchanges := by
  induction e generalizing t u with
  | finish result state => exact ⟨rfl, rfl, h⟩
  | print text next ih => exact ih (congrArg (· ++ [Exchange.trace text color]) h)
  | call request next ih =>
      have hrun (v : Transcript) : (Evaluation.call request next).run (console.sink color) v
          = (next (console.native color request v).1).run (console.sink color)
              (console.native color request v).2 := rfl
      obtain ⟨hanswer, hexchanges⟩ := console.native_congr color request h
      rw [hrun, hrun, hanswer]
      exact ih _ hexchanges
  | note record next ih => exact ih h

/-! ### Alike -/

/-- The same but for environment, outline and log. -/
structure Adapter.Alike {σ : Type} (a b : Adapter σ) : Prop where
  session : a.session = b.session
  settings : a.settings = b.settings
  exchanges : a.transcript.exchanges = b.transcript.exchanges

/-- Steps that end alike. -/
structure Attempt.Alike {σ : Type} (s t : Attempt σ) : Prop where
  result : s.result = t.result
  adapter : s.adapter.Alike t.adapter

variable {σ : Type} {a b c : Adapter σ} {s t : Attempt σ}

lemma Attempt.Related.alike (h : s.Related Adapter.Alike t) : s.Alike t :=
  ⟨h.result.symm, h.adapter⟩

namespace Adapter

lemma Alike.refl (a : Adapter σ) : a.Alike a :=
  ⟨rfl, rfl, rfl⟩

lemma Alike.symm (h : a.Alike b) : b.Alike a :=
  ⟨h.session.symm, h.settings.symm, h.exchanges.symm⟩

lemma Alike.trans (h : a.Alike b) (h' : b.Alike c) : a.Alike c :=
  ⟨h.session.trans h'.session, h.settings.trans h'.settings, h.exchanges.trans h'.exchanges⟩

lemma Alike.note (h : a.Alike b) (level : Level) (text : String) :
    (a.note level text).Alike (b.note level text) :=
  ⟨h.session, h.settings, h.exchanges⟩

lemma Alike.tell (h : a.Alike b) (text : String) : (a.tell text).Alike (b.tell text) := by
  refine ⟨h.session, h.settings, ?_⟩
  simp only [Adapter.tell, Transcript.trace, Transcript.pass, h.exchanges, h.settings]

/-- A note makes no difference. -/
lemma alike_note (a : Adapter σ) (level : Level) (text : String) : (a.note level text).Alike a :=
  ⟨rfl, rfl, rfl⟩

variable [Interpreter σ]

lemma Alike.evaluate (h : a.Alike b) (console : Console) (code : String) :
    (a.evaluate console code).Alike (b.evaluate console code) := by
  obtain ⟨hresult, hsession, hexchanges⟩ :=
    (b.session.eval code).run_sink_congr console b.settings.traceColor h.exchanges
  rw [← h.session, ← h.settings] at hresult hsession hexchanges
  simp only [Adapter.evaluate, ← h.session, ← h.settings]
  exact ⟨hresult, hsession, rfl, hexchanges⟩

lemma Alike.start (h : a.Alike b) : a.start.Alike b.start := by
  have hresult : a.start.result = b.start.result := by
    rw [result_start, result_start, h.session, h.settings]
  refine ⟨hresult, ?_, ?_, ?_⟩
  · rw [session_start, session_start, h.session, h.settings]
  · rw [settings_start, settings_start, h.settings]
  · rw [exchanges_start, exchanges_start, h.exchanges]

lemma Alike.asked (h : a.Alike b) : a.asked.Alike b.asked := by
  refine ⟨?_, h.settings, h.exchanges⟩
  rw [session_asked, session_asked, h.session]

lemma Alike.shutDown (h : a.Alike b) : a.shutDown.Alike b.shutDown := by
  refine ⟨?_, h.settings, h.exchanges⟩
  rw [session_shutDown, session_shutDown, h.session]

/-- Alike adapters cannot be told apart by what loading a cart does. -/
lemma loadSimulation_alike (console : Console) :
    LoadSimulation (Adapter.Alike : Adapter σ → Adapter σ → Prop) console console where
  keywords := rfl
  attached h := congrArg Session.attached h.session.symm
  runtime h := congrArg Session.runtime h.session.symm
  log h _ := ⟨h.session, h.settings, h.exchanges⟩
  tell h text := h.tell text
  evaluate h code := ⟨(h.evaluate console code).result.symm, (h.evaluate console code).adapter⟩
  start h := ⟨h.start.result.symm, h.start.adapter⟩
  asked h := ⟨congrArg (fun s => s.canRestart.1) h.session.symm, h.asked⟩
  shutDown h := h.shutDown
  detach h := ⟨congrArg Session.detach h.session, h.settings, h.exchanges⟩

lemma Alike.release (h : a.Alike b) (console : Console) :
    (a.release console).Alike (b.release console) :=
  ((loadSimulation_alike console).release h).alike

lemma Alike.load (h : a.Alike b) (console : Console) (code : String) :
    (a.load console code).Alike (b.load console code) :=
  ((loadSimulation_alike console).load h code).alike

/-! ### Loading over nothing -/

/-- What is left of loading a cart once the session is let go. -/
def loadFresh (console : Console) (code : String) (a : Adapter σ) : Attempt σ :=
  ((a.start.andThen (defineForwarders console console.keywords)).andThen
    (evaluateCart console code)).andThen (runForgiving console Source.bootFallback)

lemma load_of_released {console : Console} (h : (a.releaseAttached console).result = .ok ())
    (code : String) :
    a.load console code = (a.releaseAttached console).adapter.loadFresh console code := by
  rw [load, prepare, andThen_of_ok h, loadFresh]

/-- Over a session that is not attached a cart is loaded over nothing. -/
lemma load_over_detached (hfree : a.session.attached = false) (console : Console) (code : String) :
    a.load console code = a.loadFresh console code := by
  have hnothing := releaseAttached_of_detached hfree console
  rw [load_of_released (by rw [hnothing]; rfl), hnothing]
  rfl

lemma Alike.loadFresh (h : a.Alike b) (console : Console) (code : String) :
    (a.loadFresh console code).Alike (b.loadFresh console code) := by
  have hsim : LoadSimulation (Adapter.Alike : Adapter σ → Adapter σ → Prop) console console :=
    loadSimulation_alike console
  exact (hsim.cart ((hsim.start h).andThen (hsim.defineForwarders console.keywords)) code).alike

omit [Interpreter σ] in
/-- Alike loads are concluded alike. -/
lemma alike_concludeLoad {s t : Attempt σ} (h : s.Alike t) (code : String) :
    (concludeLoad code s).ending = (concludeLoad code t).ending
      ∧ (concludeLoad code s).adapter.Alike (concludeLoad code t).adapter := by
  obtain ⟨result, a⟩ := s
  obtain ⟨result', b⟩ := t
  obtain ⟨rfl, hadapter⟩ := h
  cases result with
  | ok u => exact ⟨rfl, hadapter.note _ _⟩
  | error fault =>
      cases fault with
      | fatal reason =>
          exact ⟨rfl, hadapter.session, hadapter.settings, congrArg (· ++ [_]) hadapter.exchanges⟩
      | _ => exact ⟨rfl, (hadapter.note _ _).tell _⟩

/-! ### What is left alone -/

omit [Interpreter σ]

/-- The same settings, environment and outline. -/
structure SameSurroundings (a b : Adapter σ) : Prop where
  settings : a.settings = b.settings
  env : a.env = b.env
  panel : a.panel = b.panel

lemma SameSurroundings.symm (h : a.SameSurroundings b) : b.SameSurroundings a :=
  ⟨h.settings.symm, h.env.symm, h.panel.symm⟩

lemma SameSurroundings.trans (h : a.SameSurroundings b) (h' : b.SameSurroundings c) :
    a.SameSurroundings c :=
  ⟨h.settings.trans h'.settings, h.env.trans h'.env, h.panel.trans h'.panel⟩

instance : Trans (SameSurroundings (σ := σ)) SameSurroundings SameSurroundings where
  trans := SameSurroundings.trans

lemma SameSurroundings.andThen (h : t.adapter.SameSurroundings a) {next : Adapter σ → Attempt σ}
    (hnext : ∀ b : Adapter σ, (next b).adapter.SameSurroundings b) :
    (t.andThen next).adapter.SameSurroundings a :=
  andThen_keeps (P := fun b => b.SameSurroundings a) h fun b hb => (hnext b).trans hb

lemma surroundings_concludeLoad (code : String) (t : Attempt σ) :
    (concludeLoad code t).adapter.SameSurroundings t.adapter := by
  obtain ⟨result, a⟩ := t
  cases result with
  | ok u => exact ⟨rfl, rfl, rfl⟩
  | error fault => cases fault <;> exact ⟨rfl, rfl, rfl⟩

lemma SameSurroundings.concludeLoad (h : s.adapter.SameSurroundings t.adapter) (code : String) :
    (Adapter.concludeLoad code s).adapter.SameSurroundings (Adapter.concludeLoad code t).adapter :=
  calc SameSurroundings (Adapter.concludeLoad code s).adapter s.adapter :=
        surroundings_concludeLoad code s
    SameSurroundings _ t.adapter := h
    SameSurroundings _ (Adapter.concludeLoad code t).adapter :=
        (surroundings_concludeLoad code t).symm

lemma surroundings_conclude (t : Attempt σ) :
    (conclude t).adapter.SameSurroundings t.adapter := by
  obtain ⟨result, a⟩ := t
  cases result with
  | ok u => exact ⟨rfl, rfl, rfl⟩
  | error fault => cases fault <;> exact ⟨rfl, rfl, rfl⟩

/-- Filling the environment changes nothing else but the log. -/
lemma fillEnvironment_of_fill {a : Adapter σ} {filled : Environment.Filled}
    (h : a.env.fill a.settings.env = some filled) :
    ∃ b, a.fillEnvironment = some b ∧ b.Alike a
      ∧ b.SameSurroundings { a with env := filled.env } := by
  rw [fillEnvironment, h]
  exact ⟨_, rfl, ⟨rfl, rfl, rfl⟩, rfl, rfl, rfl⟩

variable [Interpreter σ]

lemma surroundings_runForgiving (console : Console) (code : String) (a : Adapter σ) :
    (a.runForgiving console code).adapter.SameSurroundings a := by
  rw [runForgiving]
  split <;> exact ⟨rfl, rfl, rfl⟩

lemma surroundings_defineForwarders (console : Console) (keywords : List String) (a : Adapter σ) :
    (defineForwarders console keywords a).adapter.SameSurroundings a := by
  induction keywords generalizing a with
  | nil => exact ⟨rfl, rfl, rfl⟩
  | cons keyword rest ih => exact (a.surroundings_runForgiving console _).andThen ih

lemma surroundings_start (a : Adapter σ) : a.start.adapter.SameSurroundings a := by
  simp only [start]
  split <;> exact ⟨rfl, rfl, rfl⟩

lemma surroundings_release (console : Console) (a : Adapter σ) :
    (a.release console).adapter.SameSurroundings a := by
  cases hcan : a.session.canRestart.1 with
  | true =>
      rw [release_of_canRestart hcan]
      exact ⟨rfl, rfl, rfl⟩
  | false =>
      rw [release_of_not_canRestart hcan]
      have hwipe := a.asked.surroundings_runForgiving console Source.wipe
      exact ⟨hwipe.settings, hwipe.env, hwipe.panel⟩

lemma surroundings_mustStart (a : Adapter σ) : a.mustStart.2.SameSurroundings a := by
  rw [mustStart]
  split <;> exact ⟨rfl, rfl, rfl⟩

lemma surroundings_releaseAttached (console : Console) (a : Adapter σ) :
    (a.releaseAttached console).adapter.SameSurroundings a := by
  rw [releaseAttached]
  split
  · have hrelease := (a.note .debug "init over a live session, resetting it first")
      |>.surroundings_release console
    exact ⟨hrelease.settings, hrelease.env, hrelease.panel⟩
  · exact ⟨rfl, rfl, rfl⟩

lemma surroundings_loadFresh (console : Console) (code : String) (a : Adapter σ) :
    (a.loadFresh console code).adapter.SameSurroundings a := by
  have hready := a.surroundings_start.andThen
    (surroundings_defineForwarders console console.keywords)
  have hcart := hready.andThen fun b =>
    show (b.evaluateCart console code).adapter.SameSurroundings b from ⟨rfl, rfl, rfl⟩
  exact hcart.andThen (surroundings_runForgiving console Source.bootFallback)

lemma surroundings_load (console : Console) (code : String) (a : Adapter σ) :
    (a.load console code).adapter.SameSurroundings a := by
  have hreleased := a.surroundings_releaseAttached console
  cases hresult : (a.releaseAttached console).result with
  | ok u =>
      rw [load_of_released hresult]
      exact (surroundings_loadFresh console code _).trans hreleased
  | error fault =>
      have hprepare : a.prepare console = a.releaseAttached console := by
        rw [prepare, andThen_of_error hresult, andThen_of_error hresult]
      rw [load_of_prepare_error (hprepare ▸ hresult), hprepare]
      exact hreleased

end Adapter

end RCart
