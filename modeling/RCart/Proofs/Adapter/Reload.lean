import RCart.Proofs.Adapter.Alike
import RCart.Proofs.Adapter.Rehearsal
import RCart.Proofs.Adapter.Stride
import RCart.Proofs.Adapter.Upright

/-!
Loading over an attached session.

* `Adapter.release_ok`: letting go of an attached session succeeds, unless wiping kills the
  recorder;
* **`Adapter.init_over_attached`**: loading a cart over an attached session does what closing it and
  then loading the cart does.
-/

namespace RCart

namespace Adapter

variable {comesBack : Bool} {console : Console} {a b : Adapter (Watched Recorder)}

/-- Letting go of an attached session succeeds, unless wiping kills the recorder. -/
lemma release_ok (h : a.session.Upright comesBack) (hattached : a.session.attached = true)
    (hlives : ∀ reason, .dies reason ∉ Recorder.fired Source.wipe a.reactions)
    (console : Console) : (a.release console).result = .ok () := by
  cases hcan : a.session.canRestart.1 with
  | true =>
      rw [release_of_canRestart hcan]
      rfl
  | false =>
      rw [release_of_not_canRestart hcan, result_wipeAndDetach]
      have hup : a.asked.session.runtime = .running := h.inStep.attached hattached
      have hrunning : a.asked.session.interpreter.inner.running = true := h.running_iff.mp hup
      obtain ⟨hresult, -⟩ := evaluate_of_reacting hup hrunning console Source.wipe
      rw [hresult, forgive_eq_ok_iff]
      obtain hok | herror | ⟨reason, hdies, -⟩ :=
        Recorder.verdict_cases (Recorder.fired Source.wipe a.asked.reactions)
      · exact .inl hok
      · exact .inr herror
      · exact absurd hdies (hlives reason)

/-- An attached session is let go as it would be closed, then the cart is loaded over nothing. -/
lemma load_over_attached (hattached : b.session.attached = true)
    (halike : b.Alike a) (hreleased : (a.release console).result = .ok ()) (code : String) :
    ∃ r : Adapter (Watched Recorder), r.Alike (a.release console).adapter ∧ r.SameSurroundings b
      ∧ b.load console code = r.loadFresh console code := by
  set reset := b.note .debug "init over a live session, resetting it first"
  have hrelease : (reset.release console).Alike (a.release console) :=
    Alike.release ((b.alike_note _ _).trans halike) console
  have hover : b.releaseAttached console = reset.release console := by
    rw [releaseAttached, if_pos hattached]
  refine ⟨(reset.release console).adapter, hrelease.adapter, ?_, ?_⟩
  · exact (reset.surroundings_release console).trans ⟨rfl, rfl, rfl⟩
  · rw [load_of_released (by rw [hover, hrelease.result, hreleased]), hover]

/-- **Loading over an attached session** does what closing it and then loading does.

Over a new recorder that nobody else touches and that wiping does not kill, and with settings that
the environment accepts: closing returns, and the two ways end alike, with the same session, the
same calls on the interpreter, the same record of the recorder, the same exchanges with the console,
and the same environment. Only the log tells them apart. -/
theorem init_over_attached (p : Rehearsal) (env : Environment)
    (hsettable : ∀ e ∈ p.settings.env.entries, isSettable e.1 e.2 = true)
    (hlives : ∀ reason, .dies reason ∉ Recorder.fired Source.wipe p.reactions)
    {run : List (Console × Operation)} {a : Adapter (Watched Recorder)}
    (hrun : afterAll run (watching p.recorder p.settings env) = some a)
    (hattached : a.session.attached = true) (console : Console) (code : String) :
    let closed := a.close console
    let once := a.init console code
    let twice := closed.adapter.init console code
    closed.ending = .returned () ∧ once.ending = twice.ending
      ∧ once.adapter.Alike twice.adapter ∧ once.adapter.SameSurroundings twice.adapter := by
  intro closed once twice
  have hmoves := moves_afterAll hrun
  have hupright : a.session.Upright p.restartable :=
    (Session.upright_watching (r := p.recorder) rfl).moves hmoves
  have hreactions : a.reactions = p.reactions := reactions_of_moves hmoves
  have hreleased := release_ok hupright hattached (hreactions ▸ hlives) console
  have hclosed : closed = (a.release console).adapter.quiet := by
    simp only [closed, close, if_pos hattached, conclude, hreleased]
  -- on either way the same variables get their defaults
  have hsettings : a.settings = p.settings := settings_afterAll hrun
  obtain ⟨filled, hfill⟩ := Environment.exists_fill_of_settable (hsettings ▸ hsettable) a.env
  have hkept := a.surroundings_release console
  obtain ⟨b, hb, hbalike, hbsame⟩ := fillEnvironment_of_fill hfill
  rw [← hkept.env, ← hkept.settings] at hfill
  obtain ⟨c, hc, hcalike, hcsame⟩ := fillEnvironment_of_fill hfill
  obtain ⟨r, hralike, hrsame, honce⟩ :=
    load_over_attached (hbalike.session ▸ hattached) hbalike hreleased code
  have hfree : c.session.attached = false := by
    rw [hcalike.session]
    exact attached_release console a
  have hload : (b.load console code).Alike (c.load console code) := by
    rw [honce, load_over_detached hfree console]
    exact (hralike.trans hcalike.symm).loadFresh console code
  have hsame : (b.load console code).adapter.SameSurroundings (c.load console code).adapter := by
    rw [honce, load_over_detached hfree console]
    calc SameSurroundings (r.loadFresh console code).adapter r :=
          r.surroundings_loadFresh console code
      SameSurroundings _ b := hrsame
      SameSurroundings _ { a with env := filled.env } := hbsame
      SameSurroundings _ { (a.release console).adapter with env := filled.env } :=
          ⟨hkept.settings.symm, rfl, hkept.panel.symm⟩
      SameSurroundings _ c := hcsame.symm
      SameSurroundings _ (c.loadFresh console code).adapter :=
          (c.surroundings_loadFresh console code).symm
  have honce' : once = concludeLoad code (b.load console code) := init_of_fill hb console code
  have htwice' : twice = concludeLoad code (c.load console code) := by
    simp only [twice, hclosed, quiet]
    exact init_of_fill hc console code
  obtain ⟨hending, hadapter⟩ := alike_concludeLoad hload code
  rw [honce', htwice']
  exact ⟨by rw [hclosed]; rfl, hending, hadapter, hsame.concludeLoad code⟩

/-- So it is over a recorder whose first start fails and that cannot be wiped. -/
theorem init_over_attached_unclean :
    let p : Rehearsal := { failingStarts := 1, reactions := [("rm(list", .raises "cannot clear")] }
    let console : Console := { keywords := ["cls"] }
    (∀ e ∈ p.settings.env.entries, isSettable e.1 e.2 = true)
      ∧ (∀ reason, .dies reason ∉ Recorder.fired Source.wipe p.reactions)
      ∧ ∃ a, afterAll [(console, .init "a <- 1")] (watching p.recorder p.settings .empty) = some a
        ∧ a.session.attached = true
        ∧ (a.init console "b <- 2").ending
          = ((a.close console).adapter.init console "b <- 2").ending
        ∧ (a.init console "b <- 2").adapter.Alike
          ((a.close console).adapter.init console "b <- 2").adapter := by
  intro p console
  have hsettable : ∀ e ∈ p.settings.env.entries, isSettable e.1 e.2 = true := by decide +kernel
  have hlives : ∀ reason, .dies reason ∉ Recorder.fired Source.wipe p.reactions := by
    have hfired : Recorder.fired Source.wipe p.reactions = [.raises "cannot clear"] := by
      decide +kernel
    intro reason
    simp [hfired]
  have hlive : (afterAll [(console, .init "a <- 1")]
      (watching p.recorder p.settings .empty)).map (·.session.attached) = some true := by
    decide +kernel
  obtain ⟨a, ha, hattached⟩ := Option.map_eq_some_iff.mp hlive
  obtain ⟨-, hending, halike, -⟩ :=
    init_over_attached p .empty hsettable hlives ha hattached console "b <- 2"
  exact ⟨hsettable, hlives, a, ha, hattached, hending, halike⟩

end Adapter

end RCart
