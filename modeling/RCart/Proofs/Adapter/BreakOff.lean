import RCart.Foreign.Entry
import RCart.Interpreter.Recorder
import RCart.Proofs.Adapter.Detached
import RCart.Proofs.Environment.Fill

/-!
Runs that break off.

* `Adapter.Settled`: the environment takes the defaults of the settings;
* `Adapter.Settled.perform`: so it does after every operation, and none breaks off;
* `Adapter.Idle`: nothing was ever started;
* `Adapter.Idle.perform`: so it stays until the first load or console input;
* `Configured`: adapters with settings that were read from a text or a file;
* **`Configured.breaksOff_iff`**: a run of such an adapter breaks off just if the environment
  refuses the variables of the settings.
-/

namespace RCart

variable {σ α β : Type}

/-! ### Settled adapters -/

namespace Adapter

/-- Whatever of the variables of the settings is missing can be set. -/
def Settled (a : Adapter σ) : Prop :=
  a.env.Settled a.settings.env.entries

variable {a b : Adapter σ}

lemma Settled.congr (h : a.Settled) (hsame : b.SameSurroundings a) : b.Settled := by
  rw [Settled, hsame.env, hsame.settings]
  exact h

lemma fillEnvironment_eq_none_iff : a.fillEnvironment = none ↔ a.env.Refuses a.settings.env := by
  rw [fillEnvironment, Option.map_eq_none_iff, Environment.fill_eq_none_iff]

/-- The variables are settled once they were given their defaults. -/
lemma settled_of_fillEnvironment (h : a.fillEnvironment = some b) : b.Settled := by
  obtain ⟨filled, hfilled, rfl⟩ := Option.map_eq_some_iff.mp h
  exact Environment.settled_of_fillEntries hfilled

/-- Settled variables can be given their defaults. -/
lemma Settled.exists_fillEnvironment (h : a.Settled) : ∃ b, a.fillEnvironment = some b := by
  obtain ⟨filled, hfilled⟩ := Environment.exists_fillEntries h
  exact ⟨_, Option.map_eq_some_iff.mpr ⟨filled, hfilled, rfl⟩⟩

end Adapter

/-! ### Outcomes -/

/-- An operation does not break off, and leaves an adapter that is settled. -/
structure Outcome.Settled (o : Outcome σ α) : Prop where
  ending : o.ending ≠ .brokeOff
  adapter : o.adapter.Settled

lemma Outcome.Settled.map {o : Outcome σ α} (h : o.Settled) (f : α → β) : (o.map f).Settled := by
  refine ⟨?_, h.adapter⟩
  obtain ⟨ending, a⟩ := o
  cases ending with
  | brokeOff => exact absurd rfl h.ending
  | _ => nofun

namespace Adapter

lemma settled_conclude {t : Attempt σ} (h : t.adapter.Settled) : (conclude t).Settled := by
  refine ⟨?_, h.congr (surroundings_conclude t)⟩
  obtain ⟨result, a⟩ := t
  cases result with
  | ok u => nofun
  | error fault => cases fault <;> nofun

lemma settled_concludeLoad {t : Attempt σ} (h : t.adapter.Settled) (code : String) :
    (concludeLoad code t).Settled := by
  refine ⟨?_, h.congr (surroundings_concludeLoad code t)⟩
  obtain ⟨result, a⟩ := t
  cases result with
  | ok u => nofun
  | error fault => cases fault <;> nofun

/-! ### Operations -/

variable [Interpreter σ] {a b : Adapter σ}

/-- A load goes on as soon as the variables were given their defaults. -/
lemma settled_init (hfill : a.fillEnvironment = some b) (console : Console) (code : String) :
    (a.init console code).Settled := by
  rw [init_of_fill hfill]
  exact settled_concludeLoad
    ((settled_of_fillEnvironment hfill).congr (surroundings_load console code b)) code

/-- So does console input, even if it gives them their defaults twice. -/
lemma settled_eval (hfill : a.fillEnvironment = some b) (console : Console) (code : String) :
    (a.eval console code).Settled := by
  have hasked : b.mustStart.2.Settled :=
    (settled_of_fillEnvironment hfill).congr (surroundings_mustStart b)
  cases hmust : b.mustStart.1 with
  | true =>
      rw [eval_of_mustStart hfill hmust]
      obtain ⟨c, hagain⟩ := hasked.exists_fillEnvironment
      exact (settled_init hagain console code).map _
  | false =>
      rw [eval_of_not_mustStart hfill hmust]
      exact settled_conclude (hasked.congr (surroundings_runForgiving console code _))

lemma Settled.close (h : a.Settled) (console : Console) : (a.close console).Settled := by
  rw [Adapter.close]
  split
  · exact settled_conclude (h.congr (surroundings_release console a))
  · exact ⟨by rintro ⟨⟩, h⟩

lemma Settled.call (h : a.Settled) (console : Console) (request : Source.GuardedCall) :
    (a.call console request).Settled := by
  rw [Adapter.call]
  split
  · exact settled_conclude (h.congr (surroundings_runForgiving console _ a))
  · exact ⟨by rintro ⟨⟩, h⟩

/-- On a settled adapter no operation breaks off, and it stays settled. -/
lemma Settled.perform (h : a.Settled) (console : Console) (operation : Operation) :
    (a.perform console operation).Settled := by
  obtain ⟨b, hfill⟩ := h.exists_fillEnvironment
  cases operation with
  | init code => exact (settled_init hfill console code).map _
  | close => exact (h.close console).map _
  | tick => exact (h.call console _).map _
  | boot => exact (h.call console _).map _
  | menu index data => exact (Settled.call (a := a.note _ _) h console _).map _
  | border row data => exact (Settled.call (a := a.note _ _) h console _).map _
  | scanline row data => exact (Settled.call (a := a.note _ _) h console _).map _
  | eval code => exact (settled_eval hfill console code).map _
  | invoke request => exact (h.call console request).map _
  | outline code => exact ⟨by rintro ⟨⟩, h⟩

/-- So no run of a settled adapter breaks off. -/
lemma Settled.performAll (h : a.Settled) (run : List (Console × Operation)) :
    ∀ outcome ∈ performAll run a, outcome.ending ≠ .brokeOff := by
  intro outcome hmem
  have hsettled : outcome.Settled :=
    performAll_keeps (fun asked _ _ hb => Settled.perform hb asked.1 asked.2)
      (fun _ houtcome => houtcome.adapter) h outcome hmem
  exact hsettled.ending

end Adapter

/-! ### Idle adapters -/

namespace Adapter

/-- Nothing was started, and settings and environment are as they were. -/
structure Idle (settings : Settings) (env : Environment) (a : Adapter σ) : Prop where
  runtime : a.session.runtime = .notStarted
  attached : a.session.attached = false
  settings : a.settings = settings
  env : a.env = env

variable {settings : Settings} {env : Environment} [Interpreter σ] {a b : Adapter σ}

/-- Until the first load or console input, operations return and leave an idle adapter. -/
lemma Idle.perform (h : a.Idle settings env) {operation : Operation} (hop : ¬ operation.Fills)
    (console : Console) :
    (∃ answer, (a.perform console operation).ending = .returned answer)
      ∧ (a.perform console operation).adapter.Idle settings env := by
  obtain ⟨hreturned, halike, henv⟩ := silent_perform h.attached hop console
  refine ⟨hreturned, ?_, ?_, halike.settings.trans h.settings, henv.trans h.env⟩
  · rw [halike.session, h.runtime]
  · rw [halike.session, h.attached]

/-! ### Runs -/

/-- A load and console input break off if the environment does not take the variables. -/
lemma brokeOff_of_refuses (hfill : a.fillEnvironment = none) {operation : Operation}
    (hop : operation.Fills) (console : Console) :
    (a.perform console operation).ending = .brokeOff := by
  obtain ⟨code, rfl | rfl⟩ := hop
  · rw [Adapter.perform, init, hfill]
    rfl
  · rw [Adapter.perform, eval, hfill]
    rfl

/-- If it does, they settle them. -/
lemma settled_of_fills (hfill : a.fillEnvironment = some b) {operation : Operation}
    (hop : operation.Fills) (console : Console) : (a.perform console operation).Settled := by
  obtain ⟨code, rfl | rfl⟩ := hop
  · exact (settled_init hfill console code).map _
  · exact (settled_eval hfill console code).map _

/-- A run breaks off at its first operation or, if that returns, in the rest. -/
lemma brokeOff_performAll_cons {asked : Console × Operation} {rest : List (Console × Operation)} :
    (∃ outcome ∈ performAll (asked :: rest) a, outcome.ending = .brokeOff)
      ↔ (a.perform asked.1 asked.2).ending = .brokeOff
        ∨ (∃ answer, (a.perform asked.1 asked.2).ending = .returned answer)
          ∧ ∃ outcome ∈ performAll rest (a.perform asked.1 asked.2).adapter,
            outcome.ending = .brokeOff := by
  simp only [mem_performAll_cons, or_and_right, exists_or, exists_eq_left, and_assoc,
    exists_and_left]

/-- From an idle adapter on, the first load or console input decides whether a run breaks off. -/
lemma Idle.brokeOff_iff (h : a.Idle settings env) (run : List (Console × Operation)) :
    (∃ outcome ∈ performAll run a, outcome.ending = .brokeOff)
      ↔ (∃ asked ∈ run, asked.2.Fills) ∧ env.Refuses settings.env := by
  induction run generalizing a with
  | nil => exact iff_of_false (by rintro ⟨_, ⟨⟩, -⟩) (by rintro ⟨⟨_, ⟨⟩, -⟩, -⟩)
  | cons asked rest ih =>
      rw [brokeOff_performAll_cons]
      by_cases hop : asked.2.Fills
      · have hrefuses : a.fillEnvironment = none ↔ env.Refuses settings.env := by
          rw [fillEnvironment_eq_none_iff, h.env, h.settings]
        cases hfill : a.fillEnvironment with
        | none =>
            exact iff_of_true (.inl (brokeOff_of_refuses hfill hop asked.1))
              ⟨⟨asked, List.mem_cons_self, hop⟩, hrefuses.mp hfill⟩
        | some b =>
            -- the variables are settled now, and no later operation can break off either
            have hsettled := settled_of_fills hfill hop asked.1
            refine iff_of_false ?_ fun hrefused => ?_
            · rintro (hbroken | ⟨-, outcome, hmem, hbroken⟩)
              · exact hsettled.ending hbroken
              · exact hsettled.adapter.performAll rest outcome hmem hbroken
            · rw [hrefuses.mpr hrefused.2] at hfill
              cases hfill
      · obtain ⟨hreturned, hidle⟩ := h.perform hop asked.1
        have hgoesOn : (a.perform asked.1 asked.2).ending ≠ .brokeOff := by
          obtain ⟨answer, hanswer⟩ := hreturned
          rw [hanswer]
          nofun
        have hrest : (∃ q ∈ asked :: rest, q.2.Fills) ↔ ∃ q ∈ rest, q.2.Fills := by
          simp only [List.mem_cons, exists_eq_or_imp, hop, false_or]
        rw [or_iff_right hgoesOn, and_iff_right hreturned, ih hidle, hrest]

end Adapter

/-! ### Settings that were read -/

/-- New adapters with settings that were read, in an environment. -/
inductive Configured (interpreter : σ) (settings : Settings) (env : Environment) :
    Adapter σ → Prop
  /-- The settings are those of a text. -/
  | parsed {text : String} (h : Settings.parse text = .ok settings) :
    Configured interpreter settings env (.fresh interpreter settings env)
  /-- The settings are those of a file. -/
  | loaded {tree : FileTree} {path : String} (h : Settings.load tree path = .ok settings) :
    Configured interpreter settings env (.fresh interpreter settings env)
  /-- A C program has put the adapter in the place of another. -/
  | replaced {supply : Foreign.Supply σ} {tree : FileTree} {path : Option CString}
    {a b : Adapter σ} (henv : a.env = env)
    (hinterpreter : supply.renew a.session.interpreter = interpreter)
    (h : Foreign.configure supply tree path a = (true, b)) (hsettings : b.settings = settings) :
    Configured interpreter settings env b

variable {interpreter : σ} {settings : Settings} {env : Environment} {a : Adapter σ}

lemma Configured.idle (h : Configured interpreter settings env a) : a.Idle settings env := by
  cases h with
  | parsed h => exact ⟨rfl, rfl, rfl, rfl⟩
  | loaded h => exact ⟨rfl, rfl, rfl, rfl⟩
  | replaced henv hinterpreter h hsettings =>
      rw [Foreign.configure] at h
      split at h
      · cases h
      · split at h
        · cases h
        · cases h
          exact ⟨rfl, rfl, hsettings, henv⟩

/-- **Settings that are accepted may still break off a run.**

Whatever the interpreter, the environment and the operations are: a run of a new adapter with
settings that were read breaks off exactly when it comes to a load or to console input and the
environment refuses the variables of the settings. Reading them does not look at the names and the
values, and what is missing and cannot be set is refused. -/
theorem Configured.breaksOff_iff [Interpreter σ] (h : Configured interpreter settings env a)
    (run : List (Console × Operation)) :
    (∃ outcome ∈ a.performAll run, outcome.ending = .brokeOff)
      ↔ (∃ asked ∈ run, asked.2.Fills) ∧ env.Refuses settings.env :=
  h.idle.brokeOff_iff run

/-- A text that gives a value to the empty name is accepted, and the first load breaks off. -/
theorem Configured.breaksOff_iff_nameless :
    let text := "[env]\n\"\" = \"x\"\n"
    ∃ settings, Settings.parse text = .ok settings
      ∧ ∃ outcome ∈ (Adapter.fresh ({} : Recorder) settings .empty).performAll
          [({ keywords := [] }, .init "a <- 1")], outcome.ending = .brokeOff := by
  intro text
  have hentries : (Settings.parse text).toOption.map (·.env.entries) = some [("", "x")] := by
    decide +kernel
  cases hparse : Settings.parse text with
  | error rejection =>
      rw [hparse] at hentries
      cases hentries
  | ok settings =>
      rw [hparse] at hentries
      have hrefuses : Environment.Refuses .empty settings.env :=
        ⟨[], "", "x", [], ⟨.empty, [], []⟩, Option.some.inj hentries, rfl, by decide +kernel,
          by decide +kernel⟩
      exact ⟨settings, rfl, (Configured.breaksOff_iff (.parsed hparse) _).mpr
        ⟨⟨_, List.mem_cons_self, "a <- 1", .inl rfl⟩, hrefuses⟩⟩

end RCart
