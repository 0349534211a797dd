import RCart.Proofs.Adapter.BreakOff
import RCart.Proofs.Adapter.Stride

/-!
The environment along a run.

* `Adapter.Provided`: the variables of the settings have their defaults;
* `Adapter.env_of_not_fills`, `env_of_fills`: what an operation makes of the environment;
* `Adapter.provided_afterAll`: after the first load or console input of a run the variables have
  their defaults, and keep them;
* **`Adapter.environment_disciplined`**: variables are set when they are missing, once, and nothing
  else ever changes.
-/

namespace RCart

namespace Adapter

variable {σ : Type} {a b : Adapter σ}

/-! ### Variables that have their defaults -/

/-- The variables of the settings have their defaults, so that giving them again changes nothing. -/
def Provided (a : Adapter σ) : Prop :=
  a.env.Given a.settings.env.entries

lemma Provided.congr (h : a.Provided) (hsettings : b.settings = a.settings) (henv : b.env = a.env) :
    b.Provided := by
  rw [Provided, hsettings, henv]
  exact h

lemma provided_of_fillEnvironment (h : a.fillEnvironment = some b) : b.Provided := by
  obtain ⟨filled, hfilled, rfl⟩ := Option.map_eq_some_iff.mp h
  exact Environment.given_of_fillEntries hfilled a.settings.env.ascending

lemma Provided.env_of_fillEnvironment (h : a.Provided) (hfill : a.fillEnvironment = some b) :
    b.env = a.env := by
  obtain ⟨filled, hfilled, rfl⟩ := Option.map_eq_some_iff.mp hfill
  obtain ⟨again, hagain, henv⟩ := Environment.exists_fillEntries_of_given h
  cases hfilled.symm.trans hagain
  exact henv

/-! ### Operations -/

variable [Interpreter σ]

lemma env_close (console : Console) (a : Adapter σ) : (a.close console).adapter.env = a.env := by
  rw [close]
  split
  · exact (surroundings_conclude _).env.trans (surroundings_release console a).env
  · rfl

lemma env_call (console : Console) (request : Source.GuardedCall) (a : Adapter σ) :
    (a.call console request).adapter.env = a.env := by
  rw [call]
  split
  · exact (surroundings_conclude _).env.trans (surroundings_runForgiving console _ a).env
  · rfl

/-- Hooks, calls, closes and outlines leave the environment alone. -/
lemma env_of_not_fills {operation : Operation} (hop : ¬ operation.Fills) (console : Console)
    (a : Adapter σ) : (a.perform console operation).adapter.env = a.env := by
  cases operation with
  | init code => exact absurd ⟨code, .inl rfl⟩ hop
  | close => exact env_close console a
  | tick => exact env_call console _ a
  | boot => exact env_call console _ a
  | menu index data => exact env_call console _ (a.note _ _)
  | border row data => exact env_call console _ (a.note _ _)
  | scanline row data => exact env_call console _ (a.note _ _)
  | eval code => exact absurd ⟨code, .inr rfl⟩ hop
  | invoke request => exact env_call console request a
  | outline code => rfl

lemma env_init (hfill : a.fillEnvironment = some b) (console : Console) (code : String) :
    (a.init console code).adapter.env = b.env := by
  rw [init_of_fill hfill]
  exact (surroundings_concludeLoad code _).env.trans (surroundings_load console code b).env

/-- Console input that starts the interpreter gives the defaults twice, and the second time nothing
changes. -/
lemma env_eval (hfill : a.fillEnvironment = some b) (console : Console) (code : String) :
    (a.eval console code).adapter.env = b.env := by
  have hasked : b.mustStart.2.SameSurroundings b := surroundings_mustStart b
  cases hmust : b.mustStart.1 with
  | true =>
      have hprovided : b.mustStart.2.Provided :=
        (provided_of_fillEnvironment hfill).congr hasked.settings hasked.env
      obtain ⟨c, hagain⟩ :=
        ((settled_of_fillEnvironment hfill).congr hasked).exists_fillEnvironment
      rw [eval_of_mustStart hfill hmust]
      calc (b.mustStart.2.init console code).adapter.env = c.env := env_init hagain console code
        _ = b.mustStart.2.env := hprovided.env_of_fillEnvironment hagain
        _ = b.env := hasked.env
  | false =>
      rw [eval_of_not_mustStart hfill hmust]
      calc (conclude (b.mustStart.2.runForgiving console code)).adapter.env
          = (b.mustStart.2.runForgiving console code).adapter.env := (surroundings_conclude _).env
        _ = b.mustStart.2.env := (surroundings_runForgiving console code _).env
        _ = b.env := hasked.env

/-- Loads and console input give the variables their defaults, however they end. -/
lemma env_of_fills (hfill : a.fillEnvironment = some b) {operation : Operation}
    (hop : operation.Fills) (console : Console) :
    (a.perform console operation).adapter.env = b.env := by
  obtain ⟨code, rfl | rfl⟩ := hop
  · exact env_init hfill console code
  · exact env_eval hfill console code

/-! ### Runs -/

/-- Variables that have their defaults keep them. -/
lemma Provided.env_perform (h : a.Provided) (console : Console) (operation : Operation) :
    (a.perform console operation).adapter.env = a.env := by
  by_cases hop : operation.Fills
  · cases hfill : a.fillEnvironment with
    | none =>
        obtain ⟨code, rfl | rfl⟩ := hop
        · rw [perform, init, hfill]
          rfl
        · rw [perform, eval, hfill]
          rfl
    | some b => exact (env_of_fills hfill hop console).trans (h.env_of_fillEnvironment hfill)
  · exact env_of_not_fills hop console a

lemma Provided.perform (h : a.Provided) (console : Console) (operation : Operation) :
    (a.perform console operation).adapter.Provided :=
  h.congr (settings_perform console operation a) (h.env_perform console operation)

/-- After the first load or console input of a run, the variables have their defaults. -/
lemma provided_afterAll (hsettled : a.Settled) {run : List (Console × Operation)}
    (hrun : afterAll run a = some b) (hfills : ∃ asked ∈ run, asked.2.Fills) : b.Provided := by
  induction run generalizing a with
  | nil => exact absurd hfills (by simp)
  | cons asked rest ih =>
      obtain ⟨c, hc, hrest⟩ := Option.bind_eq_some_iff.mp hrun
      obtain ⟨-, rfl⟩ := Outcome.next?_eq_some_iff.mp hc
      by_cases hop : asked.2.Fills
      · -- from here on every operation keeps what this one has given
        obtain ⟨d, hfill⟩ := hsettled.exists_fillEnvironment
        have hgiven : Stride asked.1 a d := .fill hfill
        have hprovided : (a.perform asked.1 asked.2).adapter.Provided := by
          refine (provided_of_fillEnvironment hfill).congr ?_ (env_of_fills hfill hop asked.1)
          rw [settings_perform, hgiven.settings_eq]
        exact afterAll_keeps (fun asked _ _ h => h.perform asked.1 asked.2) hprovided hrest
      · have hlater : ∃ q ∈ rest, q.2.Fills := by
          obtain ⟨q, hq, hfill⟩ := hfills
          rcases List.mem_cons.mp hq with rfl | hq
          · exact absurd hfill hop
          · exact ⟨q, hq, hfill⟩
        exact ih (hsettled.perform asked.1 asked.2).adapter hrest hlater

/-- **Variables are set when they are missing, once, and nothing else ever changes.**

The variables of some settings can all be set. Then every environment takes their defaults: just
those that are unset or empty are set, in ascending order of the names, each to its default, and no
other variable changes.

Along every run of an adapter with these settings, whatever its interpreter, its consoles and the
environment that it starts in, no operation breaks off. A variable that has a value, or that the
settings do not have, is never changed, and hooks, calls, closes and outlines change none. After
each load and each console input, however they end, every variable with a default that is not empty
has a value. And after the first of them no operation changes the environment any more. -/
theorem environment_disciplined {defaults : Bindings}
    (hsettable : ∀ e ∈ defaults.entries, isSettable e.1 e.2 = true) :
    (∀ env : Environment, ∃ filled, env.fill defaults = some filled
        ∧ filled.names = (defaults.entries.map Prod.fst).filter env.lacks
        ∧ filled.names.Pairwise (· < ·)
        ∧ ∀ name, filled.env.get? name
          = if name ∈ filled.names then defaults.get? name else env.get? name)
      ∧ ∀ (a b : Adapter σ) (run : List (Console × Operation)), a.settings.env = defaults →
        afterAll run a = some b → ∀ console operation,
        let outcome := b.perform console operation
        outcome.ending ≠ .brokeOff
          ∧ (∀ name, b.env.lacks name = false ∨ defaults.get? name = none →
            outcome.adapter.env.get? name = b.env.get? name)
          ∧ (¬ operation.Fills → outcome.adapter.env = b.env)
          ∧ (operation.Fills → ∀ e ∈ defaults.entries, e.2 ≠ "" →
            outcome.adapter.env.lacks e.1 = false)
          ∧ ((∃ asked ∈ run, asked.2.Fills) → outcome.adapter.env = b.env) := by
  refine ⟨Environment.exists_fill_exact hsettable, ?_⟩
  rintro a b run rfl hrun console operation outcome
  have hsettings : b.settings = a.settings := settings_afterAll hrun
  have hsettled (c : Adapter σ) (hc : c.settings = a.settings) : c.Settled := by
    rw [Settled, hc]
    exact Environment.settled_of_settable hsettable c.env
  obtain ⟨filled, hfilled, hnames, -, hvalues⟩ := Environment.exists_fill_exact hsettable b.env
  obtain ⟨c, hfill, -, hsame⟩ := fillEnvironment_of_fill (hsettings ▸ hfilled)
  have henv : operation.Fills → outcome.adapter.env = filled.env := fun hop =>
    (env_of_fills hfill hop console).trans hsame.env
  refine ⟨((hsettled b hsettings).perform console operation).ending, fun name hname => ?_,
    fun hop => env_of_not_fills hop console b, fun hop e he hdefault => ?_, fun hfills => ?_⟩
  · by_cases hop : operation.Fills
    · have hkept : name ∉ filled.names := by
        rw [hnames, List.mem_filter]
        rintro ⟨hmem, hlacks⟩
        rcases hname with hvalue | habsent
        · exact Bool.false_ne_true (hvalue.symm.trans hlacks)
        · exact Bindings.get?_eq_none_iff.mp habsent hmem
      rw [henv hop, hvalues, if_neg hkept]
    · rw [env_of_not_fills hop console b]
  · have hget : a.settings.env.get? e.1 = some e.2 := Bindings.get?_eq_some_iff.mpr he
    rw [Environment.lacks_eq_false_iff, henv hop, hvalues]
    split
    · exact ⟨e.2, hget, hdefault⟩
    · next hkept =>
      rw [hnames, List.mem_filter, not_and] at hkept
      exact Environment.lacks_eq_false_iff.mp
        (eq_false_of_ne_true (hkept (List.mem_map_of_mem he)))
  · exact (provided_afterAll (hsettled a rfl) hrun hfills).env_perform console operation

/-- A variable with a value, an empty one and an empty default, for an interpreter whose first
starts fail: console input that cannot start it has given the defaults all the same, and the load
after it finds them. -/
theorem environment_disciplined_failing :
    let defaults : Bindings := .ofList [("R_HOME", "/usr/lib/R"), ("LANG", ""), ("HOME", "/root")]
    let env : Environment := .ofList [("HOME", "/home/r"), ("R_HOME", "")]
    let r : Recorder := { failingStarts := 2 }
    let a := fresh r { env := defaults, maxStartAttempts := 2 } env
    let console : Console := { keywords := [] }
    (∃ filled, env.fill defaults = some filled ∧ filled.names = ["LANG", "R_HOME"]
        ∧ filled.env.get? "R_HOME" = some "/usr/lib/R" ∧ filled.env.get? "HOME" = some "/home/r")
      ∧ ∃ b, afterAll [(console, .eval "x <- 1")] a = some b
        ∧ b.session.runtime = .notStarted
        ∧ b.env.lacks "R_HOME" = false
        ∧ (b.perform console (.init "y <- 2")).ending ≠ .brokeOff
        ∧ (b.perform console (.init "y <- 2")).adapter.env = b.env := by
  intro defaults env r a console
  have hsettable : ∀ e ∈ defaults.entries, isSettable e.1 e.2 = true := by decide +kernel
  obtain ⟨hfill, hruns⟩ := environment_disciplined (σ := Recorder) hsettable
  constructor
  · obtain ⟨filled, hfilled, hnames, -, hvalues⟩ := hfill env
    have hmissing : (defaults.entries.map Prod.fst).filter env.lacks = ["LANG", "R_HOME"] := by
      decide +kernel
    rw [hmissing] at hnames
    refine ⟨filled, hfilled, hnames, ?_, ?_⟩
    · rw [hvalues, hnames]
      decide +kernel
    · rw [hvalues, hnames]
      decide +kernel
  · have hrun : (afterAll [(console, .eval "x <- 1")] a).map (·.session.runtime)
        = some .notStarted := by decide +kernel
    obtain ⟨b, hb, hruntime⟩ := Option.map_eq_some_iff.mp hrun
    have hfirst := hruns a a [] rfl rfl console (.eval "x <- 1")
    have hsecond := hruns a b [(console, .eval "x <- 1")] rfl hb console (.init "y <- 2")
    have hleft : (a.perform console (.eval "x <- 1")).adapter = b := by
      obtain ⟨c, hc, hcb⟩ := Option.bind_eq_some_iff.mp ((afterAll_cons _ _ _).symm.trans hb)
      exact (Outcome.next?_eq_some_iff.mp hc).2.trans (Option.some.inj hcb)
    refine ⟨b, hb, hruntime, ?_, hsecond.1, ?_⟩
    · exact hleft ▸ hfirst.2.2.2.1 ⟨_, .inr rfl⟩ ("R_HOME", "/usr/lib/R") (by decide +kernel)
        (by decide)
    · exact hsecond.2.2.2.2 ⟨_, List.mem_cons_self, _, .inr rfl⟩

end Adapter

end RCart
