import RCart.Proofs.Adapter.Simulation
import RCart.Proofs.Interpreter.Morphism

/-!
What has passed before does not count.

An adapter adds to its transcript and never reads it; only consoles remember. So an adapter does
over a longer transcript what it does over a shorter one, for a console that has seen the rest.

* `Console.since`: a console that has seen something before;
* `Adapter.precededBy`: an adapter that something has passed before;
* `Adapter.simulation_precededBy`: the two cannot be told apart.
-/

namespace RCart

/-! ### Consoles that remember -/

/-- The console as it is when it has seen some exchanges before the first that is kept. -/
def Console.since (history : List Exchange) (console : Console) : Console :=
  { console with reply := fun later request => console.reply (history ++ later) request }

/-- A transcript before which something has passed. -/
def Transcript.precededBy (before t : Transcript) : Transcript :=
  { exchanges := before.exchanges ++ t.exchanges, log := before.log ++ t.log }

namespace Transcript

variable (before t : Transcript)

lemma precededBy_pass (e : Exchange) :
    (before.precededBy t).pass e = before.precededBy (t.pass e) := by
  simp only [precededBy, pass, List.append_assoc]

lemma precededBy_logAll (records : List LogRecord) :
    (before.precededBy t).logAll records = before.precededBy (t.logAll records) := by
  simp only [precededBy, logAll, List.append_assoc]

lemma precededBy_fatal (reason : String) :
    (before.precededBy t).fatal reason = before.precededBy (t.fatal reason) := by
  rw [fatal, note, precededBy_logAll, trace, precededBy_pass]
  rfl

/-- A console answers a call by what it has seen, here or before. -/
lemma native_precededBy (console : Console) (color : UInt8) (request : ApiCall) :
    console.native color request (before.precededBy t)
      = (((console.since before.exchanges).native color request t).1,
        before.precededBy ((console.since before.exchanges).native color request t).2) := by
  rw [Console.native, Console.native]
  split
  · exact congrArg (Prod.mk Value.null) (precededBy_pass before t _)
  · have hreply : (console.since before.exchanges).reply t.exchanges request
        = console.reply (before.precededBy t).exchanges request := rfl
    rw [Console.answer, Console.answer, hreply]
    cases console.reply (before.precededBy t).exchanges request with
    | some value => exact congrArg (Prod.mk value) (precededBy_pass before t _)
    | none =>
        simp only [note]
        rw [precededBy_pass, precededBy_logAll]
        rfl

/-- And so it does in an evaluation. -/
lemma run_precededBy {α : Type} (console : Console) (color : UInt8) (e : Evaluation α) :
    e.run (console.sink color) (before.precededBy t)
      = ((e.run ((console.since before.exchanges).sink color) t).1,
        (e.run ((console.since before.exchanges).sink color) t).2.1,
        before.precededBy (e.run ((console.since before.exchanges).sink color) t).2.2) := by
  induction e generalizing t with
  | finish result state => rfl
  | print text next ih =>
      rw [Evaluation.run, Evaluation.run]
      change next.run _ ((before.precededBy t).pass (.trace text color)) = _
      rw [precededBy_pass]
      exact ih _
  | call request next ih =>
      rw [Evaluation.run, Evaluation.run]
      change (next (console.native color request (before.precededBy t)).1).run _
        (console.native color request (before.precededBy t)).2 = _
      rw [native_precededBy]
      exact ih _ _
  | note record next ih =>
      rw [Evaluation.run, Evaluation.run]
      change next.run _ ((before.precededBy t).logAll [record]) = _
      rw [precededBy_logAll]
      exact ih _

end Transcript

/-! ### Adapters with a past -/

/-- The same adapter with something that has passed before. -/
def Adapter.precededBy {σ : Type} (before : Transcript) (a : Adapter σ) : Adapter σ :=
  { a with transcript := before.precededBy a.transcript }

/-- The same outcome with something that has passed before. -/
def Outcome.precededBy {σ α : Type} (before : Transcript) (o : Outcome σ α) : Outcome σ α :=
  ⟨o.ending, o.adapter.precededBy before⟩

variable {σ : Type} {before : Transcript}

namespace Adapter

/-- With a past, a new adapter has the transcript of the past. -/
lemma precededBy_fresh (interpreter : σ) (settings : Settings) (env : Environment) :
    (fresh interpreter settings env).precededBy before
      = { session := { interpreter }, settings, env, transcript := before } := by
  simp only [fresh, precededBy, Transcript.precededBy, List.append_nil]

lemma logAll_precededBy (a : Adapter σ) (records : List LogRecord) :
    (a.precededBy before).logAll records = (a.logAll records).precededBy before :=
  congrArg (fun transcript => { a with transcript }) (before.precededBy_logAll _ _)

lemma fillEnvironment_precededBy (a : Adapter σ) :
    (a.precededBy before).fillEnvironment = a.fillEnvironment.map (precededBy before) := by
  rw [fillEnvironment, fillEnvironment, Option.map_map]
  exact congrArg (fun f => Option.map f (a.env.fill a.settings.env)) <|
    funext fun filled => logAll_precededBy { a with env := filled.env } filled.log

variable [Interpreter σ]

lemma start_precededBy (a : Adapter σ) :
    (a.precededBy before).start = ⟨a.start.result, a.start.adapter.precededBy before⟩ := by
  have hsession : (a.precededBy before).session = a.session := rfl
  have hsettings : (a.precededBy before).settings = a.settings := rfl
  simp only [start, hsession, hsettings]
  rcases a.session.start a.settings.argv a.settings.maxStartAttempts with ⟨result, session, records⟩
  have hlog : (({ a with session } : Adapter σ).precededBy before).logAll records
      = (({ a with session } : Adapter σ).logAll records).precededBy before :=
    logAll_precededBy _ records
  cases result with
  | error fault => exact congrArg (Attempt.mk (.error fault)) hlog
  | ok up =>
      cases up with
      | true =>
          have hnote := congrArg
            (·.note .info ("R started: " ++ Text.debugList a.settings.argv)) hlog
          exact congrArg done (hnote.trans (logAll_precededBy _ _))
      | false => exact congrArg done hlog

/-- An adapter and the same adapter with a past cannot be told apart, if the console of the second
has seen the past and that of the first remembers it. -/
lemma simulation_precededBy (before : Transcript) (console : Console) :
    Simulation (fun a b : Adapter σ => b = a.precededBy before)
      (console.since before.exchanges) console where
  keywords := rfl
  attached := by
    rintro a _ rfl
    rfl
  runtime := by
    rintro a _ rfl
    rfl
  log := by
    rintro a _ rfl records
    exact a.logAll_precededBy records
  tell := by
    rintro a _ rfl text
    exact congrArg (fun transcript => { a with transcript }) (before.precededBy_pass _ _)
  evaluate := by
    rintro a _ rfl code
    have hrun := before.run_precededBy a.transcript console a.settings.traceColor
      (a.session.eval code)
    refine ⟨congrArg (·.1) hrun, ?_⟩
    exact congrArg (fun ended => { a with session := ended.2.1, transcript := ended.2.2 }) hrun
  start := by
    rintro a _ rfl
    rw [start_precededBy]
    exact ⟨rfl, rfl⟩
  asked := by
    rintro a _ rfl
    exact ⟨rfl, rfl⟩
  shutDown := by
    rintro a _ rfl
    exact logAll_precededBy { a with session := a.session.stop.1 } a.session.stop.2
  detach := by
    rintro a _ rfl
    rfl
  fatal := by
    rintro a _ rfl reason
    exact congrArg (fun transcript => { a with transcript }) (before.precededBy_fatal _ _)
  fill := by
    rintro a _ rfl
    rw [fillEnvironment_precededBy]
    exact rel_map_image a.fillEnvironment
  outline := by
    rintro a _ rfl code
    exact ⟨rfl, rfl⟩

end Adapter

end RCart
