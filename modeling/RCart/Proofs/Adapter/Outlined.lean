import RCart.Proofs.Adapter.Simulation

/-!
Outlines among other calls.

An outline changes nothing but the panel, and only outlines look at the panel. So outlines can be
put into a run, or left out of it, anywhere.

* `Adapter.blank`, `Outcome.blank`: adapters and outcomes with nothing on the panel;
* `Adapter.simulation_sameButPanel`: adapters that are the same but for the panel cannot be told
  apart;
* `leaveOut`: what is left of a list without the members at some places;
* `inOrder`, `exists_of_getElem?_inOrder`: calls of any kind in order, and what comes of each;
* `inOrder_leaveOut`, `inOrder_congr`: where related states cannot be told apart, calls that lead to
  a related state can be left out, and it does not matter in which of the states calls begin;
* `Adapter.performAll_leaveOut`: so outlines can be left out of a run.
-/

namespace RCart

variable {σ : Type}

/-! ### Panels -/

/-- The adapter with nothing on the panel. -/
def Adapter.blank (a : Adapter σ) : Adapter σ :=
  { a with panel := {} }

/-- The outcome with nothing on the panel. -/
def Outcome.blank {α : Type} (o : Outcome σ α) : Outcome σ α :=
  ⟨o.ending, o.adapter.blank⟩

namespace Adapter

/-- The same but for the panel. -/
def SameButPanel (a b : Adapter σ) : Prop :=
  ∃ panel, b = { a with panel }

lemma SameButPanel.refl (a : Adapter σ) : a.SameButPanel a :=
  ⟨a.panel, rfl⟩

lemma SameButPanel.symm {a b : Adapter σ} (h : a.SameButPanel b) : b.SameButPanel a := by
  obtain ⟨panel, rfl⟩ := h
  exact ⟨a.panel, rfl⟩

lemma SameButPanel.trans {a b c : Adapter σ} (hab : a.SameButPanel b) (hbc : b.SameButPanel c) :
    a.SameButPanel c := by
  obtain ⟨panel, rfl⟩ := hab
  obtain ⟨panel, rfl⟩ := hbc
  exact ⟨panel, rfl⟩

lemma SameButPanel.blank {a b : Adapter σ} (h : a.SameButPanel b) : b.blank = a.blank := by
  obtain ⟨panel, rfl⟩ := h
  rfl

lemma SameButPanel.logAll {a b : Adapter σ} (h : a.SameButPanel b) (records : List LogRecord) :
    (a.logAll records).SameButPanel (b.logAll records) := by
  obtain ⟨panel, rfl⟩ := h
  exact ⟨panel, rfl⟩

lemma SameButPanel.fillEnvironment {a b : Adapter σ} (h : a.SameButPanel b) :
    Option.Rel SameButPanel a.fillEnvironment b.fillEnvironment := by
  obtain ⟨panel, rfl⟩ := h
  rw [Adapter.fillEnvironment, Adapter.fillEnvironment]
  cases a.env.fill a.settings.env with
  | none => exact .none
  | some filled => exact .some ⟨panel, rfl⟩

variable [Interpreter σ]

lemma SameButPanel.start {a b : Adapter σ} (h : a.SameButPanel b) :
    a.start.Related SameButPanel b.start := by
  obtain ⟨panel, rfl⟩ := h
  simp only [Adapter.start]
  rcases a.session.start a.settings.argv a.settings.maxStartAttempts with ⟨fault | up, session, log⟩
  · exact ⟨rfl, panel, rfl⟩
  · cases up <;> exact ⟨rfl, panel, rfl⟩

/-- Adapters that are the same but for the panel cannot be told apart. -/
lemma simulation_sameButPanel (console : Console) :
    Simulation (SameButPanel (σ := σ)) console console where
  keywords := rfl
  attached := by
    rintro a _ ⟨panel, rfl⟩
    rfl
  runtime := by
    rintro a _ ⟨panel, rfl⟩
    rfl
  log := SameButPanel.logAll
  tell := by
    rintro a _ ⟨panel, rfl⟩ text
    exact ⟨panel, rfl⟩
  evaluate := by
    rintro a _ ⟨panel, rfl⟩ code
    exact ⟨rfl, panel, rfl⟩
  start := SameButPanel.start
  asked := by
    rintro a _ ⟨panel, rfl⟩
    exact ⟨rfl, panel, rfl⟩
  shutDown := by
    rintro a _ ⟨panel, rfl⟩
    exact ⟨panel, rfl⟩
  detach := by
    rintro a _ ⟨panel, rfl⟩
    exact ⟨panel, rfl⟩
  fatal := by
    rintro a _ ⟨panel, rfl⟩ reason
    exact ⟨panel, rfl⟩
  fill := SameButPanel.fillEnvironment
  outline := by
    rintro a _ ⟨panel, rfl⟩ code
    have hitems : (panel.showParameters code).items = (a.panel.showParameters code).items := by
      rw [OutlinePanel.items_showParameters, OutlinePanel.items_showParameters]
    exact ⟨congrArg Ending.returned hitems, panel.showParameters code, rfl⟩

end Adapter

/-! ### Leaving calls out -/

/-- What is left of a list without the members at some places. -/
def leaveOut {α : Type} (out : ℕ → Bool) : List α → List α
  | [] => []
  | x :: l =>
    let rest := leaveOut (fun i => out (i + 1)) l
    if out 0 then rest else x :: rest

/-! ### Calls of any kind -/

section InOrder

variable {γ S O α β : Type} (ending : O → Ending α) (state : O → S) (step : γ → S → O)

/-- Calls of any kind in order, up to the first that does not return. The outcomes, one for each
call that was made; each has an ending, and leaves a state to the next call. -/
def inOrder : List γ → S → List O
  | [], _ => []
  | call :: rest, s =>
    let outcome := step call s
    match ending outcome with
    | .returned _ => outcome :: inOrder rest (state outcome)
    | _ => [outcome]

variable {ending state step}

/-- Each outcome is that of its call, on what the calls before have left. -/
lemma exists_of_getElem?_inOrder {calls : List γ} {i : ℕ} {call : γ} (hcall : calls[i]? = some call)
    {s : S} {outcome : O} (houtcome : (inOrder ending state step calls s)[i]? = some outcome) :
    ∃ before, outcome = step call before := by
  induction calls generalizing i s with
  | nil => cases hcall
  | cons first rest ih =>
      rw [inOrder] at houtcome
      cases i with
      | zero =>
          obtain rfl : first = call := Option.some.inj hcall
          refine ⟨s, ?_⟩
          split at houtcome <;> exact (Option.some.inj houtcome).symm
      | succ i =>
          split at houtcome
          · exact ih hcall houtcome
          · cases houtcome

/-- Outcomes that end alike, leave related states and are seen alike. -/
structure SeenAlike (ending : O → Ending α) (state : O → S) (R : S → S → Prop) (seen : O → β)
    (o p : O) : Prop where
  ending : ending p = ending o
  state : R (state o) (state p)
  seen : seen p = seen o

variable {R : S → S → Prop} {seen : O → β}

/-- Where related states cannot be told apart, calls that lead to a related state can be left
out. -/
lemma inOrder_leaveOut {Passes : γ → Prop}
    (hstep : ∀ call {s t}, R s t → SeenAlike ending state R seen (step call s) (step call t))
    (hpasses : ∀ call {s t}, Passes call → R s t →
      (∃ answer, ending (step call s) = .returned answer) ∧ R (state (step call s)) t)
    {out : ℕ → Bool} {calls : List γ} (hout : ∀ i, out i = true → ∀ call ∈ calls[i]?, Passes call)
    {s t : S} (hst : R s t) :
    (leaveOut out (inOrder ending state step calls s)).map seen
      = (inOrder ending state step (leaveOut out calls) t).map seen := by
  induction calls generalizing out s t with
  | nil => rfl
  | cons call rest ih =>
      have hlater : ∀ i, out (i + 1) = true → ∀ call ∈ rest[i]?, Passes call :=
        fun i hi => hout (i + 1) hi
      cases hzero : out 0 with
      | true =>
          obtain ⟨⟨answer, hanswer⟩, hleft⟩ := hpasses call (hout 0 hzero call rfl) hst
          simp only [inOrder, leaveOut, hanswer, hzero, if_true]
          exact ih hlater hleft
      | false =>
          have halike := hstep call hst
          simp only [leaveOut, hzero, Bool.false_eq_true, if_false, inOrder, halike.ending]
          cases ending (step call s) with
          | returned answer =>
              simp only [leaveOut, hzero, Bool.false_eq_true, if_false, List.map_cons, halike.seen]
              exact congrArg _ (ih hlater halike.state)
          | terminated => simp [leaveOut, hzero, halike.seen]
          | brokeOff => simp [leaveOut, hzero, halike.seen]

lemma leaveOut_nothing (l : List γ) : leaveOut (fun _ => false) l = l := by
  induction l with
  | nil => rfl
  | cons x l ih => exact congrArg (List.cons x) ih

/-- Calls in related states are seen alike. -/
lemma inOrder_congr
    (hstep : ∀ call {s t}, R s t → SeenAlike ending state R seen (step call s) (step call t))
    (calls : List γ) {s t : S} (hst : R s t) :
    (inOrder ending state step calls s).map seen
      = (inOrder ending state step calls t).map seen := by
  have h : (leaveOut (fun _ => false) (inOrder ending state step calls s)).map seen
      = (inOrder ending state step (leaveOut (fun _ => false) calls) t).map seen :=
    inOrder_leaveOut hstep (fun _ _ _ (h : False) _ => h.elim)
      (fun _ h => absurd h Bool.false_ne_true) hst
  rwa [leaveOut_nothing, leaveOut_nothing] at h

end InOrder

/-! ### Operations -/

namespace Adapter

/-- Operations that end alike, in adapters that are the same but for the panel, are seen alike but
for the panel. -/
lemma seenAlike_blank {α : Type} {o p : Outcome σ α} (h : o.Related SameButPanel p) :
    SeenAlike Outcome.ending Outcome.adapter SameButPanel Outcome.blank o p :=
  ⟨h.ending, h.adapter, congrArg₂ Outcome.mk h.ending h.adapter.blank⟩

variable [Interpreter σ]

lemma performAll_eq (run : List (Console × Operation)) (a : Adapter σ) :
    performAll run a
      = inOrder Outcome.ending Outcome.adapter (fun asked => perform asked.1 asked.2) run a := by
  induction run generalizing a with
  | nil => rfl
  | cons asked rest ih =>
      rw [performAll, inOrder]
      cases (perform asked.1 asked.2 a).ending <;> simp only [ih]

/-- Outlines can be left out of a run. -/
lemma performAll_leaveOut {out : ℕ → Bool} {run : List (Console × Operation)}
    (hout : ∀ i, out i = true → ∀ asked ∈ run[i]?, ∃ text, asked.2 = .outline text)
    (a : Adapter σ) :
    (leaveOut out (performAll run a)).map Outcome.blank
      = (performAll (leaveOut out run) a).map Outcome.blank := by
  rw [performAll_eq, performAll_eq]
  refine inOrder_leaveOut (fun asked _ _ hab => ?_) ?_ hout (SameButPanel.refl a)
  · exact seenAlike_blank ((simulation_sameButPanel asked.1).perform hab asked.2)
  · rintro ⟨console, _⟩ a b ⟨text, rfl⟩ ⟨panel, rfl⟩
    exact ⟨⟨_, rfl⟩, panel, rfl⟩

end Adapter

end RCart
