import Mathlib.Tactic.Common
import RCart.Adapter.Operation

/-!
Runs of an adapter.

* `Adapter.afterAll`: the adapter after a run in which every operation returns;
* `Adapter.afterAll_append`: such a run goes on where another has ended;
* `Adapter.mem_performAll_cons`: the outcomes of any run, from its first operation on;
* `Adapter.afterAll_keeps`, `performAll_keeps`: what operations keep is kept along a run.
-/

namespace RCart

/-- The adapter that an outcome hands on: that of an operation that returned. -/
def Outcome.next? {σ α : Type} (o : Outcome σ α) : Option (Adapter σ) :=
  match o.ending with
  | .returned _ => some o.adapter
  | .terminated | .brokeOff => none

lemma Outcome.next?_eq_some_iff {σ α : Type} {o : Outcome σ α} {a : Adapter σ} :
    o.next? = some a ↔ (∃ answer, o.ending = .returned answer) ∧ o.adapter = a := by
  obtain ⟨ending, b⟩ := o
  cases ending <;> simp [next?]

lemma Ending.map_eq_terminated_iff {α β : Type} {ending : Ending α} {f : α → β} :
    ending.map f = .terminated ↔ ending = .terminated := by
  cases ending <;> simp [map]

lemma Outcome.returned_map_iff {σ α β : Type} {o : Outcome σ α} {f : α → β} :
    (∃ answer, (o.map f).ending = .returned answer) ↔ ∃ answer, o.ending = .returned answer := by
  obtain ⟨ending, a⟩ := o
  cases ending <;> simp [map, Ending.map]

namespace Adapter

variable {σ : Type} [Interpreter σ]

/-- The adapter after operations in order, each with the console that asks for it; `none` if one of
them does not return. -/
def afterAll (operations : List (Console × Operation)) (a : Adapter σ) : Option (Adapter σ) :=
  operations.foldlM (fun a asked => (a.perform asked.1 asked.2).next?) a

lemma afterAll_cons (asked : Console × Operation) (rest : List (Console × Operation))
    (a : Adapter σ) :
    afterAll (asked :: rest) a = (a.perform asked.1 asked.2).next?.bind (afterAll rest) := rfl

lemma afterAll_append (first rest : List (Console × Operation)) (a : Adapter σ) :
    afterAll (first ++ rest) a = (afterAll first a).bind (afterAll rest) :=
  List.foldlM_append

/-- An outcome of a run is that of its first operation or, if that returned, one of the rest. -/
lemma mem_performAll_cons {asked : Console × Operation} {rest : List (Console × Operation)}
    {a : Adapter σ} {outcome : Outcome σ Answer} :
    outcome ∈ performAll (asked :: rest) a
      ↔ outcome = a.perform asked.1 asked.2
        ∨ (∃ answer, (a.perform asked.1 asked.2).ending = .returned answer)
          ∧ outcome ∈ performAll rest (a.perform asked.1 asked.2).adapter := by
  simp only [performAll]
  cases (a.perform asked.1 asked.2).ending <;> simp

/-- A run in which every operation returns is performed to its end. -/
lemma length_performAll {run : List (Console × Operation)} {a : Adapter σ}
    (h : ∀ outcome ∈ performAll run a, ∃ answer, outcome.ending = .returned answer) :
    (performAll run a).length = run.length := by
  induction run generalizing a with
  | nil => rfl
  | cons asked rest ih =>
      obtain ⟨answer, hanswer⟩ := h _ (mem_performAll_cons.mpr (.inl rfl))
      have hperform : performAll (asked :: rest) a = a.perform asked.1 asked.2
          :: performAll rest (a.perform asked.1 asked.2).adapter := by
        rw [performAll, hanswer]
      rw [hperform, List.forall_mem_cons] at h
      rw [hperform, List.length_cons, ih h.2, List.length_cons]

/-! ### What is kept -/

variable {P : Adapter σ → Prop} {run : List (Console × Operation)}

/-- What every operation of a run keeps holds after it. -/
lemma afterAll_keeps (hkeeps : ∀ asked ∈ run, ∀ a, P a → P (perform asked.1 asked.2 a).adapter)
    {a b : Adapter σ} (ha : P a) (h : afterAll run a = some b) : P b := by
  induction run generalizing a with
  | nil => exact Option.some.inj h ▸ ha
  | cons asked rest ih =>
      obtain ⟨hfirst, hrest⟩ := List.forall_mem_cons.mp hkeeps
      obtain ⟨c, hc, hb⟩ := Option.bind_eq_some_iff.mp h
      obtain ⟨-, rfl⟩ := Outcome.next?_eq_some_iff.mp hc
      exact ih hrest (hfirst a ha) hb

/-- Where every operation of a run, done on what the one before has left, comes to a good outcome,
all outcomes are good. -/
lemma performAll_keeps {Q : Outcome σ Answer → Prop}
    (hkeeps : ∀ asked ∈ run, ∀ a, P a → Q (perform asked.1 asked.2 a))
    (hleft : ∀ outcome, Q outcome → P outcome.adapter) {a : Adapter σ} (ha : P a) :
    ∀ outcome ∈ performAll run a, Q outcome := by
  induction run generalizing a with
  | nil => exact List.forall_mem_nil _
  | cons asked rest ih =>
      obtain ⟨hfirst, hrest⟩ := List.forall_mem_cons.mp hkeeps
      intro outcome hmem
      rcases mem_performAll_cons.mp hmem with rfl | ⟨-, hmem⟩
      · exact hfirst a ha
      · exact ih hrest (hleft _ (hfirst a ha)) outcome hmem

end Adapter

end RCart
