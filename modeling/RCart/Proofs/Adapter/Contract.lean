import Mathlib.Data.List.Chain
import RCart.Proofs.Adapter.Morphism
import RCart.Proofs.Adapter.Moves
import RCart.Proofs.Session.Contract

/-!
The contract between an adapter and its interpreter.

An adapter does nothing with its session but the actions of `Session.Action`, so what holds after
any actions holds along every run of an adapter:

* `Session.Moves.reaches`: the moves of an adapter are made of actions;
* `Adapter.isChain_performAll`: along a run, each session is reached from the one before;
* **`Adapter.calls_keep_contract`**: the calls on the interpreter keep the contract, whatever the
  interpreter does, for sessions and for adapters.
-/

namespace RCart

namespace Adapter

variable {σ : Type} [Interpreter σ]

/-- Along a run, the session of each outcome is reached from the one before. -/
lemma isChain_performAll (operations : List (Console × Operation)) (a : Adapter σ) :
    (a.session :: (performAll operations a).map fun outcome => outcome.adapter.session).IsChain
      Session.Reaches := by
  induction operations generalizing a with
  | nil => exact .singleton _
  | cons asked rest ih =>
      have h := (a.moves_perform asked.1 asked.2).reaches
      simp only [performAll]
      split
      · exact List.isChain_cons_cons.mpr ⟨h, ih _⟩
      · exact List.isChain_cons_cons.mpr ⟨h, .singleton _⟩

/-! ### The contract -/

/-- A new adapter over an interpreter under watch. -/
def watching (interpreter : σ) (settings : Settings) (env : Environment) : Adapter (Watched σ) :=
  fresh { inner := interpreter } settings env

/-- **The contract with the interpreter**, for every interpreter and every run.

Whatever is done with a new session, its calls on the interpreter keep the contract, and watching
the interpreter changes nothing. An adapter leaves its session to such actions, from each operation
of a run to the next, so the same holds after all of them. -/
theorem calls_keep_contract (interpreter : σ) :
    (∀ actions : List Session.Action,
      ((Session.watching interpreter).actAll actions).KeepsContract
        ∧ ((Session.watching interpreter).actAll actions).mapInterpreter Watched.inner
          = ({ interpreter } : Session σ).actAll actions)
    ∧ ∀ (settings : Settings) (env : Environment) (operations : List (Console × Operation)),
      let outcomes := performAll operations (watching interpreter settings env)
      outcomes.map (Outcome.mapInterpreter Watched.inner)
          = performAll operations (fresh interpreter settings env)
        ∧ (Session.watching interpreter
            :: outcomes.map fun outcome => outcome.adapter.session).IsChain Session.Reaches
        ∧ ∀ outcome ∈ outcomes, outcome.adapter.session.KeepsContract := by
  refine ⟨fun actions => ⟨Session.keepsContract_actAll interpreter actions, ?_⟩,
    fun settings env operations => ?_⟩
  · exact (Session.actAll_mapInterpreter Watched.isMorphism_inner actions _).symm
  · have hchain := isChain_performAll operations (watching interpreter settings env)
    refine ⟨?_, hchain, fun outcome houtcome => ?_⟩
    · exact (performAll_mapInterpreter Watched.isMorphism_inner operations _).symm
    · have hreach : (Session.watching interpreter).Reaches outcome.adapter.session :=
        (List.pairwise_cons.mp (List.isChain_iff_pairwise.mp hchain)).1 _
          (List.mem_map.mpr ⟨outcome, houtcome, rfl⟩)
      obtain ⟨actions, hactions⟩ := hreach
      exact hactions ▸ Session.keepsContract_actAll interpreter actions

end Adapter

end RCart
