import Mathlib.Data.Option.Defs
import RCart.Proofs.Adapter.Step

/-!
Adapters that cannot be told apart.

A relation between adapters that holds after whatever a step does to both holds after every
operation, and the operations end alike.

* `Attempt.Related`, `Outcome.Related`: steps and operations that end alike, in related adapters;
* `Outcome.Related.eq_image`: the same where every adapter is related to its image;
* `Adapter.LoadSimulation`, `Simulation`: the relation is kept by what loading a cart is made of,
  and by what any operation is made of;
* `Adapter.LoadSimulation.load`, `Simulation.perform`: so it is kept by a load, and by any
  operation.
-/

namespace RCart

variable {σ τ : Type} {R : Adapter σ → Adapter τ → Prop}

/-- Steps that end alike, in related adapters. -/
structure Attempt.Related (R : Adapter σ → Adapter τ → Prop) (s : Attempt σ) (t : Attempt τ) :
    Prop where
  result : t.result = s.result
  adapter : R s.adapter t.adapter

/-- Operations that end alike, in related adapters. -/
structure Outcome.Related {α : Type} (R : Adapter σ → Adapter τ → Prop) (o : Outcome σ α)
    (p : Outcome τ α) : Prop where
  ending : p.ending = o.ending
  adapter : R o.adapter p.adapter

lemma Attempt.Related.andThen {s : Attempt σ} {t : Attempt τ} (h : s.Related R t)
    {next : Adapter σ → Attempt σ} {next' : Adapter τ → Attempt τ}
    (hnext : ∀ {a b}, R a b → (next a).Related R (next' b)) :
    (s.andThen next).Related R (t.andThen next') := by
  cases hresult : s.result with
  | ok u =>
      rw [Adapter.andThen_of_ok hresult, Adapter.andThen_of_ok (h.result.trans hresult)]
      exact hnext h.adapter
  | error fault =>
      rw [Adapter.andThen_of_error hresult, Adapter.andThen_of_error (h.result.trans hresult)]
      exact h

lemma Outcome.Related.map {α β : Type} {o : Outcome σ α} {p : Outcome τ α} (h : o.Related R p)
    (f : α → β) : (o.map f).Related R (p.map f) :=
  ⟨congrArg (Ending.map f) h.ending, h.adapter⟩

/-! ### Images -/

/-- When every adapter is related to its image alone, an operation on the image ends in the
image. -/
lemma Outcome.Related.eq_image {α : Type} {image : Adapter σ → Adapter τ} {o : Outcome σ α}
    {p : Outcome τ α} (h : o.Related (fun a b => b = image a) p) :
    p = ⟨o.ending, image o.adapter⟩ := by
  obtain ⟨ending, b⟩ := p
  obtain ⟨rfl, rfl⟩ := h
  rfl

lemma Adapter.rel_map_image {image : Adapter σ → Adapter τ} (filled : Option (Adapter σ)) :
    Option.Rel (fun a b => b = image a) filled (filled.map image) := by
  cases filled with
  | none => exact .none
  | some a => exact .some rfl

namespace Adapter

variable [Interpreter σ] [Interpreter τ]

/-! ### Simulations -/

/-- A relation that is kept by what loading a cart is made of, for one console on either side. -/
structure LoadSimulation (R : Adapter σ → Adapter τ → Prop) (c d : Console) : Prop where
  keywords : d.keywords = c.keywords
  attached : ∀ {a b}, R a b → b.session.attached = a.session.attached
  runtime : ∀ {a b}, R a b → b.session.runtime = a.session.runtime
  log : ∀ {a b}, R a b → ∀ records, R (a.logAll records) (b.logAll records)
  tell : ∀ {a b}, R a b → ∀ text, R (a.tell text) (b.tell text)
  evaluate : ∀ {a b}, R a b → ∀ code, (a.evaluate c code).Related R (b.evaluate d code)
  start : ∀ {a b}, R a b → a.start.Related R b.start
  asked : ∀ {a b}, R a b → b.session.canRestart.1 = a.session.canRestart.1 ∧ R a.asked b.asked
  shutDown : ∀ {a b}, R a b → R a.shutDown b.shutDown
  detach : ∀ {a b}, R a b →
    R { a with session := a.session.detach } { b with session := b.session.detach }

/-- A relation that is kept by what any operation is made of. -/
structure Simulation (R : Adapter σ → Adapter τ → Prop) (c d : Console) : Prop
    extends LoadSimulation R c d where
  fatal : ∀ {a b}, R a b → ∀ reason, R { a with transcript := a.transcript.fatal reason }
    { b with transcript := b.transcript.fatal reason }
  fill : ∀ {a b}, R a b → Option.Rel R a.fillEnvironment b.fillEnvironment
  outline : ∀ {a b}, R a b → ∀ code, (a.outline code).Related R (b.outline code)

variable {c d : Console} {a : Adapter σ} {b : Adapter τ}

/-! ### Loading -/

namespace LoadSimulation

variable (h : LoadSimulation R c d)

include h

lemma note (hab : R a b) (level : Level) (text : String) :
    R (a.note level text) (b.note level text) :=
  h.log hab [⟨level, text⟩]

lemma runForgiving (hab : R a b) (code : String) :
    (a.runForgiving c code).Related R (b.runForgiving d code) := by
  have hend := h.evaluate hab code
  simp only [Adapter.runForgiving, hend.result]
  split
  · exact ⟨rfl, h.tell (h.note hend.adapter _ _) _⟩
  · exact hend

lemma defineForwarders (keywords : List String) (hab : R a b) :
    (Adapter.defineForwarders c keywords a).Related R (Adapter.defineForwarders d keywords b) := by
  induction keywords generalizing a b with
  | nil => exact ⟨rfl, hab⟩
  | cons keyword rest ih => exact (h.runForgiving hab _).andThen ih

lemma wipeAndDetach (hab : R a b) : (a.wipeAndDetach c).Related R (b.wipeAndDetach d) := by
  have hwiped := h.runForgiving hab Source.wipe
  exact ⟨hwiped.result, h.note (h.detach hwiped.adapter) _ _⟩

lemma release (hab : R a b) : (a.release c).Related R (b.release d) := by
  obtain ⟨hcan, hasked⟩ := h.asked hab
  cases hyes : a.session.canRestart.1 with
  | true =>
      rw [release_of_canRestart hyes, release_of_canRestart (hcan.trans hyes)]
      exact ⟨rfl, h.shutDown hasked⟩
  | false =>
      rw [release_of_not_canRestart hyes, release_of_not_canRestart (hcan.trans hyes)]
      exact h.wipeAndDetach hasked

lemma releaseAttached (hab : R a b) : (a.releaseAttached c).Related R (b.releaseAttached d) := by
  rw [Adapter.releaseAttached, Adapter.releaseAttached, h.attached hab]
  split
  · exact h.release (h.note hab _ _)
  · exact ⟨rfl, hab⟩

lemma startAndDefine {s : Attempt σ} {t : Attempt τ} (hst : s.Related R t) :
    ((s.andThen Adapter.start).andThen (Adapter.defineForwarders c c.keywords)).Related R
      ((t.andThen Adapter.start).andThen (Adapter.defineForwarders d d.keywords)) := by
  rw [h.keywords]
  exact (hst.andThen h.start).andThen (h.defineForwarders c.keywords)

lemma prepare (hab : R a b) : (a.prepare c).Related R (b.prepare d) :=
  h.startAndDefine (h.releaseAttached hab)

/-- Once the session is ready, the cart and the fallback are evaluated. -/
lemma cart {s : Attempt σ} {t : Attempt τ} (hst : s.Related R t) (code : String) :
    ((s.andThen (evaluateCart c code)).andThen (Adapter.runForgiving c Source.bootFallback)).Related
      R ((t.andThen (evaluateCart d code)).andThen
        (Adapter.runForgiving d Source.bootFallback)) := by
  refine (hst.andThen fun hab => ?_).andThen fun hab => h.runForgiving hab _
  rw [evaluateCart, evaluateCart, h.keywords]
  exact h.evaluate (h.note hab _ _) code

lemma load (hab : R a b) (code : String) : (a.load c code).Related R (b.load d code) :=
  h.cart (h.prepare hab) code

end LoadSimulation

/-! ### Operations -/

namespace Simulation

variable (h : Simulation R c d)

include h

lemma showFault (hab : R a b) (fault : Fault) :
    (a.showFault fault).Related R (b.showFault fault) := by
  cases fault with
  | fatal reason => exact ⟨rfl, h.fatal hab reason⟩
  | _ => exact ⟨rfl, h.tell (h.note hab _ _) _⟩

lemma conclude {s : Attempt σ} {t : Attempt τ} (hst : s.Related R t) :
    (Adapter.conclude s).Related R (Adapter.conclude t) := by
  obtain ⟨_, a⟩ := s
  obtain ⟨result, b⟩ := t
  obtain ⟨rfl, hab⟩ := hst
  cases result with
  | ok u => exact ⟨rfl, hab⟩
  | error fault => exact h.showFault hab fault

lemma concludeLoad {s : Attempt σ} {t : Attempt τ} (hst : s.Related R t) (code : String) :
    (Adapter.concludeLoad code s).Related R (Adapter.concludeLoad code t) := by
  obtain ⟨_, a⟩ := s
  obtain ⟨result, b⟩ := t
  obtain ⟨rfl, hab⟩ := hst
  cases result with
  | ok u => exact ⟨rfl, h.note hab _ _⟩
  | error fault =>
      cases fault with
      | fatal reason => exact ⟨rfl, h.fatal hab reason⟩
      | _ => exact ⟨rfl, h.tell (h.note hab _ _) _⟩

lemma init (hab : R a b) (code : String) : (a.init c code).Related R (b.init d code) := by
  have hfill := h.fill hab
  rw [Adapter.init, Adapter.init]
  generalize a.fillEnvironment = filled, b.fillEnvironment = filled' at hfill
  cases hfill with
  | some hfilled => exact h.concludeLoad (h.load hfilled code) code
  | none => exact ⟨rfl, hab⟩

lemma close (hab : R a b) : (a.close c).Related R (b.close d) := by
  rw [Adapter.close, Adapter.close, h.attached hab]
  split
  · exact h.conclude (h.release hab)
  · exact ⟨rfl, h.note hab _ _⟩

lemma call (hab : R a b) (request : Source.GuardedCall) :
    (a.call c request).Related R (b.call d request) := by
  have hactive : b.session.isActive = a.session.isActive := by
    rw [Session.isActive, Session.isActive, h.attached hab, h.runtime hab]
  rw [Adapter.call, Adapter.call, hactive]
  split
  · exact h.conclude (h.runForgiving hab _)
  · exact ⟨rfl, h.note hab _ _⟩

lemma mustStart (hab : R a b) :
    b.mustStart.1 = a.mustStart.1 ∧ R a.mustStart.2 b.mustStart.2 := by
  rw [Adapter.mustStart, Adapter.mustStart, h.runtime hab]
  split
  · exact ⟨rfl, hab⟩
  · exact h.asked hab
  · exact ⟨rfl, hab⟩

lemma eval (hab : R a b) (code : String) : (a.eval c code).Related R (b.eval d code) := by
  have hfill := h.fill hab
  rw [Adapter.eval, Adapter.eval]
  generalize a.fillEnvironment = filled, b.fillEnvironment = filled' at hfill
  cases hfill with
  | none => exact ⟨rfl, hab⟩
  | some hfilled =>
      obtain ⟨hmust, hready⟩ := h.mustStart hfilled
      simp only [hmust]
      split
      · exact (h.init hready code).map _
      · exact h.conclude (h.runForgiving hready code)

lemma callHook (hab : R a b) (hook : Source.Hook) :
    (a.callHook c hook).Related R (b.callHook d hook) :=
  (h.call hab _).map _

/-- Related adapters perform an operation alike. -/
lemma perform (hab : R a b) (operation : Operation) :
    (a.perform c operation).Related R (b.perform d operation) := by
  cases operation with
  | init code => exact (h.init hab code).map _
  | close => exact (h.close hab).map _
  | tick => exact h.callHook hab _
  | boot => exact h.callHook hab _
  | menu index data => exact h.callHook (h.note hab _ _) _
  | border row data => exact h.callHook (h.note hab _ _) _
  | scanline row data => exact h.callHook (h.note hab _ _) _
  | eval code => exact (h.eval hab code).map _
  | invoke request => exact (h.call hab request).map _
  | outline code => exact (h.outline hab code).map _

end Simulation

end Adapter

end RCart
