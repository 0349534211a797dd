import RCart.Foreign.Entry
import RCart.Proofs.Adapter.Account
import RCart.Proofs.Text.Bytes

/-!
Carts that come from C programs.

* `Adapter.eval_mem_of_init`: a load that succeeds has evaluated its cart;
* `Foreign.init_mapInterpreter`: watching an interpreter does not change a load;
* **`Foreign.init_loads_text`**: when a C program is told that its cart was loaded, the interpreter
  has evaluated the bytes that it passed just if they are a text; an empty cart stands in for any
  others.
-/

namespace RCart

/-! ### Loads that succeed -/

namespace Adapter

section Any

variable {σ : Type}

lemma ok_of_concludeLoad {code : String} {t : Attempt σ}
    (h : (concludeLoad code t).ending = .returned true) : t.result = .ok () := by
  obtain ⟨result, a⟩ := t
  cases result with
  | ok u => rfl
  | error fault => cases fault <;> cases h

variable [Interpreter σ]

/-- A load that succeeds comes to its cart, and the cart ends well. -/
lemma ready_of_init {console : Console} {code : String} {a : Adapter σ}
    (h : (a.init console code).ending = .returned true) :
    ∃ m, a.ready? console = some m ∧ (m.evaluateCart console code).result = .ok () := by
  cases hfill : a.fillEnvironment with
  | none =>
      rw [init, hfill] at h
      cases h
  | some b =>
      rw [init_of_fill hfill] at h
      obtain ⟨hloaded, -, -⟩ := ok_of_andThen (ok_of_concludeLoad h)
      obtain ⟨hprepared, hcart, -⟩ := ok_of_andThen hloaded
      exact ⟨_, ready?_eq_some_iff.mpr ⟨b, hfill, hprepared, rfl⟩, hcart⟩

end Any

lemma eval_mem_of_init {σ : Type} [Interpreter σ] {console : Console} {code : String}
    {a : Adapter (Watched σ)} (h : (a.init console code).ending = .returned true) :
    .eval code (.ok ()) ∈ (a.init console code).adapter.session.calls := by
  obtain ⟨m, hready, hcart⟩ := ready_of_init h
  have hmoment : a.cartMoment? console (.init code) = some (m, code) :=
    Option.map_eq_some_iff.mpr ⟨m, hready, rfl⟩
  have hprefix := calls_of_cartMoment hmoment
  rw [hcart] at hprefix
  exact hprefix.subset (List.mem_append_right _ List.mem_cons_self)

end Adapter

/-! ### Texts -/

/-- The text of a C string has its bytes. -/
lemma CString.text?_eq_some_iff {s : CString} {text : String} :
    CString.text? (some s) = some text ↔ Text.toBytes text = s :=
  Text.ofBytes?_eq_some_iff

/-! ### Loads for a C program -/

namespace Foreign

variable {σ τ : Type} [Interpreter σ] [Interpreter τ]

lemma init_mapInterpreter {f : σ → τ} (hf : Interpreter.IsMorphism f) (host : Option CHost)
    (code : Option CString) (a : Adapter σ) :
    init host code (a.mapInterpreter f) = (init host code a).mapInterpreter f := by
  cases host with
  | none => rfl
  | some h => exact Adapter.init_mapInterpreter hf h.console _ a

/-- **What a C program is told about its cart**, in whatever state the adapter of its thread is.

Let the load of the C string at the start of some memory answer yes. Its interpreter under watch, it
does what it does otherwise, and the interpreter has evaluated the text of the C string without an
error, or an empty cart if the bytes are no text. So what was passed has been evaluated exactly when
it is a text; for any other bytes the answer is yes all the same. -/
theorem init_loads_text (h : CHost) (memory : List UInt8) (a : Adapter σ)
    (hloaded : (init (some h) (some (CString.ofBytes memory)) a).ending = .returned true) :
    let code := CString.ofBytes memory
    let outcome := init (some h) (some code) a.watched
    let calls := outcome.adapter.session.calls
    outcome.mapInterpreter Watched.inner = init (some h) (some code) a
      ∧ .eval ((CString.text? (some code)).getD "") (.ok ()) ∈ calls
      ∧ ((∃ snippet result, .eval snippet result ∈ calls ∧ Text.toBytes snippet = code)
        ↔ ∃ text, CString.text? (some code) = some text) := by
  intro code outcome calls
  have hwatched : outcome.mapInterpreter Watched.inner = init (some h) (some code) a :=
    (init_mapInterpreter Watched.isMorphism_inner (some h) (some code) a.watched).symm
  have hending : outcome.ending = .returned true := by
    rw [← hloaded, ← hwatched]
    rfl
  have hcart : .eval ((CString.text? (some code)).getD "") (.ok ()) ∈ calls :=
    Adapter.eval_mem_of_init hending
  refine ⟨hwatched, hcart, ?_, ?_⟩
  · rintro ⟨snippet, -, -, hsnippet⟩
    exact ⟨snippet, CString.text?_eq_some_iff.mpr hsnippet⟩
  · rintro ⟨text, htext⟩
    rw [htext] at hcart
    exact ⟨text, _, hcart, CString.text?_eq_some_iff.mp htext⟩

/-- A C program that passes the byte `0xff`, which is no text, is told that its cart was loaded. -/
theorem init_loads_text_undecodable :
    let code := CString.ofBytes [0xff, 0]
    let a := Adapter.fresh ({} : Recorder) {} .empty
    let outcome := init (some {}) (some code) a.watched
    (init (some {}) (some code) a).ending = .returned true
      ∧ ¬ ∃ snippet result, .eval snippet result ∈ outcome.adapter.session.calls
        ∧ Text.toBytes snippet = code := by
  have hloaded : (init (some {}) (some (CString.ofBytes [0xff, 0]))
      (Adapter.fresh ({} : Recorder) {} .empty)).ending = .returned true := by
    decide +kernel
  have htext : CString.text? (some (CString.ofBytes [0xff, 0])) = none := by decide +kernel
  refine ⟨hloaded, fun hevaluated => ?_⟩
  obtain ⟨text, hsome⟩ := (init_loads_text {} [0xff, 0] _ hloaded).2.2.mp hevaluated
  rw [htext] at hsome
  cases hsome

end Foreign

end RCart
