import RCart.Adapter.Operation
import RCart.Foreign.Host
import RCart.Settings.Load

/-!
The entry points for C programs.

Each thread has one adapter, and one array in which outlines are handed out. Without a host nothing
happens; a code that is missing or is no text counts as empty when a cart is loaded, and is passed
over at the prompt.

* `Foreign.Supply`: new interpreters, and words for texts that are no settings;
* `Foreign.Thread`, `OutlineArray`: what a thread keeps between calls;
* `Foreign.configure`: a new adapter with the settings of a file;
* `Foreign.init`, `eval`: a cart and console input, given as C strings;
* `Foreign.withHost`: every other operation;
* `Foreign.outline`: an outline with its size.
-/

namespace RCart.Foreign

/-- What the entry points take from elsewhere. -/
structure Supply (σ : Type) where
  /-- The interpreter of a new adapter, which comes in the place of one with the given
  interpreter. -/
  renew : σ → σ
  /-- What the reader of documents says of a text that is not taken as settings. -/
  wording : String → String

variable {σ : Type}

/-- Replaces the adapter by a new one with the settings of a file, and says whether they could be
loaded. If not, the adapter stays as it is, and if there is a path at all, the reason is logged. -/
def configure (supply : Supply σ) (tree : FileTree) (path : Option CString) (a : Adapter σ) :
    Bool × Adapter σ :=
  match CString.text? path with
  | none => (false, a)
  | some path =>
    match Settings.load tree path with
    | .error fault =>
      (false, a.note .warn ("tic_r_configure: " ++ fault.message supply.wording))
    | .ok settings =>
      (true,
        { session := { interpreter := supply.renew a.session.interpreter }, settings, env := a.env,
          transcript := a.transcript })

/-- Asks for an operation on behalf of a host, if there is one. -/
def withHost [Interpreter σ] (host : Option CHost) (operation : Operation) (a : Adapter σ) :
    Outcome σ Answer :=
  match host with
  | none => ⟨.returned .nothing, a⟩
  | some h => a.perform h.console operation

/-- Loads a cart, and says whether it was loaded. -/
def init [Interpreter σ] (host : Option CHost) (code : Option CString) (a : Adapter σ) :
    Outcome σ Bool :=
  match host with
  | none => ⟨.returned false, a⟩
  | some h => a.init h.console ((CString.text? code).getD "")

/-- Runs console input. -/
def eval [Interpreter σ] (host : Option CHost) (code : Option CString) (a : Adapter σ) :
    Outcome σ Answer :=
  match CString.text? code with
  | none => ⟨.returned .nothing, a⟩
  | some code => withHost host (.eval code) a

/-! ### Outlines -/

/-- The array in which a thread hands out outlines: an offset and a size for each item. -/
structure OutlineArray where
  entries : List (Nat × Int32) := []
  deriving DecidableEq, Repr

namespace OutlineArray

/-- Removes all entries. -/
def clear (array : OutlineArray) : OutlineArray :=
  { array with entries := [] }

/-- Adds entries for some items behind the others. -/
def extend (array : OutlineArray) (items : List OutlineItem) : OutlineArray :=
  { array with
    entries := array.entries ++ items.map fun item => (item.pos, Int32.ofNat item.size) }

/-- Whatever an array has held, when it is cleared and filled it holds just what is filled in. -/
theorem clear_extend (array : OutlineArray) (items : List OutlineItem) :
    array.clear.extend items = ⟨items.map fun item => (item.pos, Int32.ofNat item.size)⟩ := by
  rw [extend, clear, List.nil_append]

end OutlineArray

/-- What a thread keeps between calls. -/
structure Thread (σ : Type) where
  /-- The adapter. -/
  adapter : Adapter σ
  /-- The array of the last outline. -/
  array : OutlineArray := {}

/-- What is answered to a request for an outline. -/
structure OutlineReply where
  /-- What the array holds that is returned; `none` when none is. -/
  items : Option (List (Nat × Int32))
  /-- The number that is written for the caller; `none` when nothing is written. -/
  size : Option Int32
  deriving DecidableEq, Repr

/-- Outlines a text. Without a place for the size nothing is returned; without a text there is no
array and the size is zero. Else the array of the thread is cleared and filled with the items that
the panel of the adapter then shows. -/
def outline (code : Option CString) (hasSize : Bool) (t : Thread σ) : OutlineReply × Thread σ :=
  if hasSize then
    match CString.text? code with
    | none => (⟨none, some 0⟩, t)
    | some text =>
      let panel := t.adapter.panel.showParameters text
      let array := t.array.clear.extend panel.items
      (⟨some array.entries, some (Int32.ofNat array.entries.length)⟩,
        { adapter := { t.adapter with panel }, array })
  else (⟨none, none⟩, t)

theorem outline_of_noText {code : Option CString} (hcode : CString.text? code = none)
    (t : Thread σ) : outline code true t = (⟨none, some 0⟩, t) := by
  rw [outline, if_pos rfl, hcode]

/-- Whatever a thread has kept, an outline of a text replies with the array that it then keeps. -/
theorem outline_of_text {code : Option CString} {text : String}
    (hcode : CString.text? code = some text) (t : Thread σ) :
    let entries := (Outline.parameters text).map fun item => (item.pos, Int32.ofNat item.size)
    outline code true t
      = (⟨some entries, some (Int32.ofNat (Outline.parameters text).length)⟩,
        { adapter := { t.adapter with panel := t.adapter.panel.showParameters text }
          array := ⟨entries⟩ }) := by
  have harray : t.array.clear.extend (t.adapter.panel.showParameters text).items
      = ⟨(Outline.parameters text).map fun item => (item.pos, Int32.ofNat item.size)⟩ := by
    rw [OutlinePanel.items_showParameters, OutlineArray.clear_extend]
  rw [outline, if_pos rfl, hcode]
  simp only [harray, List.length_map]

end RCart.Foreign
