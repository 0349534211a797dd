import RCart.Console.Language
import RCart.Proofs.Adapter.Outlined
import RCart.Proofs.Foreign.Configure
import RCart.Proofs.Foreign.Marshal
import RCart.Proofs.Outline.Parameters

/-!
One outline, whoever asks.

The editor, an adapter, a panel of its own and a C program can all ask for the outline of a text. A
C program passes the text up to its first NUL, and is told offsets and sizes.

* `Text.beforeNul`, `CString.text?_ofBytes_append`: the text that a C program passes;
* `OutlineReply.Shows`: what a C program is told are these items;
* `Foreign.shows_outline`, `items_outline`: a C program is told the outline of its text, in the
  array of its thread;
* `Foreign.enter_seenAlikeBlank`, `enterAll_leaveOut`: outlines among the calls of a C program;
* **`Foreign.outlines_agree`**: all are told the same, whatever came before, and nothing else
  changes.
-/

namespace RCart

/-! ### Texts up to their first NUL -/

/-- A text up to its first NUL. -/
def Text.beforeNul (text : String) : String :=
  String.ofList (text.toList.takeWhile (· ≠ '\x00'))

namespace Text

/-- No byte of a character but NUL is zero. -/
lemma readsAs_ne_zero : ReadsAs (fun b => decide (b ≠ 0)) (fun c => decide (c ≠ '\x00')) := by
  intro c b hb
  have hzero : (b == 0) = (c == '\x00') := readsAs_beq (a := '\x00') (by decide) c b hb
  refine decide_eq_decide.mpr (not_congr ?_)
  rw [← beq_iff_eq, hzero, beq_iff_eq]

lemma toBytes_beforeNul (text : String) :
    toBytes (beforeNul text) = (toBytes text).takeWhile (· ≠ 0) := by
  rw [toBytes_eq, toBytes_eq, beforeNul, String.toList_ofList]
  exact (takeWhile_bytesOf readsAs_ne_zero text.toList).symm

lemma length_toBytes_beforeNul_le (text : String) :
    (toBytes (beforeNul text)).length ≤ (toBytes text).length := by
  rw [toBytes_beforeNul]
  exact (List.takeWhile_sublist _).length_le

end Text

/-- A C program that passes a text in memory passes what stands before its first NUL. -/
lemma CString.text?_ofBytes_append (text : String) (behind : List UInt8) :
    CString.text? (some (CString.ofBytes (Text.toBytes text ++ 0 :: behind)))
      = some (Text.beforeNul text) := by
  rw [CString.text?_eq_some_iff, CString.ofBytes, Text.toBytes_beforeNul]
  exact (Text.takeWhile_append_stop (by decide) _ _).1.symm

variable {σ : Type}

/-- The outcome without the array, and with nothing on the panel. -/
def EntryOutcome.blank (o : EntryOutcome σ) : Outcome σ EntryReply :=
  o.outcome.blank

namespace Foreign

/-! ### Replies -/

/-- What a C program is told are some items: the offset and the size of each, and how many. -/
def OutlineReply.Shows (reply : OutlineReply) (items : List OutlineItem) : Prop :=
  ∃ array count, reply = ⟨some array, some count⟩
    ∧ array.map (fun entry => (entry.1, entry.2.toInt))
      = items.map (fun item => (item.pos, (item.size : ℤ)))
    ∧ count.toInt = items.length

/-- A C program is told the outline of its text, if it is short enough for the numbers. -/
lemma shows_outline {code : Option CString} {text : String} (hcode : CString.text? code = some text)
    (hsize : (Text.toBytes text).length < Nat.pow 2 31) (t : Thread σ) :
    (outline code true t).1.Shows (Outline.parameters text) := by
  refine ⟨_, _, congrArg Prod.fst (outline_of_text hcode t), ?_, ?_⟩
  · rw [List.map_map]
    refine List.map_congr_left fun item hitem => ?_
    have hend := Outline.lt_length_of_mem_parameters hitem
    have hshort : item.size < Nat.pow 2 31 := by omega
    exact congrArg (Prod.mk item.pos) (Int32.toInt_ofNat_of_lt hshort)
  · exact Int32.toInt_ofNat_of_lt ((Outline.length_parameters_le text).trans_lt hsize)

/-- An array that is returned is the one that the thread keeps. -/
lemma items_outline {code : Option CString} {t : Thread σ} {entries : List (ℕ × Int32)}
    (h : (outline code true t).1.items = some entries) :
    (outline code true t).2.array.entries = entries := by
  cases hcode : CString.text? code with
  | none =>
      rw [outline_of_noText hcode] at h
      cases h
  | some text =>
      rw [outline_of_text hcode] at h ⊢
      exact Option.some.inj h

/-! ### Outlines among other calls -/

open Adapter (SameButPanel simulation_sameButPanel)

/-- Threads whose adapters are the same but for the panel. -/
def Thread.SameButShown (s t : Thread σ) : Prop :=
  s.adapter.SameButPanel t.adapter

/-- Calls that end alike and leave adapters that are the same but for the panel. -/
abbrev SeenAlikeBlank (o p : EntryOutcome σ) : Prop :=
  SeenAlike EntryOutcome.ending EntryOutcome.thread Thread.SameButShown EntryOutcome.blank o p

lemma seenAlikeBlank {o p : EntryOutcome σ} (hending : p.ending = o.ending)
    (hadapter : o.thread.adapter.SameButPanel p.thread.adapter) : SeenAlikeBlank o p :=
  ⟨hending, hadapter, congrArg₂ Outcome.mk hending hadapter.blank⟩

lemma seenAlikeBlank_after {α : Type} {o p : Outcome σ α} (h : o.Related SameButPanel p)
    (s t : Thread σ) (reply : α → EntryReply) :
    SeenAlikeBlank (s.after reply o) (t.after reply p) :=
  seenAlikeBlank (congrArg (Ending.map reply) h.ending) h.adapter

lemma configure_sameButPanel (supply : Supply σ) (tree : FileTree) (path : Option CString)
    {a b : Adapter σ} (h : a.SameButPanel b) :
    (configure supply tree path b).1 = (configure supply tree path a).1
      ∧ (configure supply tree path a).2.SameButPanel (configure supply tree path b).2 := by
  obtain ⟨panel, rfl⟩ := h
  rw [configure, configure]
  split
  · exact ⟨rfl, panel, rfl⟩
  · split
    · exact ⟨rfl, panel, rfl⟩
    · exact ⟨rfl, .refl _⟩

/-- An outline changes only the panel of the adapter. -/
lemma sameButPanel_outline (code : Option CString) (hasSize : Bool) (t : Thread σ) :
    t.adapter.SameButPanel (outline code hasSize t).2.adapter := by
  obtain ⟨reply, h | ⟨text, array, h⟩⟩ := outline_cases (σ := σ) code hasSize
  all_goals rw [h]
  · exact .refl _
  · exact ⟨_, rfl⟩

/-- An outline replies without a look at what the thread has kept. -/
lemma reply_outline_eq (code : Option CString) (hasSize : Bool) (s t : Thread σ) :
    (outline code hasSize s).1 = (outline code hasSize t).1 := by
  obtain ⟨reply, h | ⟨text, array, h⟩⟩ := outline_cases (σ := σ) code hasSize
  all_goals rw [h, h]

variable [Interpreter σ]

lemma withHost_sameButPanel (host : Option CHost) (operation : Operation) {a b : Adapter σ}
    (h : a.SameButPanel b) :
    (withHost host operation a).Related SameButPanel (withHost host operation b) := by
  cases host with
  | none => exact ⟨rfl, h⟩
  | some host => exact (simulation_sameButPanel host.console).perform h operation

lemma init_sameButPanel (host : Option CHost) (code : Option CString) {a b : Adapter σ}
    (h : a.SameButPanel b) : (init host code a).Related SameButPanel (init host code b) := by
  cases host with
  | none => exact ⟨rfl, h⟩
  | some host => exact (simulation_sameButPanel host.console).init h _

lemma eval_sameButPanel (host : Option CHost) (code : Option CString) {a b : Adapter σ}
    (h : a.SameButPanel b) : (eval host code a).Related SameButPanel (eval host code b) := by
  rw [eval, eval]
  split
  · exact ⟨rfl, h⟩
  · exact withHost_sameButPanel host _ h

lemma ask_seenAlikeBlank (host : Option CHost) (operation : Operation) {s t : Thread σ}
    (h : s.SameButShown t) : SeenAlikeBlank (ask host operation s) (ask host operation t) :=
  seenAlikeBlank_after (withHost_sameButPanel host operation h) s t _

/-- No entry point but the outline looks at the panel or at the array, and that only to clear
them. -/
lemma enter_seenAlikeBlank (supply : Supply σ) (call : EntryCall) {s t : Thread σ}
    (h : s.SameButShown t) : SeenAlikeBlank (enter supply call s) (enter supply call t) := by
  cases call with
  | configure tree path =>
      obtain ⟨haccepted, hadapter⟩ := configure_sameButPanel supply tree path h
      exact seenAlikeBlank (congrArg (Ending.returned <| EntryReply.truth ·) haccepted) hadapter
  | init host code => exact seenAlikeBlank_after (init_sameButPanel host code h) s t _
  | close host => exact ask_seenAlikeBlank host _ h
  | tick host => exact ask_seenAlikeBlank host _ h
  | boot host => exact ask_seenAlikeBlank host _ h
  | menu host index data => exact ask_seenAlikeBlank host _ h
  | border host row data => exact ask_seenAlikeBlank host _ h
  | scanline host row data => exact ask_seenAlikeBlank host _ h
  | eval host code => exact seenAlikeBlank_after (eval_sameButPanel host code h) s t _
  | outline code hasSize =>
      have hreply := reply_outline_eq code hasSize t s
      refine seenAlikeBlank (congrArg (Ending.returned <| EntryReply.outline ·) hreply) ?_
      exact ((sameButPanel_outline code hasSize s).symm.trans h).trans
        (sameButPanel_outline code hasSize t)

/-- Outlines can be left out of the calls of a C program. -/
lemma enterAll_leaveOut (supply : Supply σ) {out : ℕ → Bool} {calls : List EntryCall}
    (hout : ∀ i, out i = true → ∀ call ∈ calls[i]?, ∃ code hasSize, call = .outline code hasSize)
    (t : Thread σ) :
    (leaveOut out (enterAll supply calls t)).map EntryOutcome.blank
      = (enterAll supply (leaveOut out calls) t).map EntryOutcome.blank := by
  rw [enterAll_eq, enterAll_eq]
  refine inOrder_leaveOut (fun call _ _ h => enter_seenAlikeBlank supply call h) ?_ hout
    (SameButPanel.refl t.adapter)
  rintro _ s t ⟨code, hasSize, rfl⟩ hst
  exact ⟨⟨_, rfl⟩, (sameButPanel_outline code hasSize s).symm.trans hst⟩

/-! ### One outline -/

/-- **All outlines of a text agree, whatever came before**, and asking for them changes nothing
else.

A panel that has shown anything, the editor and every outline in a run of an adapter give the same
items for a text. A C program that passes the text gets those of the text up to its first NUL, as
offsets and sizes with their number, after any other calls and whatever its thread has kept, in the
array that the thread then keeps; when what it passes is missing or no text, it gets no array and
the number zero. Outlines can be left out of a run or of the calls of a C program anywhere: the
other operations and calls end in the same way, and leave the same session, settings, environment
and transcript behind. -/
theorem outlines_agree (supply : Supply σ) {text : String}
    (hsize : (Text.toBytes text).length < Nat.pow 2 31) :
    (∀ panel : OutlinePanel, (panel.showParameters text).items = Outline.parameters text)
      ∧ language.outline text = Outline.parameters text
      ∧ (∀ (run : List (Console × Operation)) (a : Adapter σ),
        (∀ (i : ℕ) console, run[i]? = some (console, .outline text) →
          ∀ outcome ∈ (Adapter.performAll run a)[i]?,
            outcome.ending = .returned (.items (Outline.parameters text)))
        ∧ ∀ out : ℕ → Bool,
          (∀ i : ℕ, out i = true → ∀ asked ∈ run[i]?, ∃ code, asked.2 = .outline code) →
          (leaveOut out (Adapter.performAll run a)).map Outcome.blank
            = (Adapter.performAll (leaveOut out run) a).map Outcome.blank)
      ∧ ∀ (calls : List EntryCall) (t : Thread σ),
        (∀ (i : ℕ) code, calls[i]? = some (.outline code true) →
          ∀ outcome ∈ (enterAll supply calls t)[i]?,
            ∃ reply, outcome.ending = .returned (.outline reply)
              ∧ (∀ behind, code = some (CString.ofBytes (Text.toBytes text ++ 0 :: behind)) →
                reply.Shows (Outline.parameters (Text.beforeNul text)))
              ∧ (∀ entries, reply.items = some entries → outcome.thread.array.entries = entries)
              ∧ (CString.text? code = none → reply = ⟨none, some 0⟩))
        ∧ ∀ out : ℕ → Bool,
          (∀ i : ℕ, out i = true → ∀ call ∈ calls[i]?,
            ∃ code hasSize, call = .outline code hasSize) →
          (leaveOut out (enterAll supply calls t)).map EntryOutcome.blank
            = (enterAll supply (leaveOut out calls) t).map EntryOutcome.blank := by
  refine ⟨fun panel => panel.items_showParameters text, rfl,
    fun run a => ⟨fun i console hasked outcome houtcome => ?_,
      fun out hout => Adapter.performAll_leaveOut hout a⟩,
    fun calls t => ⟨fun i code hcall outcome houtcome => ?_,
      fun out hout => enterAll_leaveOut supply hout t⟩⟩
  · rw [Adapter.performAll_eq] at houtcome
    obtain ⟨b, rfl⟩ := exists_of_getElem?_inOrder hasked houtcome
    exact congrArg (Ending.returned <| Answer.items ·) (b.panel.items_showParameters text)
  · rw [enterAll_eq] at houtcome
    obtain ⟨before, rfl⟩ := exists_of_getElem?_inOrder hcall houtcome
    refine ⟨(outline code true before).1, rfl, ?_, fun _ => items_outline,
      fun hnone => congrArg Prod.fst (outline_of_noText hnone before)⟩
    rintro behind rfl
    exact shows_outline (CString.text?_ofBytes_append text behind)
      ((Text.length_toBytes_beforeNul_le text).trans_lt hsize) before

/-- A text with a NUL between two functions, outlined in a run and by a C program while a cart is
played: the C program is told of the first function only. -/
theorem outlines_agree_playing :
    let text := "f <- function(x, y) x\x00g <- function(z) z"
    let supply : Supply Recorder := { renew := fun _ => {}, wording := fun text => text }
    let a := Adapter.fresh ({} : Recorder) {} .empty
    let console : Console := { keywords := ["cls"] }
    let run := [(console, .init "cls(1)"), (console, .outline text), (console, .tick)]
    let code : CString := CString.ofBytes (Text.toBytes text ++ [0])
    let calls := [EntryCall.init (some {}) (some code), .outline (some code) true, .tick (some {})]
    Outline.parameters text = [⟨14, 1⟩, ⟨36, 1⟩]
      ∧ (∃ outcome ∈ (Adapter.performAll run a)[1]?,
        outcome.ending = .returned (.items [⟨14, 1⟩, ⟨36, 1⟩]))
      ∧ (leaveOut (· == 1) (Adapter.performAll run a)).map Outcome.blank
        = (Adapter.performAll [(console, .init "cls(1)"), (console, .tick)] a).map Outcome.blank
      ∧ ∃ outcome ∈ (enterAll supply calls { adapter := a })[1]?, ∃ reply,
        outcome.ending = .returned (.outline reply) ∧ reply.Shows [⟨14, 1⟩] := by
  intro text supply a console run code calls
  have hsize : (Text.toBytes text).length < Nat.pow 2 31 := by decide +kernel
  have hitems : Outline.parameters text = [⟨14, 1⟩, ⟨36, 1⟩] := by decide +kernel
  have hbefore : Outline.parameters (Text.beforeNul text) = [⟨14, 1⟩] := by decide +kernel
  obtain ⟨-, -, hruns, hcalls⟩ := outlines_agree supply hsize
  have hrun : 1 < (Adapter.performAll run a).length := by decide +kernel
  have hcall : 1 < (enterAll supply calls { adapter := a }).length := by decide +kernel
  refine ⟨hitems, ⟨_, List.getElem?_eq_getElem hrun, ?_⟩, ?_, _, List.getElem?_eq_getElem hcall, ?_⟩
  · rw [← hitems]
    exact (hruns run a).1 1 console rfl _ (List.getElem?_eq_getElem hrun)
  · refine (hruns run a).2 (· == 1) fun i hi asked hasked => ?_
    obtain rfl := eq_of_beq hi
    obtain rfl := Option.some.inj hasked
    exact ⟨text, rfl⟩
  · obtain ⟨reply, hreply, hshows, -, -⟩ :=
      (hcalls calls { adapter := a }).1 1 _ rfl _ (List.getElem?_eq_getElem hcall)
    exact ⟨reply, hreply, hbefore ▸ hshows [] rfl⟩

end Foreign

end RCart
