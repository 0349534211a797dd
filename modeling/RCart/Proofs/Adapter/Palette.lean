import Mathlib.Data.UInt
import RCart.Interpreter.Recorder
import RCart.Proofs.Adapter.Run
import RCart.Proofs.Adapter.Stride
import RCart.Settings.Decode

/-!
The colours of the palette.

A line is shown in the colour of the settings, in the one that a cart asks for, or in that of fatal
errors. The first is brought into the palette when settings are read, the second is taken only if it
is in the palette, and the third is the last of it.

* `Settings.traceColor_of_parse`: settings that are read have a colour of the palette;
* `Transcript.colorOf?_le`: a colour that a cart gets is one of the palette, whatever it asks for;
* `Transcript.InPalette`, `Evaluation.inPalette_run`: lines in colours of the palette only, and an
  evaluation keeps to them;
* `Adapter.InPalette`, `Adapter.InPalette.performAll`: so does an adapter, stride by stride and
  along every run;
* **`Adapter.lines_in_palette`**: whatever is run on a new adapter, every line has a colour of the
  palette.
-/

namespace RCart

/-! ### Where colours come from -/

lemma Settings.traceColor_clamp (s : Settings) : s.clamp.traceColor ≤ 15 := by
  have hmin : s.clamp.traceColor.toNat = min s.traceColor.toNat 15 :=
    UInt8.toNat_min s.traceColor defaultColor
  rw [UInt8.le_iff_toNat_le, hmin]
  exact Nat.min_le_right s.traceColor.toNat 15

lemma Settings.traceColor_of_decode {table : Toml.Table} {s : Settings}
    (h : decode table = .ok s) : s.traceColor ≤ 15 := by
  simp only [decode, bind, Except.bind] at h
  split at h
  · cases h
  · exact Except.ok.inj h ▸ traceColor_clamp _

/-- Settings that are read from a text have a colour of the palette. -/
lemma Settings.traceColor_of_parse {text : String} {s : Settings} (h : parse text = .ok s) :
    s.traceColor ≤ 15 := by
  dsimp only [parse] at h
  cases hparse : Toml.Document.parse? text with
  | none =>
      rw [hparse] at h
      cases h
  | some table =>
      rw [hparse] at h
      dsimp only at h
      cases hdecode : decode table with
      | error cause =>
          rw [hdecode] at h
          cases h
      | ok settings =>
          rw [hdecode] at h
          exact Except.ok.inj h ▸ traceColor_of_decode hdecode

/-- The whole part of a number that is up to a bound is up to it. -/
lemma Binary64.le_of_wholeUpTo? {bound whole : ℕ} {x : Binary64}
    (h : x.wholeUpTo? bound = some whole) : whole ≤ bound := by
  rw [wholeUpTo?] at h
  split at h
  · dsimp only at h
    split_ifs at h with hzero hnegative hbelow
    · exact Option.some.inj h ▸ Nat.zero_le bound
    · rcases hbelow with hlt | ⟨heq, -⟩
      · exact Option.some.inj h ▸ hlt.le
      · exact Option.some.inj h ▸ heq.le
  · cases h

/-- The colour that a cart gets is one of the palette, if it gets the one that it asks for. -/
lemma Transcript.colorOf?_le {v : Value} {color : UInt8} (h : colorOf? v = some color) :
    color ≤ 15 := by
  obtain ⟨whole, hwhole, rfl⟩ := Option.map_eq_some_iff.mp h
  obtain ⟨x, -, hx⟩ := Option.bind_eq_some_iff.mp hwhole
  have hle : whole ≤ 15 := Binary64.le_of_wholeUpTo? hx
  exact (UInt8.ofNat_le_iff_le (Nat.lt_of_le_of_lt hle (by decide)) (by decide)).mpr hle

/-! ### Lines in colours of the palette -/

/-- Every line that has passed to a console has a colour of the palette. -/
def Transcript.InPalette (t : Transcript) : Prop :=
  ∀ text color, .trace text color ∈ t.exchanges → color ≤ 15

namespace Transcript

variable {t : Transcript}

lemma InPalette.trace (h : t.InPalette) (text : String) {color : UInt8} (hcolor : color ≤ 15) :
    (t.trace text color).InPalette := by
  intro shown colour hmem
  rcases List.mem_append.mp hmem with hmem | hmem
  · exact h shown colour hmem
  · cases List.mem_singleton.mp hmem
    exact hcolor

lemma InPalette.call (h : t.InPalette) (request : ApiCall) (answer : Value) :
    (t.pass (.call request answer)).InPalette := by
  intro shown colour hmem
  rcases List.mem_append.mp hmem with hmem | hmem
  · exact h shown colour hmem
  · cases List.mem_singleton.mp hmem

/-- A call of `trace` falls back on the colour of the settings. -/
lemma InPalette.traceCall (h : t.InPalette) (request : ApiCall) {color : UInt8}
    (hcolor : color ≤ 15) : (t.traceCall request color).InPalette := by
  refine h.trace _ ?_
  cases hasked : request.args[1]?.bind colorOf? with
  | none => exact hcolor
  | some asked =>
      obtain ⟨v, -, hv⟩ := Option.bind_eq_some_iff.mp hasked
      exact colorOf?_le hv

end Transcript

lemma Console.inPalette_native (console : Console) {color : UInt8} (hcolor : color ≤ 15)
    (request : ApiCall) {t : Transcript} (h : t.InPalette) :
    (console.native color request t).2.InPalette := by
  rw [native]
  split
  · exact h.traceCall request hcolor
  · rw [answer]
    split
    · exact h.call request _
    · exact h.call request .null

/-- An evaluation keeps to the palette, whatever the interpreter prints and calls. -/
lemma Evaluation.inPalette_run {α : Type} (console : Console) {color : UInt8} (hcolor : color ≤ 15)
    (e : Evaluation α) {t : Transcript} (h : t.InPalette) :
    (e.run (console.sink color) t).2.2.InPalette := by
  induction e generalizing t with
  | finish result state => exact h
  | print text next ih => exact ih (h.trace text hcolor)
  | call request next ih => exact ih _ (console.inPalette_native hcolor request h)
  | note record next ih => exact ih (t := t.logAll [record]) h

/-! ### Adapters -/

namespace Adapter

variable {σ : Type}

/-- The settings have a colour of the palette, and so has every line that was shown. -/
structure InPalette (a : Adapter σ) : Prop where
  settings : a.settings.traceColor ≤ 15
  lines : a.transcript.InPalette

/-- New adapters with the settings of a text, or with the ones that are there without a text, have
shown nothing, and their settings have a colour of the palette. -/
lemma inPalette_fresh {settings : Settings}
    (h : settings = {} ∨ ∃ text, Settings.parse text = .ok settings) (interpreter : σ)
    (env : Environment) : (fresh interpreter settings env).InPalette := by
  refine ⟨?_, fun text color hmem => absurd hmem List.not_mem_nil⟩
  obtain rfl | ⟨text, hparse⟩ := h
  · exact UInt8.le_refl 15
  · exact Settings.traceColor_of_parse hparse

variable [Interpreter σ] {console : Console} {a b : Adapter σ}

lemma InPalette.evaluate (h : a.InPalette) (console : Console) (code : String) :
    (a.evaluate console code).adapter.InPalette :=
  ⟨h.settings, (a.session.eval code).inPalette_run console h.settings h.lines⟩

/-- A stride keeps to the palette. -/
lemma Stride.inPalette (h : Stride console a b) (ha : a.InPalette) : b.InPalette := by
  cases h with
  | evaluate code => exact ha.evaluate console code
  | tell text => exact ⟨ha.settings, ha.lines.trace text ha.settings⟩
  | fatal reason => exact ⟨ha.settings, ha.lines.trace _ (UInt8.le_refl 15)⟩
  | log records => exact ⟨ha.settings, ha.lines⟩
  | fill hfill =>
      obtain ⟨filled, -, rfl⟩ := Option.map_eq_some_iff.mp hfill
      exact ⟨ha.settings, ha.lines⟩
  | ask => exact ⟨ha.settings, ha.lines⟩
  | start =>
      refine ⟨?_, ?_⟩
      · rw [settings_start]
        exact ha.settings
      · rw [Transcript.InPalette, exchanges_start]
        exact ha.lines
  | shutDown => exact ⟨ha.settings, ha.lines⟩
  | detach => exact ⟨ha.settings, ha.lines⟩
  | outline code => exact ⟨ha.settings, ha.lines⟩

lemma Strides.inPalette (h : Strides console a b) (ha : a.InPalette) : b.InPalette := by
  induction h with
  | refl => exact ha
  | tail _ hlast ih => exact hlast.inPalette ih

/-- So does every operation, however it ends. -/
lemma InPalette.perform (h : a.InPalette) (console : Console) (operation : Operation) :
    (a.perform console operation).adapter.InPalette :=
  (a.strides_perform console operation).inPalette h

lemma InPalette.performAll (h : a.InPalette) (run : List (Console × Operation)) :
    ∀ outcome ∈ performAll run a, outcome.adapter.InPalette :=
  performAll_keeps (fun asked _ _ hc => hc.perform asked.1 asked.2) (fun _ houtcome => houtcome) h

/-- **Every line has a colour of the palette**, over every interpreter and for every console.

The settings of a new adapter are those that are there without a text, or those of any text that is
accepted. Whatever is run on it and however the last operation ends, every line that was shown by
then, be it output, a line of `trace`, an error or the last words of an interpreter that cannot go
on, has one of the sixteen colours. -/
theorem lines_in_palette (interpreter : σ) {settings : Settings}
    (hsettings : settings = {} ∨ ∃ text, Settings.parse text = .ok settings) (env : Environment)
    (run : List (Console × Operation)) :
    ∀ outcome ∈ performAll run (fresh interpreter settings env),
      outcome.adapter.transcript.InPalette := by
  intro outcome hmem
  have hfresh := inPalette_fresh hsettings interpreter env
  exact (hfresh.performAll run outcome hmem).lines

/-- A text asks for a colour far outside the palette, and a cart for nothing, for a number that is
none, for numbers below, between and above the colours, and for a truth value, and dies. -/
theorem lines_in_palette_astray :
    let ask (color : Value) : String × Reaction :=
      ("cart", .calls { name := "trace", args := [.text "hi", color] })
    let recorder : Recorder :=
      { reactions := [("cart", .prints "out"), ask .null, ask (.number .nan),
          ask (.number ⟨0xbff0000000000000⟩), ask (.number ⟨0x400f333333333333⟩),
          ask (.number ⟨0x402f000000000000⟩), ask (.bool true), ("cart", .dies "worn out")] }
    let run : List (Console × Operation) := [({ keywords := [] }, .init "cart")]
    ∃ settings, Settings.parse "trace_color = 200\n" = .ok settings
      ∧ ∃ outcome ∈ performAll run (fresh recorder settings .empty),
        outcome.adapter.transcript.exchanges
            = [.trace "out" 15, .trace "hi" 15, .trace "hi" 15, .trace "hi" 15, .trace "hi" 3,
              .trace "hi" 15, .trace "hi" 1, .trace (fatalMessage "worn out") 15]
          ∧ outcome.adapter.transcript.InPalette := by
  intro ask recorder run
  have hshown : (Settings.parse "trace_color = 200\n").toOption.map (fun settings =>
      (performAll run (fresh recorder settings .empty)).map (·.adapter.transcript.exchanges))
        = some [[.trace "out" 15, .trace "hi" 15, .trace "hi" 15, .trace "hi" 15, .trace "hi" 3,
          .trace "hi" 15, .trace "hi" 1, .trace (fatalMessage "worn out") 15]] := by
    decide +kernel
  cases hparse : Settings.parse "trace_color = 200\n" with
  | error rejection =>
      rw [hparse] at hshown
      cases hshown
  | ok settings =>
      rw [hparse] at hshown
      have hpalette := lines_in_palette recorder (.inr ⟨_, hparse⟩) .empty run
      obtain ⟨outcome, houtcome, hexchanges⟩ :=
        List.map_eq_singleton_iff.mp (Option.some.inj hshown)
      rw [houtcome] at hpalette
      refine ⟨settings, rfl, outcome, ?_, hexchanges, hpalette outcome List.mem_cons_self⟩
      rw [houtcome]
      exact List.mem_cons_self

end Adapter

end RCart
