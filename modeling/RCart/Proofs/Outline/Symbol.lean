import RCart.Proofs.Outline.Span
import RCart.Proofs.Source.Name
import RCart.Source.Snippet

/-!
How the outline reads the symbols that are written.

A symbol writes a backtick of its name behind a backslash, while the outline of assigned names looks
for the nearest backtick that opens.

* `writtenName`, `nameSpan`: a name as its symbol writes it, and where that stands in a text that
  the symbol starts;
* `nameBefore_symbol`: a name without backticks is read backwards as it was written;
* **`OutlinePanel.showAssigned_symbol`**: the outline has the written name just if the name has no
  backtick.
-/

namespace RCart

namespace Outline

open Source (isNameChar isSyntactic symbol symbolEscape quoteSymbol)
open Text (utf8Length toBytes)

/-! ### Written names -/

/-- A name as its symbol writes it, without the backticks of a quoted symbol. -/
def writtenName (name : String) : String :=
  if isSyntactic name then name else String.ofList (name.toList.flatMap symbolEscape)

/-- The span of a written name in a text that its symbol starts. -/
def nameSpan (name : String) : OutlineItem :=
  ⟨if isSyntactic name then 0 else 1, (toBytes (writtenName name)).length⟩

/-- A symbol is the written name, between backticks if it is quoted. -/
lemma symbol_cases (name : String) :
    (isSyntactic name = true ∧ (symbol name).toList = name.toList
        ∧ nameSpan name = ⟨0, utf8Length name.toList⟩ ∧ writtenName name = name)
      ∨ ((symbol name).toList = '`' :: (name.toList.flatMap symbolEscape ++ ['`'])
        ∧ nameSpan name = ⟨1, utf8Length (name.toList.flatMap symbolEscape)⟩
        ∧ writtenName name = String.ofList (name.toList.flatMap symbolEscape)) := by
  cases h : isSyntactic name with
  | true =>
      have hwritten : writtenName name = name := by rw [writtenName, if_pos h]
      refine .inl ⟨rfl, by rw [symbol, if_pos h], ?_, hwritten⟩
      rw [nameSpan, if_pos h, hwritten, Text.toBytes_eq, Text.length_bytesOf]
  | false =>
      have h' := ne_true_of_eq_false h
      have hwritten : writtenName name = String.ofList (name.toList.flatMap symbolEscape) := by
        rw [writtenName, if_neg h']
      refine .inr ⟨by rw [symbol, if_neg h', quoteSymbol, String.toList_ofList], ?_, hwritten⟩
      rw [nameSpan, if_neg h', hwritten, Text.toBytes_eq, Text.length_bytesOf,
        String.toList_ofList]

lemma covers_nameSpan (name : String) (rest : List Char) :
    Covers ((symbol name).toList ++ rest) (nameSpan name) (writtenName name).toList := by
  obtain ⟨-, hsymbol, hspan, hwritten⟩ | ⟨hsymbol, hspan, hwritten⟩ := symbol_cases name
  · exact ⟨[], rest, by rw [hsymbol, hwritten, List.nil_append], by rw [hspan, hwritten]; rfl⟩
  · rw [hsymbol, hspan, hwritten, String.toList_ofList]
    refine ⟨['`'], '`' :: rest, ?_, rfl⟩
    rw [List.cons_append, List.append_assoc, List.singleton_append, List.singleton_append]

/-! ### Reading symbols backwards -/

/-- A backtick of a name stays one, whatever is written in front of it. -/
lemma backtick_mem_writtenName {name : String} (h : '`' ∈ name.toList) :
    '`' ∈ (writtenName name).toList := by
  obtain ⟨-, -, -, hwritten⟩ | ⟨-, -, hwritten⟩ := symbol_cases name
  · rwa [hwritten]
  · rw [hwritten, String.toList_ofList, List.mem_flatMap]
    exact ⟨'`', h, by decide⟩

/-- No other character is written with a backtick or a line feed. -/
lemma isPlain_of_mem_flatMap {cs : List Char} (h : ∀ c ∈ cs, isPlain c = true) :
    ∀ d ∈ cs.flatMap symbolEscape, isPlain d = true := by
  intro d hd
  obtain ⟨c, hc, hescape⟩ := List.mem_flatMap.mp hd
  rw [symbolEscape] at hescape
  split_ifs at hescape with hquote hslash
  · subst hquote
    exact absurd (h _ hc) (by decide)
  · simp only [List.mem_cons, List.not_mem_nil, or_false, or_self] at hescape
    subst hescape
    decide
  · rw [List.mem_singleton.mp hescape]
    exact h c hc

lemma flatMap_symbolEscape_ne_nil {cs : List Char} (h : cs ≠ []) :
    cs.flatMap symbolEscape ≠ [] := by
  obtain ⟨c, cs, rfl⟩ := List.exists_cons_of_ne_nil h
  rw [List.flatMap_cons, symbolEscape]
  split_ifs <;> simp

/-- A name without backticks is read backwards as it was written. -/
lemma nameBefore_symbol {name : String} (hne : name ≠ "")
    (hplain : ∀ c ∈ name.toList, isPlain c = true) :
    NameBefore (symbol name).toList.reverse (nameSpan name) := by
  have hne' : name.toList ≠ [] := String.toList_eq_nil_iff.not.mpr hne
  obtain ⟨hbare, hsymbol, hspan, -⟩ | ⟨hsymbol, hspan, -⟩ := symbol_cases name
  · have hchars : ∀ c ∈ name.toList.reverse, isNameChar c = true := fun c hc =>
      Source.isNameChar_of_isSyntactic hbare c (List.mem_reverse.mp hc)
    have hname : NameBefore (name.toList.reverse ++ []) ⟨0, utf8Length name.toList.reverse⟩ :=
      .bare (by simpa using hne') hchars nofun
    rwa [List.append_nil, utf8Length_reverse, ← hspan, ← hsymbol] at hname
  · set body := name.toList.flatMap symbolEscape
    have hbody : ∀ c ∈ body.reverse, isPlain c = true := fun c hc =>
      isPlain_of_mem_flatMap hplain c (List.mem_reverse.mp hc)
    have hname : NameBefore ('`' :: (body.reverse ++ '`' :: [])) ⟨1, utf8Length body.reverse⟩ :=
      .quoted (fun h => flatMap_symbolEscape_ne_nil hne' (List.reverse_eq_nil_iff.mp h)) hbody
    rw [hsymbol, hspan, List.reverse_cons, List.reverse_append, List.reverse_singleton,
      List.append_assoc, List.singleton_append, ← utf8Length_reverse]
    exact hname

/-! ### Definitions -/

lemma toList_definition (name continuation : String) :
    (symbol name ++ " <- function(" ++ continuation).toList
      = (symbol name).toList ++ (' ' :: (definitionMark ++ continuation.toList)) := by
  have hmark : " <- function(".toList = ' ' :: definitionMark := by decide
  rw [String.toList_append, String.toList_append, hmark, List.append_assoc, List.cons_append]

/-- The outline of a definition has the written name, if there is no backtick in it. -/
lemma nameSpan_mem_assigned {name : String} (hne : name ≠ "")
    (hplain : ∀ c ∈ name.toList, isPlain c = true) (continuation : String) :
    nameSpan name ∈ assigned (symbol name ++ " <- function(" ++ continuation) := by
  have hblank : ∀ c ∈ [' '], isBlank c = true := List.forall_mem_singleton.mpr rfl
  refine mem_assigned_iff.mpr
    ⟨⟨' ' :: (symbol name).toList.reverse, continuation.toList⟩, ?_, ?_⟩
  · rw [mem_places, toList_definition, List.reverse_cons, List.reverse_reverse, List.append_assoc]
    rfl
  · exact assignedBefore_eq_some_iff.mpr
      ⟨[], [' '], _, rfl, .inl rfl, hblank, nameBefore_symbol hne hplain⟩

end Outline

/-- **The outline reads the symbols of names without backticks.**

A definition starts with the symbol of a name, which is not empty and has no line feed. The outline
has an item for the name as it is written, all of a bare symbol and what stands between the
backticks of a quoted one, just if the name has no backtick. For any other name, the outline takes a
backtick inside the symbol for the one that opens it. -/
theorem OutlinePanel.showAssigned_symbol (panel : OutlinePanel) {name : String} (hne : name ≠ "")
    (hline : '\n' ∉ name.toList) (continuation : String) :
    let code := Source.symbol name ++ " <- function(" ++ continuation
    (Outline.nameSpan name ∈ (panel.showAssigned code).items ↔ '`' ∉ name.toList)
      ∧ (Outline.nameSpan name).text code = Outline.writtenName name := by
  intro code
  have hcovers : Outline.Covers code.toList (Outline.nameSpan name)
      (Outline.writtenName name).toList :=
    Outline.toList_definition name continuation ▸ Outline.covers_nameSpan name _
  rw [panel.items_showAssigned]
  refine ⟨⟨fun hmem hquote => ?_, fun hquote => ?_⟩, ?_⟩
  · -- what an item covers has no backtick
    obtain ⟨word, -, hplain, hword⟩ := Outline.exists_covers_of_mem_assigned hmem
    rw [hword.word_unique hcovers] at hplain
    exact absurd (hplain '`' (Outline.backtick_mem_writtenName hquote)) (by decide)
  · refine Outline.nameSpan_mem_assigned hne (fun c hc => ?_) continuation
    exact Outline.isPlain_iff.mpr ⟨fun h => hquote (h ▸ hc), fun h => hline (h ▸ hc)⟩
  · rw [hcovers.text_eq, String.ofList_toList]

/-- A name with a backtick is not found. -/
theorem OutlinePanel.showAssigned_symbol_backtick :
    "a`b" ≠ "" ∧ '\n' ∉ "a`b".toList
      ∧ Outline.nameSpan "a`b"
        ∉ (OutlinePanel.showAssigned {} (Source.symbol "a`b" ++ " <- function(" ++ "x")).items :=
  ⟨by decide, by decide, fun hmem =>
    (OutlinePanel.showAssigned_symbol {} (by decide) (by decide) "x").1.mp hmem (by decide)⟩

-- what follows the last backtick is found in place of the name
example : (OutlinePanel.showAssigned {} (Source.symbol "a`b" ++ " <- function(x")).items
    = [⟨4, 1⟩] := by
  decide +kernel

end RCart
