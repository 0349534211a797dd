import RCart.Proofs.Source.Literal
import RCart.Proofs.Source.Name
import RCart.Source.Snippet

/-!
A forwarder calls the console under the name that it is defined as.

The keyword stands in the text of a forwarder twice, in two notations: as a symbol on the left of
the assignment, bare if it can be, and as a string literal among the arguments of the native
routine.

* `readQuoted?`, `readSymbol?`: reading quoted text and symbols where they start;
* `readQuoted?_quoteString`, `readSymbol?_symbol`: what was written is read back, whatever follows;
* **`forwarder_agrees`**: both notations of a forwarder are read as its keyword, so only equal
  keywords have equal forwarders.
-/

namespace RCart.Source

/-! ### Reading -/

/-- Reads quoted text where it starts: the text that it stands for, and what follows it. -/
def readQuoted? (delimiter : Char) : List Char → Option (String × List Char)
  | [] => none
  | c :: cs =>
    if c = delimiter then
      (splitQuoted delimiter cs).bind fun found =>
        (unescape found.1).map fun text => (String.ofList text, found.2)
    else none

/-- Reads a symbol where it starts: a quoted one behind a backtick, else all of the identifier
characters that there are. No symbol is empty. -/
def readSymbol? (cs : List Char) : Option (String × List Char) :=
  let found :=
    if cs.head? = some '`' then readQuoted? '`' cs
    else some (String.ofList (cs.takeWhile isNameChar), cs.dropWhile isNameChar)
  found.filter fun (name, _) => name ≠ ""

/-! ### What was written -/

/-- Quoted text has its value wherever it starts. -/
lemma readQuoted?_quotedText {delimiter : Char} (q : QuotedText delimiter) (rest : List Char) :
    readQuoted? delimiter (q.text ++ rest) = q.value?.map (·, rest) := by
  rw [QuotedText.text, List.cons_append, readQuoted?, if_pos rfl,
    splitQuoted_append q.ends rest, Option.bind_some, QuotedText.value?, Option.map_map]
  rfl

/-- A string literal without NULs is read back. -/
lemma readQuoted?_quoteString {s : String} (hnul : '\x00' ∉ s.toList) (rest : List Char) :
    readQuoted? '"' ((quoteString s).toList ++ rest) = some (s, rest) := by
  rw [← quotedString_text, readQuoted?_quotedText, quotedString_value? hnul, Option.map_some]

/-- A quoted symbol is read back. -/
lemma readQuoted?_quoteSymbol (name : String) (rest : List Char) :
    readQuoted? '`' ((quoteSymbol name).toList ++ rest) = some (name, rest) := by
  rw [← quotedSymbol_text, readQuoted?_quotedText, quotedSymbol_value?, Option.map_some]

/-- A symbol is read back, bare or quoted, up to what cannot go on with it. -/
lemma readSymbol?_symbol {name : String} (hne : name ≠ "") {rest : List Char}
    (hrest : ∀ c ∈ rest.head?, isNameChar c = false) :
    readSymbol? ((symbol name).toList ++ rest) = some (name, rest) := by
  have hkept : (some (name, rest)).filter (fun (found, _) => found ≠ "") = some (name, rest) := by
    simp [Option.filter, hne]
  rw [readSymbol?, symbol]
  split
  · next hbare =>
    have hchars := isNameChar_of_isSyntactic hbare
    obtain ⟨htake, hdrop⟩ := Text.takeWhile_append_of_head? hchars hrest
    have hopen : (name.toList ++ rest).head? ≠ some '`' := by
      intro hhead
      obtain ⟨c, cs, hcs⟩ := List.exists_cons_of_ne_nil (String.toList_eq_nil_iff.not.mpr hne)
      rw [hcs, List.cons_append, List.head?_cons, Option.some_inj] at hhead
      exact absurd (hchars c (hcs ▸ List.mem_cons_self)) (by rw [hhead]; decide)
    rw [if_neg hopen, htake, hdrop, String.ofList_toList, hkept]
  · have hopen : ((quoteSymbol name).toList ++ rest).head? = some '`' := by
      rw [quoteSymbol, String.toList_ofList]
      rfl
    rw [if_pos hopen, readQuoted?_quoteSymbol, hkept]

/-! ### Forwarders -/

-- simp cannot unfold the definition: for its equation it would run through the literals
lemma toList_forwarder (keyword : String) :
    (forwarder keyword).toList = (symbol keyword).toList ++ (" <- function(...) .Call(".toList
      ++ ((quoteString nativeEntry).toList ++ (", ".toList ++ ((quoteString keyword).toList
        ++ ", list(...))".toList)))) := by
  change (symbol keyword ++ " <- function(...) .Call(" ++ quoteString nativeEntry ++ ", "
    ++ quoteString keyword ++ ", list(...))").toList = _
  simp only [String.toList_append, List.append_assoc]

/-- **A forwarder calls the console under the name that it is defined as.**

The symbol that starts it is read as the keyword, and the assignment follows directly. The arguments
of the call are read as the native routine and then the keyword. So forwarders of different keywords
have different texts. -/
theorem forwarder_agrees {keyword : String} (hne : keyword ≠ "") (hnul : '\x00' ∉ keyword.toList) :
    (∃ call args,
        readSymbol? (forwarder keyword).toList
          = some (keyword, " <- function(...) .Call(".toList ++ call)
        ∧ readQuoted? '"' call = some (nativeEntry, ", ".toList ++ args)
        ∧ readQuoted? '"' args = some (keyword, ", list(...))".toList))
      ∧ ∀ other : String, other ≠ "" → '\x00' ∉ other.toList →
        forwarder other = forwarder keyword → other = keyword := by
  have hsymbol {name : String} (h : name ≠ "") :
      readSymbol? (forwarder name).toList = some (name, " <- function(...) .Call(".toList
        ++ ((quoteString nativeEntry).toList ++ (", ".toList ++ ((quoteString name).toList
          ++ ", list(...))".toList)))) := by
    rw [toList_forwarder]
    refine readSymbol?_symbol h ?_
    -- a blank comes first
    rintro _ ⟨⟩
    decide
  refine ⟨⟨_, _, hsymbol hne, readQuoted?_quoteString (by decide) _,
    readQuoted?_quoteString hnul _⟩, fun other hother _ hsame => ?_⟩
  have hread := hsymbol hother
  rw [hsame, hsymbol hne] at hread
  exact (Prod.mk.inj (Option.some.inj hread)).1.symm

/-- A keyword that looks like the rest of its forwarder. -/
theorem forwarder_agrees_hostile :
    let keyword := "a` <- function(...) .Call(\"tic_api\", \"\\`\n"
    ∃ call args,
      readSymbol? (forwarder keyword).toList
        = some (keyword, " <- function(...) .Call(".toList ++ call)
      ∧ readQuoted? '"' call = some (nativeEntry, ", ".toList ++ args)
      ∧ readQuoted? '"' args = some (keyword, ", list(...))".toList) :=
  (forwarder_agrees (by decide) (by decide)).1

end RCart.Source
