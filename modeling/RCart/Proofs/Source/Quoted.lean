import Mathlib.Tactic.Common
import RCart.Source.Quoted

/-!
Quoted text is read back as it was written.

* `Skipped`: a part of quoted text that is read over on the way to its end;
* `splitQuoted_escapedString`, `splitQuoted_escapedSymbol`: quoted text ends where it was ended,
  whatever follows;
* `StandsFor`: what a part of quoted text stands for;
* `unescape_escapedString`, `unescape_escapedSymbol`: quoted text stands for the text that was
  quoted, without its NULs in a string literal;
* `Quotes`: quoted text with its delimiters, as a reader sees it wherever it stands;
* **`quoting_selfDelimiting`**: string literals and symbols are quoted text for what was quoted, and
  a string literal has no control characters.
-/

namespace RCart.Source

/-! ### Reading over quoted text -/

@[simp] lemma splitQuoted_delimiter (delimiter : Char) (cs : List Char) :
    splitQuoted delimiter (delimiter :: cs) = some ([], cs) := by
  cases cs <;> simp [splitQuoted]

/-- An ordinary character is read over. -/
lemma splitQuoted_ordinary {delimiter c : Char} (hdelimiter : c ≠ delimiter) (hslash : c ≠ '\\')
    (cs : List Char) :
    splitQuoted delimiter (c :: cs)
      = (splitQuoted delimiter cs).map fun found => (c :: found.1, found.2) := by
  cases cs <;> simp [splitQuoted, hdelimiter, hslash]

/-- So is the character after a backslash, with it. -/
lemma splitQuoted_escaped {delimiter : Char} (h : delimiter ≠ '\\') (c : Char) (cs : List Char) :
    splitQuoted delimiter ('\\' :: c :: cs)
      = (splitQuoted delimiter cs).map fun found => ('\\' :: c :: found.1, found.2) := by
  simp [splitQuoted, h.symm]

/-- A part of quoted text that is read over, wherever it stands. -/
def Skipped (delimiter : Char) (part : List Char) : Prop :=
  ∀ rest, splitQuoted delimiter (part ++ rest)
    = (splitQuoted delimiter rest).map fun found => (part ++ found.1, found.2)

variable {delimiter : Char}

lemma skipped_nil : Skipped delimiter [] := by
  intro rest
  simp

lemma Skipped.append {first second : List Char} (hfirst : Skipped delimiter first)
    (hsecond : Skipped delimiter second) : Skipped delimiter (first ++ second) := by
  intro rest
  rw [List.append_assoc, hfirst, hsecond, Option.map_map]
  simp only [Function.comp_def, List.append_assoc]

lemma skipped_ordinary {c : Char} (hdelimiter : c ≠ delimiter) (hslash : c ≠ '\\') :
    Skipped delimiter [c] :=
  splitQuoted_ordinary hdelimiter hslash

lemma skipped_escaped (h : delimiter ≠ '\\') (c : Char) : Skipped delimiter ['\\', c] :=
  splitQuoted_escaped h c

/-- Ordinary characters are read over. -/
lemma skipped_of_ordinary {part : List Char} (h : ∀ c ∈ part, c ≠ delimiter ∧ c ≠ '\\') :
    Skipped delimiter part := by
  induction part with
  | nil => exact skipped_nil
  | cons c cs ih =>
      obtain ⟨hc, hcs⟩ := List.forall_mem_cons.mp h
      exact (skipped_ordinary hc.1 hc.2).append (ih hcs)

/-- What each character is written as being read over, all of a text is. -/
lemma skipped_flatMap {escape : Char → List Char} (h : ∀ c, Skipped delimiter (escape c))
    (cs : List Char) : Skipped delimiter (cs.flatMap escape) := by
  induction cs with
  | nil => exact skipped_nil
  | cons c cs ih => exact (h c).append ih

/-- Quoted text ends at the delimiter behind what is read over. -/
lemma Skipped.splitQuoted {part : List Char} (h : Skipped delimiter part) (rest : List Char) :
    splitQuoted delimiter (part ++ delimiter :: rest) = some (part, rest) := by
  rw [h, splitQuoted_delimiter]
  simp

/-- What follows the end of quoted text does not move it. -/
lemma splitQuoted_append {cs body rest : List Char}
    (h : splitQuoted delimiter cs = some (body, rest)) (more : List Char) :
    splitQuoted delimiter (cs ++ more) = some (body, rest ++ more) := by
  fun_induction splitQuoted delimiter cs generalizing body rest with
  | case1 => cases h
  | case2 =>
      obtain ⟨rfl, rfl⟩ := Prod.mk.inj (Option.some.inj h)
      exact splitQuoted_delimiter delimiter more
  | case3 => cases h
  | case4 =>
      obtain ⟨rfl, rfl⟩ := Prod.mk.inj (Option.some.inj h)
      exact splitQuoted_delimiter delimiter _
  | case5 d cs hne ih =>
      obtain ⟨⟨inner, after⟩, hinner, heq⟩ := Option.map_eq_some_iff.mp h
      obtain ⟨rfl, rfl⟩ := Prod.mk.inj heq
      have hcs := ih hinner
      rw [List.cons_append, List.cons_append, splitQuoted_escaped (Ne.symm hne), hcs]
      rfl
  | case6 c d cs hdelimiter hslash ih =>
      obtain ⟨⟨inner, after⟩, hinner, heq⟩ := Option.map_eq_some_iff.mp h
      obtain ⟨rfl, rfl⟩ := Prod.mk.inj heq
      have hcs := ih hinner
      rw [List.cons_append, splitQuoted_ordinary hdelimiter hslash, hcs]
      rfl

/-! ### Hexadecimal digits -/

lemma hexValue?_digitChar {d : ℕ} (h : d < 16) : hexValue? (Nat.digitChar d) = some d := by
  revert d
  decide

/-- Every hexadecimal digit has a value. -/
lemma exists_hexValue?_of_mem_toDigits {n : ℕ} {c : Char} (h : c ∈ Nat.toDigits 16 n) :
    ∃ d, hexValue? c = some d := by
  induction n using Nat.strongRecOn with
  | _ n ih =>
      by_cases hn : n < 16
      · rw [Nat.toDigits_of_lt_base hn, List.mem_singleton] at h
        exact ⟨n, h ▸ hexValue?_digitChar hn⟩
      · rw [Nat.toDigits_of_base_le (by decide) (by omega), List.mem_append] at h
        obtain hfirst | hlast := h
        · exact ih (n / 16) (by omega) hfirst
        · have hdigit : n % 16 < 16 := Nat.mod_lt n (by decide)
          exact ⟨n % 16, List.mem_singleton.mp hlast ▸ hexValue?_digitChar hdigit⟩

lemma ne_of_mem_toDigits {n : ℕ} {c d : Char} (h : c ∈ Nat.toDigits 16 n)
    (hd : hexValue? d = none) : c ≠ d := by
  rintro rfl
  obtain ⟨value, hvalue⟩ := exists_hexValue?_of_mem_toDigits h
  cases hvalue.symm.trans hd

lemma unescapeFrom_hexDigit {c : Char} {d : ℕ} (h : hexValue? c = some d) (value : ℕ)
    (cs : List Char) :
    unescapeFrom (.codePoint value) (c :: cs) = unescapeFrom (.codePoint (16 * value + d)) cs := by
  have hbrace : c ≠ '}' := by
    rintro rfl
    cases h
  simp [unescapeFrom, hbrace, h]

/-- The digits of a code point are read to its value. -/
lemma unescapeFrom_toDigits (n : ℕ) (rest : List Char) :
    unescapeFrom (.codePoint 0) (Nat.toDigits 16 n ++ rest) = unescapeFrom (.codePoint n) rest := by
  induction n using Nat.strongRecOn generalizing rest with
  | _ n ih =>
      by_cases hn : n < 16
      · rw [Nat.toDigits_of_lt_base hn, List.singleton_append,
          unescapeFrom_hexDigit (hexValue?_digitChar hn), Nat.mul_zero, Nat.zero_add]
      · have hdigit : n % 16 < 16 := Nat.mod_lt n (by decide)
        rw [Nat.toDigits_of_base_le (by decide) (by omega), List.append_assoc,
          ih (n / 16) (by omega), List.singleton_append,
          unescapeFrom_hexDigit (hexValue?_digitChar hdigit), Nat.div_add_mod]

/-! ### What quoted text stands for -/

/-- A part of quoted text stands for some characters, wherever it stands. -/
def StandsFor (part chars : List Char) : Prop :=
  ∀ rest, unescapeFrom .outside (part ++ rest) = (unescapeFrom .outside rest).map (chars ++ ·)

lemma standsFor_nil : StandsFor [] [] := by
  intro rest
  simp

lemma StandsFor.append {first second chars more : List Char} (hfirst : StandsFor first chars)
    (hsecond : StandsFor second more) : StandsFor (first ++ second) (chars ++ more) := by
  intro rest
  rw [List.append_assoc, hfirst, hsecond, Option.map_map]
  simp only [Function.comp_def, List.append_assoc]

lemma standsFor_ordinary {c : Char} (h : c ≠ '\\') : StandsFor [c] [c] := by
  intro rest
  simp [unescapeFrom, h]

/-- A short escape stands for the character of its letter. -/
lemma standsFor_short {c d : Char} (hc : c ≠ 'u') (h : shortEscape? c = some d) :
    StandsFor ['\\', c] [d] := by
  intro rest
  simp [unescapeFrom, hc, h]

lemma standsFor_codePointEscape (c : Char) : StandsFor (codePointEscape c) [c] := by
  intro rest
  have hdigits := unescapeFrom_toDigits c.toNat ('}' :: rest)
  simp only [codePointEscape, List.cons_append, List.append_assoc, List.nil_append]
  simp only [unescapeFrom, ↓Char.isValue, ↓reduceIte, hdigits, Char.ofNat_toNat]

/-- Each character standing for itself, or being left out, a text stands for what is left. -/
lemma standsFor_flatMap {escape : Char → List Char} {keep : Char → Bool}
    (h : ∀ c, StandsFor (escape c) (if keep c then [c] else [])) (cs : List Char) :
    StandsFor (cs.flatMap escape) (cs.filter keep) := by
  induction cs with
  | nil => exact standsFor_nil
  | cons c cs ih =>
      have hcons := (h c).append ih
      rw [List.flatMap_cons, List.filter_cons]
      cases hkeep : keep c with
      | false =>
          rw [hkeep] at hcons
          exact hcons
      | true =>
          rw [hkeep] at hcons
          exact hcons

lemma StandsFor.unescape {part chars : List Char} (h : StandsFor part chars) :
    unescape part = some chars := by
  have hend := h []
  rw [List.append_nil] at hend
  rw [Source.unescape, hend]
  simp [unescapeFrom]

/-! ### String literals -/

lemma skipped_stringEscape (c : Char) : Skipped '"' (stringEscape c) := by
  have hslash : '"' ≠ '\\' := by decide
  rw [stringEscape]
  split_ifs with hquote hback
  · exact skipped_escaped hslash _
  · exact skipped_escaped hslash _
  · exact skipped_escaped hslash _
  · exact skipped_escaped hslash _
  · exact skipped_escaped hslash _
  · exact skipped_nil
  · -- after the backslash and its letter, nothing but digits and braces
    have hordinary : ∀ d ∈ '{' :: (Nat.toDigits 16 c.toNat ++ ['}']), d ≠ '"' ∧ d ≠ '\\' := by
      intro d hd
      simp only [List.mem_cons, List.mem_append, List.not_mem_nil, or_false] at hd
      obtain rfl | hdigit | rfl := hd
      · decide
      · exact ⟨ne_of_mem_toDigits hdigit (by decide), ne_of_mem_toDigits hdigit (by decide)⟩
      · decide
    exact (skipped_escaped hslash 'u').append (skipped_of_ordinary hordinary)
  · exact skipped_ordinary hquote hback

lemma standsFor_stringEscape (c : Char) :
    StandsFor (stringEscape c) (if c != '\x00' then [c] else []) := by
  by_cases hletter : c ∈ ['"', '\\', '\n', '\r', '\t', '\x00']
  · simp only [List.mem_cons, List.not_mem_nil, or_false] at hletter
    obtain rfl | rfl | rfl | rfl | rfl | rfl := hletter
    · exact standsFor_short (by decide) rfl
    · exact standsFor_short (by decide) rfl
    · exact standsFor_short (by decide) rfl
    · exact standsFor_short (by decide) rfl
    · exact standsFor_short (by decide) rfl
    · exact standsFor_nil
  · simp only [List.mem_cons, List.not_mem_nil, or_false, not_or] at hletter
    obtain ⟨hquote, hslash, hfeed, hreturn, htab, hnul⟩ := hletter
    simp only [stringEscape, hquote, hslash, hfeed, hreturn, htab, hnul, bne_iff_ne, ne_eq,
      not_false_eq_true, if_true, if_false]
    split
    · exact standsFor_codePointEscape c
    · exact standsFor_ordinary hslash

/-- A string literal ends where it was ended, whatever follows. -/
lemma splitQuoted_escapedString (cs rest : List Char) :
    splitQuoted '"' (cs.flatMap stringEscape ++ '"' :: rest)
      = some (cs.flatMap stringEscape, rest) :=
  (skipped_flatMap skipped_stringEscape cs).splitQuoted rest

/-- A string literal stands for the text without its NULs. -/
lemma unescape_escapedString (cs : List Char) :
    unescape (cs.flatMap stringEscape) = some (cs.filter (· != '\x00')) :=
  (standsFor_flatMap standsFor_stringEscape cs).unescape

/-! ### Symbols -/

lemma skipped_symbolEscape (c : Char) : Skipped '`' (symbolEscape c) := by
  have hslash : '`' ≠ '\\' := by decide
  rw [symbolEscape]
  split_ifs with hquote hback
  · exact skipped_escaped hslash _
  · exact skipped_escaped hslash _
  · exact skipped_ordinary hquote hback

lemma standsFor_symbolEscape (c : Char) : StandsFor (symbolEscape c) [c] := by
  rw [symbolEscape]
  split_ifs with hquote hback
  · subst hquote
    exact standsFor_short (by decide) rfl
  · subst hback
    exact standsFor_short (by decide) rfl
  · exact standsFor_ordinary hback

/-- A symbol ends where it was ended, whatever follows. -/
lemma splitQuoted_escapedSymbol (cs rest : List Char) :
    splitQuoted '`' (cs.flatMap symbolEscape ++ '`' :: rest)
      = some (cs.flatMap symbolEscape, rest) :=
  (skipped_flatMap skipped_symbolEscape cs).splitQuoted rest

/-- A symbol stands for its name. -/
lemma unescape_escapedSymbol (cs : List Char) :
    unescape (cs.flatMap symbolEscape) = some cs := by
  have h : StandsFor (cs.flatMap symbolEscape) (cs.filter fun _ => true) :=
    standsFor_flatMap standsFor_symbolEscape cs
  rw [List.filter_eq_self.mpr fun _ _ => rfl] at h
  exact h.unescape

/-! ### Control characters -/

lemma isControl_of_hexValue? {c : Char} {d : ℕ} (h : hexValue? c = some d) :
    isControl c = false := by
  have hrange : 0x30 ≤ c.toNat ∧ c.toNat < 0x7f := by
    rw [hexValue?] at h
    split_ifs at h with hdigit hletter
    · exact ⟨hdigit.1, Nat.lt_of_le_of_lt hdigit.2 (by decide)⟩
    · exact ⟨Nat.le_trans (by decide) hletter.1, Nat.lt_of_le_of_lt hletter.2 (by decide)⟩
  simp only [isControl, Bool.or_eq_false_iff, Bool.and_eq_false_iff, decide_eq_false_iff_not]
  omega

/-- A code point is written without control characters. -/
lemma isControl_of_mem_codePointEscape {c d : Char} (h : d ∈ codePointEscape c) :
    isControl d = false := by
  simp only [codePointEscape, List.mem_cons, List.mem_append, List.not_mem_nil, or_false] at h
  obtain rfl | rfl | rfl | hdigit | rfl := h
  · decide
  · decide
  · decide
  · obtain ⟨value, hvalue⟩ := exists_hexValue?_of_mem_toDigits hdigit
    exact isControl_of_hexValue? hvalue
  · decide

/-- Whatever a character is, a string literal writes it without control characters. -/
lemma isControl_of_mem_stringEscape {c d : Char} (h : d ∈ stringEscape c) :
    isControl d = false := by
  have hshort {letter : Char} (hletter : isControl letter = false) (h : d ∈ ['\\', letter]) :
      isControl d = false := by
    obtain rfl | hd := List.mem_cons.mp h
    · decide
    · exact List.mem_singleton.mp hd ▸ hletter
  rw [stringEscape] at h
  split_ifs at h with hquote hslash hfeed hreturn htab hnul hcontrol
  · exact hshort (by decide) h
  · exact hshort (by decide) h
  · exact hshort (by decide) h
  · exact hshort (by decide) h
  · exact hshort (by decide) h
  · cases h
  · exact isControl_of_mem_codePointEscape h
  · exact List.mem_singleton.mp h ▸ eq_false_of_ne_true hcontrol

/-- A symbol writes control characters as they are. -/
lemma mem_symbolEscape_iff {c d : Char} (hd : isControl d = true) :
    d ∈ symbolEscape c ↔ d = c := by
  have hescaped {letter : Char} (hletter : isControl letter = false) :
      d ∈ ['\\', letter] ↔ d = letter := by
    have hslash : d ≠ '\\' := by
      rintro rfl
      exact absurd hd (by decide)
    rw [List.mem_cons, or_iff_right hslash, List.mem_singleton]
  rw [symbolEscape]
  split_ifs with hquote hslash
  · rw [hquote]
    exact hescaped (by decide)
  · rw [hslash]
    exact hescaped (by decide)
  · exact List.mem_singleton

/-! ### Quoted text as a whole -/

/-- A text is quoted text for some characters. Behind its first character, a reader that skips the
character after each backslash stops at its last one, whatever follows, and what it has passed
stands for these characters. -/
def Quotes (delimiter : Char) (text content : List Char) : Prop :=
  ∃ body, text = delimiter :: (body ++ [delimiter])
    ∧ (∀ rest, splitQuoted delimiter (body ++ delimiter :: rest) = some (body, rest))
    ∧ unescape body = some content

lemma quotes_quoteString (s : String) :
    Quotes '"' (quoteString s).toList (s.toList.filter (· != '\x00')) := by
  refine ⟨s.toList.flatMap stringEscape, ?_, splitQuoted_escapedString s.toList,
    unescape_escapedString s.toList⟩
  rw [quoteString, String.toList_ofList]

lemma quotes_quoteSymbol (s : String) : Quotes '`' (quoteSymbol s).toList s.toList := by
  refine ⟨s.toList.flatMap symbolEscape, ?_, splitQuoted_escapedSymbol s.toList,
    unescape_escapedSymbol s.toList⟩
  rw [quoteSymbol, String.toList_ofList]

/-- **Quoting is self-delimiting and lossless**, for every text.

A string literal ends where it was ended, whatever follows, and stands for the text without its
NULs; it has no control characters, so it stays on one line. A symbol ends where it was ended and
stands for all of the text. Its control characters are those of the text, so a symbol may well go
over several lines. -/
theorem quoting_selfDelimiting (s : String) :
    (Quotes '"' (quoteString s).toList (s.toList.filter (· != '\x00'))
        ∧ ∀ c ∈ (quoteString s).toList, isControl c = false)
      ∧ Quotes '`' (quoteSymbol s).toList s.toList
      ∧ ∀ c, isControl c = true → (c ∈ (quoteSymbol s).toList ↔ c ∈ s.toList) := by
  refine ⟨⟨quotes_quoteString s, fun c hc => ?_⟩, quotes_quoteSymbol s, fun c hcontrol => ?_⟩
  · rw [quoteString, String.toList_ofList, List.mem_cons, List.mem_append, List.mem_singleton] at hc
    obtain rfl | hinner | rfl := hc
    · decide
    · obtain ⟨d, -, hd⟩ := List.mem_flatMap.mp hinner
      exact isControl_of_mem_stringEscape hd
    · decide
  · have hdelimiter : c ≠ '`' := by
      rintro rfl
      exact absurd hcontrol (by decide)
    rw [quoteSymbol, String.toList_ofList, List.mem_cons, or_iff_right hdelimiter, List.mem_append,
      List.mem_singleton, or_iff_left hdelimiter, List.mem_flatMap]
    constructor
    · rintro ⟨d, hd, hmem⟩
      exact (mem_symbolEscape_iff hcontrol).mp hmem ▸ hd
    · intro hmem
      exact ⟨c, hmem, (mem_symbolEscape_iff hcontrol).mpr rfl⟩

end RCart.Source
