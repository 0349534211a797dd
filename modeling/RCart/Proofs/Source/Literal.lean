import RCart.Proofs.Decimal.Reading
import RCart.Proofs.Source.Quoted
import RCart.Source.Literal

/-!
Literals read back as the values that were written.

* `QuotedText`, `BareWord`, `Token`: what stands for a value in a text, closed by its own rules;
* `Token.append_inj`: no text starts with two different tokens;
* `Token.value?`: the value of a token;
* `Literal.normal`: a value up to the many numbers that are not a number;
* **`Literal.exists_token`**: a value without NULs is written as one token, which has that value.
-/

namespace RCart.Source

open Decimal (readNumber? readInteger? isNumberChar)

/-! ### Tokens -/

/-- Quoted text with its delimiters. The second one is the first delimiter that is not escaped. -/
structure QuotedText (delimiter : Char) where
  /-- What stands between the delimiters. -/
  body : List Char
  ends : splitQuoted delimiter (body ++ [delimiter]) = some (body, [])

/-- Quoted text as it stands in a text. -/
def QuotedText.text {delimiter : Char} (q : QuotedText delimiter) : List Char :=
  delimiter :: (q.body ++ [delimiter])

/-- The text that quoted text stands for. -/
def QuotedText.value? {delimiter : Char} (q : QuotedText delimiter) : Option String :=
  (unescape q.body).map String.ofList

/-- The characters of a word without quotes. -/
def isBareChar (c : Char) : Bool :=
  decide (c ∉ ['"', '\'', '`', ',', ' ', '(', ')'])

/-- A word without quotes. -/
structure BareWord where
  /-- Its characters. -/
  text : List Char
  ne_nil : text ≠ []
  isBare : ∀ c ∈ text, isBareChar c = true

/-- What stands for a value. -/
inductive Token where
  /-- A string literal. -/
  | quoted (q : QuotedText '"')
  /-- Any other literal. -/
  | bare (w : BareWord)

/-- A token as it stands in a text. -/
def Token.text : Token → List Char
  | .quoted q => q.text
  | .bare w => w.text

/-! ### Tokens at the start of a text -/

/-- No text starts with two different quoted texts. -/
lemma QuotedText.append_inj {delimiter : Char} {q r : QuotedText delimiter} {rest more : List Char}
    (h : q.text ++ rest = r.text ++ more) : q = r ∧ rest = more := by
  have hbodies : q.body ++ [delimiter] ++ rest = r.body ++ [delimiter] ++ more :=
    (List.cons.inj h).2
  have hq := splitQuoted_append q.ends rest
  have hr := splitQuoted_append r.ends more
  rw [hbodies, hr] at hq
  obtain ⟨hbody, hrest⟩ := Prod.mk.inj (Option.some.inj hq)
  cases q
  cases r
  cases hbody
  exact ⟨rfl, hrest.symm⟩

/-- A word ends before the first character that cannot be part of one. -/
lemma BareWord.append_inj {v w : BareWord} {rest more : List Char}
    (hrest : ∀ c ∈ rest.head?, isBareChar c = false)
    (hmore : ∀ c ∈ more.head?, isBareChar c = false) (h : v.text ++ rest = w.text ++ more) :
    v = w ∧ rest = more := by
  obtain ⟨hv, hv'⟩ := Text.takeWhile_append_of_head? v.isBare hrest
  obtain ⟨hw, hw'⟩ := Text.takeWhile_append_of_head? w.isBare hmore
  rw [h, hw] at hv
  rw [h, hw'] at hv'
  cases v
  cases w
  cases hv
  exact ⟨rfl, hv'.symm⟩

/-- Every token has a first character, a quote or one of a word. -/
lemma Token.exists_text_eq_cons (t : Token) :
    ∃ c cs, t.text = c :: cs ∧ (c = '"' ∨ isBareChar c = true) := by
  cases t with
  | quoted q => exact ⟨'"', _, rfl, .inl rfl⟩
  | bare w =>
      obtain ⟨c, cs, hcs⟩ := List.exists_cons_of_ne_nil w.ne_nil
      exact ⟨c, cs, hcs, .inr (w.isBare c (hcs ▸ List.mem_cons_self))⟩

/-- No text starts with two different tokens, with no character of a word behind them. -/
lemma Token.append_inj {t u : Token} {rest more : List Char}
    (hrest : ∀ c ∈ rest.head?, isBareChar c = false)
    (hmore : ∀ c ∈ more.head?, isBareChar c = false) (h : t.text ++ rest = u.text ++ more) :
    t = u ∧ rest = more := by
  have hquote (q : QuotedText '"') (w : BareWord) {after others : List Char} :
      q.text ++ after ≠ w.text ++ others := by
    obtain ⟨a, as, has⟩ := List.exists_cons_of_ne_nil w.ne_nil
    have ha := w.isBare a (has ▸ List.mem_cons_self)
    rw [has]
    intro heq
    rw [← (List.cons.inj heq).1] at ha
    exact absurd ha (by decide)
  cases t with
  | quoted q =>
      cases u with
      | quoted r =>
          obtain ⟨rfl, heq⟩ := QuotedText.append_inj h
          exact ⟨rfl, heq⟩
      | bare w => exact absurd h (hquote q w)
  | bare w =>
      cases u with
      | quoted r => exact absurd h.symm (hquote r w)
      | bare v =>
          obtain ⟨rfl, heq⟩ := BareWord.append_inj hrest hmore h
          exact ⟨rfl, heq⟩

/-! ### Values of tokens -/

/-- The words that stand for a value. -/
def literalWords : List (String × Literal) :=
  [("NULL", .null), ("TRUE", .bool true), ("FALSE", .bool false),
   ("NA_integer_", .int Int32.minValue), ("NaN", .number Binary64.nan),
   ("Inf", .number (Binary64.infinity false)), ("-Inf", .number (Binary64.infinity true))]

/-- Reads an integer literal: an integer that is not kept for a missing value, and the letter behind
it. -/
def readIntegerLiteral? (cs : List Char) : Option Int32 :=
  if cs.getLast? = some 'L' then
    (readInteger? cs.dropLast).bind fun n =>
      if n.natAbs < 2 ^ 31 then some (Int32.ofInt n) else none
  else none

/-- The value of a word. -/
def wordValue? (cs : List Char) : Option Literal :=
  ((readNumber? cs).map .number).or
    (((readIntegerLiteral? cs).map .int).or (literalWords.lookup (String.ofList cs)))

/-- The value of a token. -/
def Token.value? : Token → Option Literal
  | .quoted q => q.value?.map .text
  | .bare w => wordValue? w.text

lemma wordValue?_of_readNumber? {cs : List Char} {x : Binary64} (h : readNumber? cs = some x) :
    wordValue? cs = some (.number x) := by
  rw [wordValue?, h]
  rfl

/-- An integer literal has the value of its integer. -/
lemma wordValue?_integer {n : Int32} (h : n ≠ Int32.minValue) :
    wordValue? (Decimal.integerText n.toInt ++ ['L']) = some (.int n) := by
  have hnumber : readNumber? (Decimal.integerText n.toInt ++ ['L']) = none := by
    by_contra hsome
    obtain ⟨x, hx⟩ := Option.ne_none_iff_exists'.mp hsome
    have hletter := Decimal.isNumberChar_of_readNumber? hx 'L' (by simp)
    exact absurd hletter (by decide)
  have hbound : n.toInt.natAbs < 2 ^ 31 := by
    have hleast : n.toInt ≠ -2 ^ 31 := fun heq =>
      h (Int32.toInt_inj.mp (heq.trans Int32.toInt_minValue.symm))
    have hlow := n.le_toInt
    have hhigh := n.toInt_lt
    omega
  have hinteger : readIntegerLiteral? (Decimal.integerText n.toInt ++ ['L']) = some n := by
    rw [readIntegerLiteral?, if_pos List.getLast?_concat, List.dropLast_concat,
      Decimal.readInteger?_integerText, Option.bind_some, if_pos hbound, Int32.ofInt_toInt]
  rw [wordValue?, hnumber, hinteger]
  rfl

/-! ### Written values -/

/-- A value up to the many numbers that are not a number. -/
def Literal.normal : Literal → Literal
  | .number x => .number (if x.isNaN then Binary64.nan else x)
  | v => v

/-- A value whose text, if it is one, has no NUL. -/
def Literal.NulFree : Literal → Prop
  | .text s => '\x00' ∉ s.toList
  | _ => True

/-- A string literal, without the NULs that cannot be written. -/
def quotedString (s : String) : QuotedText '"' where
  body := s.toList.flatMap stringEscape
  ends := splitQuoted_escapedString s.toList []

/-- A quoted symbol. -/
def quotedSymbol (s : String) : QuotedText '`' where
  body := s.toList.flatMap symbolEscape
  ends := splitQuoted_escapedSymbol s.toList []

lemma quotedString_text (s : String) : (quotedString s).text = (quoteString s).toList := by
  rw [quoteString, String.toList_ofList]
  rfl

lemma quotedSymbol_text (s : String) : (quotedSymbol s).text = (quoteSymbol s).toList := by
  rw [quoteSymbol, String.toList_ofList]
  rfl

lemma quotedString_value? {s : String} (h : '\x00' ∉ s.toList) :
    (quotedString s).value? = some s := by
  have hkept : s.toList.filter (· != '\x00') = s.toList := by
    rw [List.filter_eq_self]
    rintro c hc
    rw [bne_iff_ne]
    rintro rfl
    exact h hc
  rw [QuotedText.value?, quotedString, unescape_escapedString, hkept, Option.map_some,
    String.ofList_toList]

lemma quotedSymbol_value? (s : String) : (quotedSymbol s).value? = some s := by
  rw [QuotedText.value?, quotedSymbol, unescape_escapedSymbol, Option.map_some,
    String.ofList_toList]

lemma isBareChar_of_isNumberChar {c : Char} (h : isNumberChar c = true) : isBareChar c = true := by
  by_contra hbare
  rw [isBareChar, decide_eq_true_eq, not_not] at hbare
  simp only [List.mem_cons, List.not_mem_nil, or_false] at hbare
  obtain rfl | rfl | rfl | rfl | rfl | rfl | rfl := hbare <;> exact absurd h (by decide)

lemma Literal.exists_bare {cs : List Char} {v : Literal} (hchars : cs.all isBareChar = true)
    (h : wordValue? cs = some v) : ∃ t : Token, t.text = cs ∧ t.value? = some v := by
  have hne : cs ≠ [] := by
    rintro rfl
    cases h
  exact ⟨.bare ⟨cs, hne, List.all_eq_true.mp hchars⟩, rfl, h⟩

/-- A number is written as one word, which has its value. -/
lemma Literal.exists_bare_number (x : Binary64) :
    ∃ t : Token, t.text = (Literal.number x).source.toList
      ∧ t.value? = some (Literal.number x).normal := by
  cases hview : x.view with
  | nan =>
      have hnan : x.isNaN = true := by rw [Binary64.isNaN, hview, beq_self_eq_true]
      rw [source, Binary64.write, hview, normal, if_pos hnan]
      exact exists_bare (by decide) (by decide)
  | infinite negative =>
      obtain rfl := Binary64.view_infinite hview
      cases negative with
      | true => exact exists_bare (by decide) (by decide)
      | false => exact exists_bare (by decide) (by decide)
  | finite negative m e =>
      have hfinite : x.isNaN = false := by
        rw [Binary64.isNaN, hview]
        rfl
      rw [source, normal, hfinite, if_neg Bool.false_ne_true]
      have hread := Decimal.readNumber?_write literalStyle hview
      refine exists_bare (List.all_eq_true.mpr ?_) (wordValue?_of_readNumber? hread)
      exact fun c hc => isBareChar_of_isNumberChar (Decimal.isNumberChar_of_readNumber? hread c hc)

/-- A value without NULs is written as one token, which has that value. -/
theorem Literal.exists_token {v : Literal} (h : v.NulFree) :
    ∃ t : Token, t.text = v.source.toList ∧ t.value? = some v.normal := by
  cases v with
  | null => exact exists_bare (by decide) (by decide)
  | bool value =>
      cases value with
      | true => exact exists_bare (by decide) (by decide)
      | false => exact exists_bare (by decide) (by decide)
  | int n =>
      rw [source]
      split
      · next hn =>
          subst hn
          exact exists_bare (by decide) (by decide)
      · next hn =>
          rw [String.toList_ofList]
          refine exists_bare (List.all_eq_true.mpr ?_) (wordValue?_integer hn)
          intro c hc
          rw [List.mem_append, List.mem_singleton] at hc
          obtain hc | rfl := hc
          · exact isBareChar_of_isNumberChar (Decimal.isNumberChar_of_readInteger?
              (Decimal.readInteger?_integerText n.toInt) c hc)
          · decide
  | number x => exact exists_bare_number x
  | text s =>
      refine ⟨.quoted (quotedString s), quotedString_text s, ?_⟩
      rw [Token.value?, quotedString_value? h]
      rfl

end RCart.Source
