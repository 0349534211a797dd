import RCart.Proofs.Outline.Assigned
import RCart.Proofs.Outline.Parameters

/-!
What the items of an outline cover.

Items count bytes, while a text is made of characters.

* `Covers`: an item is the span of a word of a text, with `Covers.text_eq` and `Covers.word_unique`;
* `Covers.isValid_pos`, `Covers.isValid_end`, `Covers.end_le`: the span of a word lies in the text,
  between characters;
* `exists_covers_of_mem_parameters`, `exists_covers_of_mem_assigned`: every item of an outline is
  the span of a word in one line, which holds no backtick.
-/

namespace RCart.Outline

open Source (isNameChar)
open Text (utf8Length toBytes bytesOf)

/-- An item is the span of a word of a text. -/
def Covers (code : List Char) (item : OutlineItem) (word : List Char) : Prop :=
  ∃ before after, code = before ++ (word ++ after) ∧ item = ⟨utf8Length before, utf8Length word⟩

variable {code : String} {item : OutlineItem} {word : List Char}

/-! ### Spans of words -/

/-- The text of the span of a word is the word. -/
lemma Covers.text_eq (h : Covers code.toList item word) : item.text code = String.ofList word := by
  obtain ⟨before, after, hcode, rfl⟩ := h
  rw [OutlineItem.text, OutlineItem.textIn, hcode, Text.slice?_append]

/-- So an item is the span of one word at most. -/
lemma Covers.word_unique {other : List Char} (h : Covers code.toList item word)
    (h' : Covers code.toList item other) : word = other :=
  String.ofList_injective (h.text_eq.symm.trans h'.text_eq)

lemma Covers.size_pos (h : Covers code.toList item word) (hne : word ≠ []) : 0 < item.size := by
  obtain ⟨before, after, -, rfl⟩ := h
  exact Nat.pos_of_ne_zero (utf8Length_eq_zero_iff.not.mpr hne)

/-- The bytes of a text with a word in it. -/
lemma Covers.bytes_eq (h : Covers code.toList item word) :
    ∃ before after, toBytes code = bytesOf before ++ (bytesOf word ++ bytesOf after)
      ∧ (bytesOf before).length = item.pos ∧ (bytesOf word).length = item.size := by
  obtain ⟨before, after, hcode, rfl⟩ := h
  exact ⟨before, after, by rw [Text.toBytes_eq, hcode, Text.bytesOf_append, Text.bytesOf_append],
    Text.length_bytesOf before, Text.length_bytesOf word⟩

/-- The bytes of a word are those of its span. -/
lemma Covers.toBytes_text (h : Covers code.toList item word) :
    toBytes (item.text code) = ((toBytes code).drop item.pos).take item.size := by
  obtain ⟨before, after, hbytes, hpos, hsize⟩ := h.bytes_eq
  rw [h.text_eq, Text.toBytes_eq, String.toList_ofList, hbytes, ← hpos, ← hsize, List.drop_left,
    List.take_left]

lemma Covers.end_le (h : Covers code.toList item word) :
    item.pos + item.size ≤ (toBytes code).length := by
  obtain ⟨before, after, hbytes, hpos, hsize⟩ := h.bytes_eq
  rw [hbytes, List.length_append, List.length_append]
  omega

/-- The first part of a text ends between characters. -/
lemma isValid_utf8Length {front back : List Char} (h : code.toList = front ++ back) :
    String.Pos.Raw.IsValid code ⟨utf8Length front⟩ := by
  have hlength : (toBytes (String.ofList front)).length = utf8Length front := by
    rw [Text.toBytes_eq, String.toList_ofList, Text.length_bytesOf]
  rw [String.Pos.Raw.isValid_iff_exists_append]
  refine ⟨String.ofList front, String.ofList back, ?_, ?_⟩
  · rw [← String.ofList_append, ← h, String.ofList_toList]
  · rw [← hlength]
    rfl

lemma Covers.isValid_pos (h : Covers code.toList item word) :
    String.Pos.Raw.IsValid code ⟨item.pos⟩ := by
  obtain ⟨before, after, hcode, rfl⟩ := h
  exact isValid_utf8Length hcode

lemma Covers.isValid_end (h : Covers code.toList item word) :
    String.Pos.Raw.IsValid code ⟨item.pos + item.size⟩ := by
  obtain ⟨before, after, hcode, rfl⟩ := h
  rw [← List.append_assoc] at hcode
  have hvalid := isValid_utf8Length hcode
  rwa [Text.utf8Length_append] at hvalid

/-! ### Items of outlines -/

/-- Neither a backtick nor a line feed is a name character. -/
lemma isPlain_of_isNameChar {c : Char} (h : isNameChar c = true) : isPlain c = true := by
  refine isPlain_iff.mpr ⟨?_, ?_⟩
  · rintro rfl
    exact absurd h (by decide)
  · rintro rfl
    exact absurd h (by decide)

/-- The item of a place covers the identifier behind the mark. -/
lemma covers_of_parameter {p : Place} (hp : p ∈ places code) (h : p.parameter = some item) :
    Covers code.toList item (p.after.takeWhile isNameChar)
      ∧ p.after.takeWhile isNameChar ≠ [] := by
  rw [Place.parameter, parameterAt, Option.ite_none_left_eq_some, Bool.or_eq_true, not_or,
    List.isEmpty_iff] at h
  obtain ⟨⟨hne, -⟩, h⟩ := h
  refine ⟨⟨p.before.reverse ++ definitionMark, p.after.dropWhile isNameChar, ?_, ?_⟩, hne⟩
  · rw [List.takeWhile_append_dropWhile, List.append_assoc, ← mem_places.mp hp]
  · rw [← Option.some.inj h, Text.utf8Length_append, utf8Length_reverse]
    rfl

/-- Every first parameter is the span of a word in one line. -/
lemma exists_covers_of_mem_parameters (h : item ∈ parameters code) :
    ∃ word, word ≠ [] ∧ (∀ c ∈ word, isPlain c = true) ∧ Covers code.toList item word := by
  rw [parameters_eq, List.mem_filterMap] at h
  obtain ⟨p, hp, hitem⟩ := h
  obtain ⟨hcovers, hne⟩ := covers_of_parameter hp hitem
  exact ⟨_, hne, fun c hc => isPlain_of_isNameChar (List.mem_takeWhile_imp hc), hcovers⟩

/-- The item of a name that is read backwards covers it, whatever follows. -/
lemma NameBefore.exists_covers {start : List Char} (h : NameBefore start item) :
    ∃ word, word ≠ [] ∧ (∀ c ∈ word, isPlain c = true)
      ∧ ∀ rest, Covers (start.reverse ++ rest) item word := by
  cases h with
  | @bare name before hne hname hmaximal =>
      refine ⟨name.reverse, by simpa using hne, ?_, fun rest => ⟨before.reverse, rest, ?_, ?_⟩⟩
      · exact fun c hc => isPlain_of_isNameChar (hname c (List.mem_reverse.mp hc))
      · rw [List.reverse_append, List.append_assoc]
      · rw [utf8Length_reverse, utf8Length_reverse]
  | @quoted name before hne hname =>
      refine ⟨name.reverse, by simpa using hne, ?_,
        fun rest => ⟨before.reverse ++ ['`'], '`' :: rest, ?_, ?_⟩⟩
      · exact fun c hc => hname c (List.mem_reverse.mp hc)
      · simp only [List.reverse_cons, List.reverse_append, List.append_assoc, List.cons_append,
          List.nil_append]
      · rw [Text.utf8Length_append, utf8Length_reverse, utf8Length_reverse]
        rfl

/-- The assigned names are those that are read backwards from the marks. -/
lemma mem_assigned_iff :
    item ∈ assigned code ↔ ∃ p ∈ places code, assignedBefore p.before = some item := by
  rw [assigned, assignedFrom_eq, List.mem_filterMap]
  rfl

/-- Every assigned name is the span of a word in one line. -/
lemma exists_covers_of_mem_assigned (h : item ∈ assigned code) :
    ∃ word, word ≠ [] ∧ (∀ c ∈ word, isPlain c = true) ∧ Covers code.toList item word := by
  obtain ⟨p, hp, hitem⟩ := mem_assigned_iff.mp h
  obtain ⟨arrow, blanks, start, hbefore, -, -, hname⟩ := assignedBefore_eq_some_iff.mp hitem
  obtain ⟨word, hne, hplain, hcovers⟩ := hname.exists_covers
  refine ⟨word, hne, hplain, ?_⟩
  rw [mem_places.mp hp, hbefore, ← List.append_assoc arrow, List.reverse_append, List.append_assoc]
  exact hcovers _

end RCart.Outline
