/-!
Texts measured in bytes.

Positions and sizes count the bytes of a text's UTF-8 form, while the text itself stays a list of
characters:

* `utf8Length`: the number of bytes of a text;
* `dropBytes?`, `takeBytes?`: what follows, or makes up, the first `n` bytes, `none` when `n` bytes
  end inside a character or past the text;
* `slice?`: the text between two byte positions;
* `ofBytes?`: the text with a given UTF-8 form;
* `occursIn`: whether one text is part of another.
-/

namespace RCart.Text

/-! ### Lengths and cuts -/

/-- The number of bytes of the UTF-8 form of a text. -/
def utf8Length : List Char → Nat
  | [] => 0
  | c :: cs => c.utf8Size + utf8Length cs

/-- What follows the first `n` bytes of a text, if they end between two characters. -/
def dropBytes? : Nat → List Char → Option (List Char)
  | 0, cs => some cs
  | _ + 1, [] => none
  | n + 1, c :: cs => if c.utf8Size ≤ n + 1 then dropBytes? (n + 1 - c.utf8Size) cs else none

/-- The first `n` bytes of a text, if they end between two characters. -/
def takeBytes? : Nat → List Char → Option (List Char)
  | 0, _ => some []
  | _ + 1, [] => none
  | n + 1, c :: cs =>
    if c.utf8Size ≤ n + 1 then (takeBytes? (n + 1 - c.utf8Size) cs).map (c :: ·) else none

/-- The `size` bytes of a text from byte `pos` on. -/
def slice? (text : List Char) (pos size : Nat) : Option (List Char) :=
  (dropBytes? pos text).bind (takeBytes? size)

@[simp] theorem utf8Length_append (a b : List Char) :
    utf8Length (a ++ b) = utf8Length a + utf8Length b := by
  induction a with
  | nil => simp [utf8Length]
  | cons c cs ih => simp [utf8Length, ih, Nat.add_assoc]

/-- A cut at the end of the first part gives back the second. -/
theorem dropBytes?_append (a b : List Char) : dropBytes? (utf8Length a) (a ++ b) = some b := by
  induction a with
  | nil => simp [utf8Length, dropBytes?]
  | cons c cs ih =>
    have hc : 0 < c.utf8Size := c.utf8Size_pos
    obtain ⟨n, hn⟩ : ∃ n, utf8Length (c :: cs) = n + 1 :=
      ⟨utf8Length (c :: cs) - 1, by simp only [utf8Length]; omega⟩
    have hsub : n + 1 - c.utf8Size = utf8Length cs := by simp only [utf8Length] at hn; omega
    have hle : c.utf8Size ≤ n + 1 := by simp only [utf8Length] at hn; omega
    rw [hn, List.cons_append, dropBytes?, if_pos hle, hsub, ih]

/-- A cut at the end of the first part gives the first part. -/
theorem takeBytes?_append (a b : List Char) : takeBytes? (utf8Length a) (a ++ b) = some a := by
  induction a with
  | nil => simp [utf8Length, takeBytes?]
  | cons c cs ih =>
    have hc : 0 < c.utf8Size := c.utf8Size_pos
    obtain ⟨n, hn⟩ : ∃ n, utf8Length (c :: cs) = n + 1 :=
      ⟨utf8Length (c :: cs) - 1, by simp only [utf8Length]; omega⟩
    have hsub : n + 1 - c.utf8Size = utf8Length cs := by simp only [utf8Length] at hn; omega
    have hle : c.utf8Size ≤ n + 1 := by simp only [utf8Length] at hn; omega
    rw [hn, List.cons_append, takeBytes?, if_pos hle, hsub, ih]
    rfl

/-- The middle of three parts is found at the first part's length. -/
theorem slice?_append (a b c : List Char) :
    slice? (a ++ (b ++ c)) (utf8Length a) (utf8Length b) = some b := by
  rw [slice?, dropBytes?_append, Option.bind_some, takeBytes?_append]

/-! ### Bytes -/

/-- The text whose UTF-8 form is `bytes`; `none` when there is none. -/
def ofBytes? (bytes : List UInt8) : Option String :=
  String.fromUTF8? ⟨bytes.toArray⟩

/-- The UTF-8 form of a text. -/
def toBytes (text : String) : List UInt8 :=
  text.toUTF8.data.toList

/-! ### Parts -/

/-- Whether `part` stands somewhere in a text. The empty part stands in every text. -/
def occursIn (part : List Char) : List Char → Bool
  | [] => part.isEmpty
  | c :: cs => part.isPrefixOf (c :: cs) || occursIn part cs

/-- `occursIn` decides that a text is `part` with something before it and something after it. -/
theorem occursIn_iff (part text : List Char) :
    occursIn part text = true ↔ ∃ before after, text = before ++ part ++ after := by
  induction text with
  | nil =>
    rw [occursIn, List.isEmpty_iff]
    constructor
    · rintro rfl; exact ⟨[], [], rfl⟩
    · rintro ⟨before, after, h⟩
      have h' := congrArg List.length h
      simp only [List.length_nil, List.length_append] at h'
      exact List.length_eq_zero_iff.1 (by omega)
  | cons c cs ih =>
    rw [occursIn, Bool.or_eq_true, ih, List.isPrefixOf_iff_prefix]
    constructor
    · rintro (⟨after, h⟩ | ⟨before, after, h⟩)
      · exact ⟨[], after, by simpa using h.symm⟩
      · exact ⟨c :: before, after, by simp [h]⟩
    · rintro ⟨before, after, h⟩
      cases before with
      | nil => exact .inl ⟨after, by simpa using h.symm⟩
      | cons b bs =>
        rw [List.cons_append, List.cons_append] at h
        exact .inr ⟨bs, after, (List.cons.inj h).2⟩

end RCart.Text
