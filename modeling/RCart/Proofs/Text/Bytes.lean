import Mathlib.Data.List.TakeWhile
import RCart.Text.Utf8

/-!
The bytes of characters.

A character below `0x80` is a byte of its own, and the bytes of any other lie from `0x80` on. So
what is asked of such characters can be asked of bytes:

* `bytesOf`, `toBytes_eq`: the bytes of some characters, and of a text;
* `ofBytes?_eq_some_iff`: bytes come from at most one text;
* `ReadsAs`: a property of bytes that reads a property of characters, with `takeWhile_bytesOf` and
  `forall_mem_bytesOf`;
* `exists_of_bytesOf_eq`: a word of such characters in the bytes stands in the text;
* `takeWhile_append_of_head?`, `takeWhile_append_stop`: what is read of a text, a character at a
  time, up to where it stops.
-/

namespace RCart.Text

/-- The bytes of some characters. -/
def bytesOf (cs : List Char) : List UInt8 :=
  cs.flatMap String.utf8EncodeChar

lemma bytesOf_cons (c : Char) (cs : List Char) :
    bytesOf (c :: cs) = String.utf8EncodeChar c ++ bytesOf cs := rfl

@[simp] lemma bytesOf_append (a b : List Char) : bytesOf (a ++ b) = bytesOf a ++ bytesOf b :=
  List.flatMap_append

@[simp] lemma length_bytesOf (cs : List Char) : (bytesOf cs).length = utf8Length cs := by
  induction cs with
  | nil => rfl
  | cons c cs ih =>
      rw [bytesOf_cons, List.length_append, String.length_utf8EncodeChar, ih, utf8Length]

@[simp] lemma bytesOf_eq_nil_iff {cs : List Char} : bytesOf cs = [] ↔ cs = [] := by
  cases cs with
  | nil => simp [bytesOf]
  | cons c cs => simp [bytesOf_cons, String.utf8EncodeChar_ne_nil]

/-! ### Texts -/

/-- The bytes of a text are those of its characters. -/
lemma toBytes_eq (text : String) : toBytes text = bytesOf text.toList := by
  rw [toBytes, String.toUTF8_eq_toByteArray, ← String.utf8Encode_toList]
  simp [List.utf8Encode, bytesOf]

/-- Bytes come from at most one text, the one that has them. -/
lemma ofBytes?_eq_some_iff {bytes : List UInt8} {text : String} :
    ofBytes? bytes = some text ↔ toBytes text = bytes := by
  rw [ofBytes?, String.fromUTF8?]
  constructor
  · intro h
    split at h
    · obtain rfl := Option.some.inj h
      rfl
    · cases h
  · rintro rfl
    have htext : (⟨(toBytes text).toArray⟩ : ByteArray) = text.toByteArray := by
      rw [toBytes, String.toUTF8_eq_toByteArray, Array.toArray_toList]
    rw [htext, dif_pos text.isValidUTF8]
    rfl

/-! ### Characters below `0x80` -/

/-- A character below `0x80` is one byte. -/
lemma utf8EncodeChar_of_lt {c : Char} (h : c.toNat < 0x80) :
    String.utf8EncodeChar c = [c.toUInt8] := by
  have hsize : c.utf8Size = 1 := by
    rw [Char.utf8Size_eq_one_iff, UInt32.le_iff_toNat_le]
    exact Nat.le_of_lt_succ h
  exact String.utf8EncodeChar_eq_singleton hsize

/-- The bytes of any other character lie from `0x80` on. -/
lemma le_of_mem_utf8EncodeChar {c : Char} (h : 0x80 ≤ c.toNat) {b : UInt8}
    (hb : b ∈ String.utf8EncodeChar c) : 0x80 ≤ b.toNat := by
  have hval : ¬ c.val.toNat ≤ 127 := Nat.not_le.mpr h
  simp only [String.utf8EncodeChar, hval, if_false] at hb
  -- every byte is a sum with a marker from `0x80` on, and below `0x100`
  split at hb
  · simp only [List.mem_cons, List.not_mem_nil, or_false] at hb
    obtain rfl | rfl := hb <;> rw [UInt8.toNat_ofNat'] <;> omega
  · split at hb
    · simp only [List.mem_cons, List.not_mem_nil, or_false] at hb
      obtain rfl | rfl | rfl := hb <;> rw [UInt8.toNat_ofNat'] <;> omega
    · simp only [List.mem_cons, List.not_mem_nil, or_false] at hb
      obtain rfl | rfl | rfl | rfl := hb <;> rw [UInt8.toNat_ofNat'] <;> omega

lemma toNat_toUInt8 {c : Char} (h : c.toNat < 0x80) : c.toUInt8.toNat = c.toNat := by
  change c.val.toUInt8.toNat = c.val.toNat
  rw [UInt32.toNat_toUInt8]
  exact Nat.mod_eq_of_lt (Nat.lt_trans h (by decide))

/-- A byte below `0x80` is among the bytes of one character only. -/
lemma eq_of_mem_utf8EncodeChar {a c : Char} (ha : a.toNat < 0x80)
    (hmem : a.toUInt8 ∈ String.utf8EncodeChar c) : c = a := by
  rcases Nat.lt_or_ge c.toNat 0x80 with hc | hc
  · rw [utf8EncodeChar_of_lt hc, List.mem_singleton] at hmem
    have hval : a.toNat = c.toNat := by rw [← toNat_toUInt8 ha, ← toNat_toUInt8 hc, hmem]
    rw [← Char.ofNat_toNat c, ← hval, Char.ofNat_toNat]
  · have hle := le_of_mem_utf8EncodeChar hc hmem
    rw [toNat_toUInt8 ha] at hle
    omega

/-- A character below `0x80` is in a text just if its byte is among the bytes. -/
lemma toUInt8_mem_bytesOf_iff {a : Char} (ha : a.toNat < 0x80) {cs : List Char} :
    a.toUInt8 ∈ bytesOf cs ↔ a ∈ cs := by
  constructor
  · intro h
    obtain ⟨c, hc, hmem⟩ := List.mem_flatMap.mp h
    exact eq_of_mem_utf8EncodeChar ha hmem ▸ hc
  · intro h
    refine List.mem_flatMap.mpr ⟨a, h, ?_⟩
    rw [utf8EncodeChar_of_lt ha]
    exact List.mem_cons_self

/-! ### Properties of bytes -/

/-- A property of bytes reads a property of characters: all bytes of a character have it, or none,
as the character does. -/
def ReadsAs (q : UInt8 → Bool) (p : Char → Bool) : Prop :=
  ∀ c, ∀ b ∈ String.utf8EncodeChar c, q b = p c

/-- Properties that agree below `0x80` and do not tell apart what lies from there on. -/
lemma readsAs_of_below {q : UInt8 → Bool} {p : Char → Bool} (v : Bool)
    (hbelow : ∀ c : Char, c.toNat < 0x80 → q c.toUInt8 = p c)
    (hchar : ∀ c : Char, 0x80 ≤ c.toNat → p c = v)
    (hbyte : ∀ b : UInt8, 0x80 ≤ b.toNat → q b = v) : ReadsAs q p := by
  intro c b hb
  rcases Nat.lt_or_ge c.toNat 0x80 with hc | hc
  · rw [utf8EncodeChar_of_lt hc, List.mem_singleton] at hb
    rw [hb, hbelow c hc]
  · rw [hchar c hc, hbyte b (le_of_mem_utf8EncodeChar hc hb)]

/-- To be a character below `0x80` is to be its byte. -/
lemma readsAs_beq {a : Char} (ha : a.toNat < 0x80) : ReadsAs (· == a.toUInt8) (· == a) := by
  intro c b hb
  rw [Bool.eq_iff_iff, beq_iff_eq, beq_iff_eq]
  constructor
  · rintro rfl
    exact eq_of_mem_utf8EncodeChar ha hb
  · rintro rfl
    rwa [utf8EncodeChar_of_lt ha, List.mem_singleton] at hb

section ReadsAs

variable {q q' : UInt8 → Bool} {p p' : Char → Bool}

lemma ReadsAs.not (h : ReadsAs q p) : ReadsAs (fun b => !q b) (fun c => !p c) :=
  fun c b hb => congrArg Bool.not (h c b hb)

lemma ReadsAs.and (h : ReadsAs q p) (h' : ReadsAs q' p') :
    ReadsAs (fun b => q b && q' b) (fun c => p c && p' c) :=
  fun c b hb => congrArg₂ Bool.and (h c b hb) (h' c b hb)

lemma ReadsAs.or (h : ReadsAs q p) (h' : ReadsAs q' p') :
    ReadsAs (fun b => q b || q' b) (fun c => p c || p' c) :=
  fun c b hb => congrArg₂ Bool.or (h c b hb) (h' c b hb)

lemma forall_mem_bytesOf (h : ReadsAs q p) {cs : List Char} :
    (∀ b ∈ bytesOf cs, q b = true) ↔ ∀ c ∈ cs, p c = true := by
  constructor
  · intro hall c hc
    obtain ⟨b, rest, hb⟩ := List.exists_cons_of_ne_nil (String.utf8EncodeChar_ne_nil (c := c))
    have hmem : b ∈ String.utf8EncodeChar c := hb ▸ List.mem_cons_self
    rw [← h c b hmem]
    exact hall b (List.mem_flatMap.mpr ⟨c, hc, hmem⟩)
  · intro hall b hb
    obtain ⟨c, hc, hmem⟩ := List.mem_flatMap.mp hb
    rw [h c b hmem, hall c hc]

/-- The bytes in front that have the property are those of the characters in front that do. -/
lemma takeWhile_bytesOf (h : ReadsAs q p) (cs : List Char) :
    (bytesOf cs).takeWhile q = bytesOf (cs.takeWhile p) := by
  induction cs with
  | nil => rfl
  | cons c cs ih =>
      cases hc : p c with
      | true =>
          rw [bytesOf_cons, List.takeWhile_append_of_pos fun b hb => (h c b hb).trans hc, ih,
            List.takeWhile_cons_of_pos hc, bytesOf_cons]
      | false =>
          obtain ⟨b, rest, hb⟩ := List.exists_cons_of_ne_nil (String.utf8EncodeChar_ne_nil (c := c))
          have hq : ¬ q b = true := by
            rw [h c b (hb ▸ List.mem_cons_self), hc]
            exact Bool.false_ne_true
          rw [bytesOf_cons, hb, List.cons_append, List.takeWhile_cons_of_neg hq,
            List.takeWhile_cons_of_neg (ne_true_of_eq_false hc)]
          rfl

end ReadsAs

/-! ### Words -/

/-- A byte below `0x80` stands between the bytes of what is before its character and after it. -/
lemma exists_of_bytesOf_eq_cons {a : Char} (ha : a.toNat < 0x80) {cs : List Char}
    {before after : List UInt8} (h : bytesOf cs = before ++ a.toUInt8 :: after) :
    ∃ front back, cs = front ++ a :: back ∧ bytesOf front = before ∧ bytesOf back = after := by
  induction cs generalizing before with
  | nil => simp [bytesOf] at h
  | cons c cs ih =>
      rw [bytesOf_cons, List.append_eq_append_iff] at h
      obtain ⟨rest, rfl, hrest⟩ | ⟨rest, hc, hrest⟩ := h
      · obtain ⟨front, back, rfl, hfront, hback⟩ := ih hrest
        exact ⟨c :: front, back, rfl, by rw [bytesOf_cons, hfront], hback⟩
      · cases rest with
        | nil =>
            have hnext : bytesOf cs = [] ++ a.toUInt8 :: after := hrest.symm
            obtain ⟨front, back, hcs, hfront, hback⟩ := ih hnext
            refine ⟨c :: front, back, by rw [hcs, List.cons_append], ?_, hback⟩
            rw [bytesOf_cons, hfront, hc, List.append_nil, List.append_nil]
        | cons b rest =>
            -- the byte is one of `c`, so it is all of `c`
            obtain ⟨rfl, rfl⟩ := List.cons.inj hrest
            have hmem : a.toUInt8 ∈ String.utf8EncodeChar c := by
              rw [hc]
              exact List.mem_append_right before List.mem_cons_self
            obtain rfl := eq_of_mem_utf8EncodeChar ha hmem
            rw [utf8EncodeChar_of_lt ha] at hc
            obtain ⟨rfl, h⟩ | ⟨-, h⟩ := List.append_eq_singleton_iff.mp hc.symm
            · obtain rfl := (List.cons.inj h).2
              exact ⟨[], cs, rfl, rfl, rfl⟩
            · cases h

/-- A word of such characters that stands in the bytes of a text stands in the text. -/
lemma exists_of_bytesOf_eq {word : List Char} (hword : ∀ c ∈ word, c.toNat < 0x80) (hne : word ≠ [])
    {cs : List Char} {before after : List UInt8}
    (h : bytesOf cs = before ++ (bytesOf word ++ after)) :
    ∃ front back, cs = front ++ (word ++ back) ∧ bytesOf front = before ∧ bytesOf back = after := by
  induction word generalizing cs before with
  | nil => exact absurd rfl hne
  | cons a word ih =>
      have ha : a.toNat < 0x80 := hword a List.mem_cons_self
      rw [bytesOf_cons, utf8EncodeChar_of_lt ha] at h
      obtain ⟨front, rest, rfl, hfront, hrest⟩ := exists_of_bytesOf_eq_cons ha h
      by_cases hword' : word = []
      · subst hword'
        exact ⟨front, rest, rfl, hfront, hrest⟩
      · -- what follows the first character starts with the rest of the word
        have hnext : bytesOf rest = [] ++ (bytesOf word ++ after) := hrest
        obtain ⟨skipped, back, rfl, hskipped, hback⟩ :=
          ih (fun c hc => hword c (List.mem_cons_of_mem a hc)) hword' hnext
        obtain rfl := bytesOf_eq_nil_iff.mp hskipped
        exact ⟨front, back, rfl, hfront, hback⟩

/-- Such a word at the end of the bytes stands at the end of the text, even if it is empty. -/
lemma exists_of_bytesOf_eq_append {word : List Char} (hword : ∀ c ∈ word, c.toNat < 0x80)
    {cs : List Char} {before : List UInt8} (h : bytesOf cs = before ++ bytesOf word) :
    ∃ front, cs = front ++ word ∧ bytesOf front = before := by
  by_cases hne : word = []
  · subst hne
    exact ⟨cs, (List.append_nil cs).symm, h.trans (List.append_nil before)⟩
  · rw [← List.append_nil (bytesOf word)] at h
    obtain ⟨front, back, rfl, hfront, hback⟩ := exists_of_bytesOf_eq hword hne h
    obtain rfl := bytesOf_eq_nil_iff.mp hback
    exact ⟨front, by rw [List.append_nil], hfront⟩

/-- Bytes below `0x80` are the bytes of a word. -/
lemma exists_bytesOf_eq {bytes : List UInt8} (h : ∀ b ∈ bytes, b.toNat < 0x80) :
    ∃ word, (∀ c ∈ word, c.toNat < 0x80) ∧ bytesOf word = bytes := by
  induction bytes with
  | nil => exact ⟨[], nofun, rfl⟩
  | cons b bytes ih =>
      obtain ⟨word, hword, hbytes⟩ := ih fun b hb => h b (List.mem_cons_of_mem _ hb)
      have hb : b.toNat < 0x80 := h b List.mem_cons_self
      have hc : (Char.ofNat b.toNat).toNat = b.toNat := by
        rw [Char.ofNat, dif_pos (.inl (Nat.lt_trans hb (by decide)))]
        rfl
      have hlow : (Char.ofNat b.toNat).toNat < 0x80 := by rwa [hc]
      refine ⟨Char.ofNat b.toNat :: word, List.forall_mem_cons.mpr ⟨hlow, hword⟩, ?_⟩
      rw [bytesOf_cons, utf8EncodeChar_of_lt hlow, hbytes, List.singleton_append]
      congr 1
      rw [← UInt8.toNat_inj, toNat_toUInt8 hlow, hc]

/-- The last byte of a text is one of its last character. -/
lemma exists_getLast?_bytesOf (cs : List Char) (c : Char) :
    ∃ b ∈ String.utf8EncodeChar c, (bytesOf (cs ++ [c])).getLast? = some b := by
  have hne := String.utf8EncodeChar_ne_nil (c := c)
  refine ⟨_, List.getLast_mem hne, ?_⟩
  have hsingle : bytesOf [c] = String.utf8EncodeChar c := List.append_nil _
  rw [bytesOf_append, hsingle, List.getLast?_append, List.getLast?_eq_some_getLast hne]
  rfl

/-- Read backwards, a text starts without a property just if its last byte has not got it. -/
lemma forall_getLast?_bytesOf {q : UInt8 → Bool} {p : Char → Bool} (h : ReadsAs q p)
    {before : List Char} :
    (∀ b ∈ (bytesOf before.reverse).getLast?, q b = false)
      ↔ ∀ c ∈ before.head?, p c = false := by
  cases before with
  | nil => exact iff_of_true nofun nofun
  | cons c before =>
      obtain ⟨b, hb, hlast⟩ := exists_getLast?_bytesOf before.reverse c
      rw [List.reverse_cons, hlast]
      simp only [Option.mem_some, forall_eq', List.head?_cons]
      rw [h c b hb]

/-! ### Reading -/

/-- The first part of a text is read up to the first character that cannot be in it. -/
lemma takeWhile_append_of_head? {α : Type} {p : α → Bool} {part rest : List α}
    (h : ∀ c ∈ part, p c = true) (hrest : ∀ c ∈ rest.head?, p c = false) :
    (part ++ rest).takeWhile p = part ∧ (part ++ rest).dropWhile p = rest := by
  rw [List.takeWhile_append_of_pos h, List.dropWhile_append_of_pos h]
  cases rest with
  | nil => simp
  | cons c rest =>
      have hc := hrest c rfl
      rw [List.takeWhile_cons_of_neg (by simp [hc]), List.dropWhile_cons_of_neg (by simp [hc])]
      simp

/-- What is read does not go beyond a character that cannot be in it. -/
lemma takeWhile_append_stop {α : Type} {p : α → Bool} {stop : α} (h : p stop = false)
    (front rest : List α) :
    (front ++ stop :: rest).takeWhile p = front.takeWhile p
      ∧ (front ++ stop :: rest).dropWhile p = front.dropWhile p ++ stop :: rest := by
  induction front with
  | nil => simp [h]
  | cons c front ih => cases hc : p c <;> simp [hc, ih]

/-- Every text is such a first part with what is left of it. -/
lemma exists_append_head? {α : Type} (p : α → Bool) (cs : List α) :
    ∃ part rest, cs = part ++ rest ∧ (∀ c ∈ part, p c = true) ∧ ∀ c ∈ rest.head?, p c = false := by
  refine ⟨cs.takeWhile p, cs.dropWhile p, List.takeWhile_append_dropWhile.symm,
    fun c hc => List.mem_takeWhile_imp hc, fun c hc => ?_⟩
  have hstop := List.head?_dropWhile_not p cs
  rw [Option.mem_def.mp hc] at hstop
  simpa using hstop

end RCart.Text
