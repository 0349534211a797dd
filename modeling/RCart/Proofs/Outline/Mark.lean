import Mathlib.Data.List.Basic
import RCart.Outline
import RCart.Proofs.Text.Bytes

/-!
Where definition marks stand.

* `MarkAt`: a mark stands at a byte of a text;
* `MarkAt.add_length_le`: marks do not overlap;
* `Place`, `places`: a mark with the characters before it and after it, and all of them, in order;
* `markAt_iff`: the marks in the bytes of a text are its places;
* `filterMap_placesFrom_cons`, `placesFrom_append`: going through the places.
-/

namespace RCart.Outline

open Source (isNameByte isNameChar)
open Text (utf8Length toBytes bytesOf)

/-! ### Bytes -/

/-- The bytes of a definition mark. -/
def markBytes : List UInt8 :=
  bytesOf definitionMark

/-- A definition mark stands at byte `m` of a text. -/
def MarkAt (bytes : List UInt8) (m : ℕ) : Prop :=
  markBytes <+: bytes.drop m

lemma markBytes_eq : markBytes = [60, 45, 32, 102, 117, 110, 99, 116, 105, 111, 110, 40] := by
  decide

lemma length_markBytes : markBytes.length = 12 := by
  rw [markBytes_eq]
  rfl

variable {bytes : List UInt8} {m n : ℕ}

/-- What stands where in a mark. -/
lemma MarkAt.getElem? (h : MarkAt bytes m) {i : ℕ} (hi : i < 12) :
    bytes[m + i]? = markBytes[i]? := by
  obtain ⟨after, hafter⟩ := h
  rw [← List.getElem?_drop, ← hafter, List.getElem?_append_left (by rwa [length_markBytes])]

/-- Only the first byte of a mark is an arrow head, so marks do not overlap. -/
lemma MarkAt.add_length_le (hm : MarkAt bytes m) (hn : MarkAt bytes n) (hlt : m < n) :
    m + 12 ≤ n := by
  by_contra hover
  have hhead : bytes[n]? = some 60 := by
    rw [← Nat.add_zero n, hn.getElem? (by decide), markBytes_eq]
    rfl
  have hinside : ∀ i < 12, 0 < i → markBytes[i]? ≠ some 60 := by
    rw [markBytes_eq]
    decide
  obtain ⟨i, rfl⟩ := Nat.exists_eq_add_of_lt hlt
  rw [Nat.add_assoc, hm.getElem? (by omega)] at hhead
  exact hinside (i + 1) (by omega) (Nat.succ_pos i) hhead

/-- Name characters lie below `0x80`. -/
lemma isNameChar_of_le {c : Char} (h : 0x80 ≤ c.toNat) : isNameChar c = false := by
  have hle : ∀ d : Char, d.toNat < 0x80 → ¬ c ≤ d := by
    intro d hd hcd
    have : c.toNat ≤ d.toNat := hcd
    omega
  have hne : ∀ d : Char, d.toNat < 0x80 → c ≠ d := by
    rintro _ hd rfl
    omega
  simp [isNameChar, Source.isLetter, Source.isDigit, hle 'Z' (by decide), hle 'z' (by decide),
    hle '9' (by decide), hne '_' (by decide), hne '.' (by decide)]

lemma isNameByte_of_le {b : UInt8} (h : 0x80 ≤ b.toNat) : isNameByte b = false := by
  have hvalid : b.toNat.isValidChar := .inl (Nat.lt_trans b.toNat_lt (by decide))
  refine isNameChar_of_le ?_
  rw [Char.ofNat, dif_pos hvalid]
  exact h

/-- Name bytes are the bytes of name characters. -/
lemma readsAs_isNameByte : Text.ReadsAs isNameByte isNameChar := by
  refine Text.readsAs_of_below false (fun c hc => ?_) (fun c => isNameChar_of_le)
    fun b => isNameByte_of_le
  rw [isNameByte, Text.toNat_toUInt8 hc, Char.ofNat_toNat]

/-! ### Characters -/

/-- A place where a mark stands: the characters before it, backwards, and those after it. -/
structure Place where
  before : List Char
  after : List Char

/-- The byte at which the mark of a place starts. -/
def Place.offset (p : Place) : ℕ :=
  utf8Length p.before

/-- The places in a text, given backwards what stands before it. -/
def placesFrom (before : List Char) : List Char → List Place
  | [] => []
  | c :: cs =>
    (if definitionMark.isPrefixOf (c :: cs) then
      [⟨before, (c :: cs).drop definitionMark.length⟩] else [])
      ++ placesFrom (c :: before) cs

/-- The places of a text, in order. -/
def places (code : String) : List Place :=
  placesFrom [] code.toList

/-- The places of a text are the ways to cut it at a mark. -/
lemma mem_placesFrom {before cs : List Char} {p : Place} :
    p ∈ placesFrom before cs ↔ ∃ between, p.before = between.reverse ++ before
      ∧ cs = between ++ (definitionMark ++ p.after) := by
  induction cs generalizing before with
  | nil => simp [placesFrom, definitionMark]
  | cons c cs ih =>
      rw [placesFrom, List.mem_append, ih]
      constructor
      · rintro (hhere | ⟨between, hbefore, rfl⟩)
        · split at hhere
          · next hmark =>
            obtain rfl := List.mem_singleton.mp hhere
            obtain ⟨after, hafter⟩ := List.isPrefixOf_iff_prefix.mp hmark
            exact ⟨[], rfl, by rw [← hafter, List.drop_left]; rfl⟩
          · cases hhere
        · exact ⟨c :: between, by rw [hbefore, List.reverse_cons, List.append_assoc]; rfl, rfl⟩
      · rintro ⟨between, hbefore, hcs⟩
        cases between with
        | nil =>
            left
            rw [List.nil_append] at hcs
            rw [hcs, if_pos (List.isPrefixOf_iff_prefix.mpr (List.prefix_append _ _)),
              List.drop_left, List.mem_singleton]
            exact congrArg (Place.mk · p.after) hbefore
        | cons d between =>
            right
            obtain ⟨rfl, rfl⟩ := List.cons.inj hcs
            exact ⟨between, by rw [hbefore, List.reverse_cons, List.append_assoc]; rfl, rfl⟩

lemma utf8Length_reverse (cs : List Char) : utf8Length cs.reverse = utf8Length cs := by
  induction cs with
  | nil => rfl
  | cons c cs ih =>
      rw [List.reverse_cons, Text.utf8Length_append, ih, utf8Length, utf8Length, utf8Length]
      omega

lemma length_bytesOf_reverse (cs : List Char) : (bytesOf cs.reverse).length = utf8Length cs := by
  rw [Text.length_bytesOf, utf8Length_reverse]

/-- The places come in the order of their marks. -/
lemma pairwise_placesFrom (before cs : List Char) :
    (placesFrom before cs).Pairwise fun p q => p.offset < q.offset := by
  induction cs generalizing before with
  | nil => exact .nil
  | cons c cs ih =>
      rw [placesFrom]
      split
      · refine List.pairwise_cons.mpr ⟨fun q hq => ?_, ih (c :: before)⟩
        obtain ⟨between, hbetween, -⟩ := mem_placesFrom.mp hq
        have hc : 0 < c.utf8Size := c.utf8Size_pos
        simp only [Place.offset, hbetween, Text.utf8Length_append, utf8Length]
        omega
      · exact ih (c :: before)

lemma pairwise_places (code : String) :
    (places code).Pairwise fun p q => p.offset < q.offset :=
  pairwise_placesFrom [] code.toList

/-! ### Both -/

lemma mem_places {code : String} {p : Place} :
    p ∈ places code ↔ code.toList = p.before.reverse ++ (definitionMark ++ p.after) := by
  rw [places, mem_placesFrom]
  constructor
  · rintro ⟨between, hbefore, hcode⟩
    rw [hbefore, List.append_nil, List.reverse_reverse, hcode]
  · intro hcode
    exact ⟨p.before.reverse, by simp, hcode⟩

/-- The bytes of a text, cut at a place. -/
lemma bytes_of_mem_places {code : String} {p : Place} (hp : p ∈ places code) :
    toBytes code = bytesOf p.before.reverse ++ (markBytes ++ bytesOf p.after) := by
  rw [Text.toBytes_eq, mem_places.mp hp, Text.bytesOf_append, Text.bytesOf_append, markBytes]

lemma take_offset {code : String} {p : Place} (hp : p ∈ places code) :
    (toBytes code).take p.offset = bytesOf p.before.reverse := by
  rw [bytes_of_mem_places hp, Place.offset, ← length_bytesOf_reverse, List.take_left]

lemma drop_offset {code : String} {p : Place} (hp : p ∈ places code) :
    (toBytes code).drop p.offset = markBytes ++ bytesOf p.after := by
  rw [bytes_of_mem_places hp, Place.offset, ← length_bytesOf_reverse, List.drop_left]

lemma drop_offset_add {code : String} {p : Place} (hp : p ∈ places code) :
    (toBytes code).drop (p.offset + 12) = bytesOf p.after := by
  rw [← List.drop_drop, drop_offset hp, ← length_markBytes, List.drop_left]

/-- The marks in the bytes of a text are its places. -/
lemma markAt_iff {code : String} {m : ℕ} :
    MarkAt (toBytes code) m ↔ ∃ p ∈ places code, p.offset = m := by
  constructor
  · rintro ⟨after, hafter⟩
    have hcut : bytesOf code.toList
        = (toBytes code).take m ++ (bytesOf definitionMark ++ after) := by
      rw [← Text.toBytes_eq, ← markBytes, hafter, List.take_append_drop]
    obtain ⟨front, back, hcode, hfront, -⟩ :=
      Text.exists_of_bytesOf_eq (by simp [definitionMark]) (by decide) hcut
    refine ⟨⟨front.reverse, back⟩, mem_places.mpr (by rw [hcode, List.reverse_reverse]), ?_⟩
    have hm : m ≤ (toBytes code).length := by
      by_contra hgt
      rw [List.drop_of_length_le (by omega), markBytes_eq] at hafter
      cases hafter
    rw [Place.offset, utf8Length_reverse, ← Text.length_bytesOf, hfront, List.length_take,
      Nat.min_eq_left hm]
  · rintro ⟨p, hp, rfl⟩
    rw [MarkAt, drop_offset hp]
    exact List.prefix_append _ _

lemma markAt_offset {code : String} {p : Place} (hp : p ∈ places code) :
    MarkAt (toBytes code) p.offset :=
  markAt_iff.mpr ⟨p, hp, rfl⟩

/-- The mark of a place ends before that of any later place. -/
lemma offset_add_le {code : String} {p q : Place} (hp : p ∈ places code) (hq : q ∈ places code)
    (hlt : p.offset < q.offset) : p.offset + 12 ≤ q.offset :=
  (markAt_offset hp).add_length_le (markAt_offset hq) hlt

/-! ### Going through the places -/

/-- What is made of the places of a text, one character at a time. -/
lemma filterMap_placesFrom_cons {α : Type} (f : Place → Option α) (before : List Char) (c : Char)
    (cs : List Char) :
    (placesFrom before (c :: cs)).filterMap f
      = (if definitionMark.isPrefixOf (c :: cs) then
          (f ⟨before, (c :: cs).drop definitionMark.length⟩).toList else [])
        ++ (placesFrom (c :: before) cs).filterMap f := by
  rw [placesFrom, List.filterMap_append]
  congr 1
  split
  · cases h : f ⟨before, (c :: cs).drop definitionMark.length⟩ <;> simp [h]
  · rfl

/-- Where there is no arrow head there is no mark. -/
lemma placesFrom_append {skipped : List Char} (h : '<' ∉ skipped) (before cs : List Char) :
    placesFrom before (skipped ++ cs) = placesFrom (skipped.reverse ++ before) cs := by
  induction skipped generalizing before with
  | nil => rfl
  | cons c skipped ih =>
      have hc : ¬ definitionMark.isPrefixOf (c :: (skipped ++ cs)) = true := by
        rw [List.isPrefixOf_iff_prefix, definitionMark, List.cons_prefix_cons]
        rintro ⟨rfl, -⟩
        exact h List.mem_cons_self
      rw [List.cons_append, placesFrom, if_neg hc, List.nil_append,
        ih fun hmem => h (List.mem_cons_of_mem c hmem), List.reverse_cons, List.append_assoc]
      rfl

end RCart.Outline
