import Mathlib.Data.List.Perm.Subperm
import Mathlib.Data.List.TakeWhile
import RCart.Proofs.Outline.Mark

/-!
The outline of first parameters.

* `parameters_eq`: the outline looks at each place of a text once, in order;
* `nameLengthAt`: the length of the identifier at a byte of a text;
* `pairwise_parameters`, `lt_length_of_mem_parameters`, `length_parameters_le`: the items come one
  behind the other, in the text, and there are no more of them than bytes;
* **`OutlinePanel.showParameters_exact`**: there is one item for each mark that a closed identifier
  follows, and no other.
-/

namespace RCart

namespace Outline

open Source (isNameByte isNameChar)
open Text (utf8Length toBytes bytesOf)

/-! ### Each place once -/

/-- The item of a place. -/
def Place.parameter (p : Place) : Option OutlineItem :=
  parameterAt (p.offset + definitionMark.length) p.after

/-- Neither a mark, behind its head, nor the identifier after it holds an arrow head. -/
lemma arrow_notMem_tail_append (rest : List Char) :
    '<' ∉ definitionMark.tail ++ rest.takeWhile isNameChar := by
  rw [List.mem_append, not_or]
  refine ⟨by decide, fun h => ?_⟩
  have hname : isNameChar '<' = true := List.mem_takeWhile_imp h
  exact absurd hname (by decide)

/-- The search for marks goes on behind an identifier, and comes to each place all the same. -/
lemma parametersFrom_eq (pos : ℕ) (cs : List Char) :
    ∀ before, utf8Length before = pos →
      parametersFrom pos cs = (placesFrom before cs).filterMap Place.parameter := by
  induction pos, cs using parametersFrom.induct with
  | case1 pos =>
      intro before _
      rw [parametersFrom]
      rfl
  | case2 pos c cs hmark rest name start ih =>
      intro before hpos
      obtain ⟨after, hafter⟩ := List.isPrefixOf_iff_prefix.mp hmark
      have hrest : rest = after := by
        change (c :: cs).drop definitionMark.length = after
        rw [← hafter, List.drop_left]
      obtain ⟨rfl, hcs⟩ : c = '<' ∧ cs = definitionMark.tail ++ after := List.cons.inj hafter.symm
      -- behind the arrow head come the rest of the mark, the identifier and what is searched next
      have hsplit : cs = (definitionMark.tail ++ name) ++ rest.dropWhile isNameChar := by
        rw [hcs, List.append_assoc, List.takeWhile_append_dropWhile, hrest]
      have hstart : utf8Length ((definitionMark.tail ++ name).reverse ++ '<' :: before)
          = start + utf8Length name := by
        rw [Text.utf8Length_append, utf8Length_reverse, Text.utf8Length_append, utf8Length, hpos]
        change 11 + utf8Length name + (1 + pos) = pos + 12 + utf8Length name
        omega
      have hplaces := placesFrom_append (arrow_notMem_tail_append rest) ('<' :: before)
        (rest.dropWhile isNameChar)
      rw [← hsplit] at hplaces
      rw [parametersFrom, if_pos hmark, filterMap_placesFrom_cons, if_pos hmark, hplaces,
        ← ih _ hstart, Place.parameter, Place.offset, hpos]
  | case3 pos c cs hmark ih =>
      intro before hpos
      rw [parametersFrom, if_neg hmark, filterMap_placesFrom_cons, if_neg hmark, List.nil_append]
      refine ih (c :: before) ?_
      rw [utf8Length, hpos, Nat.add_comm]

lemma parameters_eq (code : String) :
    parameters code = (places code).filterMap Place.parameter :=
  parametersFrom_eq 0 code.toList [] rfl

/-! ### Bytes -/

/-- The length of the identifier at byte `i` of a text, the longest run of name bytes from there
on. -/
def nameLengthAt (bytes : List UInt8) (i : ℕ) : ℕ :=
  ((bytes.drop i).takeWhile isNameByte).length

lemma utf8Length_eq_zero_iff {cs : List Char} : utf8Length cs = 0 ↔ cs = [] := by
  rw [← Text.length_bytesOf, List.length_eq_zero_iff, Text.bytesOf_eq_nil_iff]

lemma isEmpty_iff_utf8Length {cs : List Char} : cs.isEmpty = true ↔ utf8Length cs = 0 :=
  List.isEmpty_iff.trans utf8Length_eq_zero_iff.symm

/-- The bytes of the identifier behind a mark are those of its characters. -/
lemma nameLengthAt_offset {code : String} {p : Place} (hp : p ∈ places code) :
    nameLengthAt (toBytes code) (p.offset + 12) = utf8Length (p.after.takeWhile isNameChar) := by
  rw [nameLengthAt, drop_offset_add hp, Text.takeWhile_bytesOf readsAs_isNameByte,
    Text.length_bytesOf]

/-- The item of a place in bytes: the identifier after the mark, if it is not empty and does not
reach the end. -/
lemma parameter_eq_some_iff {code : String} {p : Place} (hp : p ∈ places code)
    {item : OutlineItem} :
    p.parameter = some item
      ↔ item = ⟨p.offset + 12, nameLengthAt (toBytes code) (p.offset + 12)⟩ ∧ 0 < item.size
        ∧ item.pos + item.size < (toBytes code).length := by
  set name := p.after.takeWhile isNameChar
  set rest := p.after.dropWhile isNameChar
  have hname : nameLengthAt (toBytes code) (p.offset + 12) = utf8Length name :=
    nameLengthAt_offset hp
  have hlength : (toBytes code).length = p.offset + 12 + (utf8Length name + utf8Length rest) := by
    rw [bytes_of_mem_places hp, List.length_append, List.length_append, length_bytesOf_reverse,
      Text.length_bytesOf, length_markBytes, ← Text.utf8Length_append,
      List.takeWhile_append_dropWhile, Place.offset]
    omega
  have hparameter : p.parameter
      = if name.isEmpty || rest.isEmpty then none else some ⟨p.offset + 12, utf8Length name⟩ := rfl
  rw [hparameter, hname, hlength]
  split
  · next hempty =>
    rw [Bool.or_eq_true, isEmpty_iff_utf8Length, isEmpty_iff_utf8Length] at hempty
    refine iff_of_false (by simp) ?_
    rintro ⟨rfl, hpos, hend⟩
    simp only at hpos hend
    omega
  · next hfull =>
    rw [Bool.or_eq_true, isEmpty_iff_utf8Length, isEmpty_iff_utf8Length] at hfull
    constructor
    · intro h
      obtain rfl := Option.some.inj h
      refine ⟨rfl, ?_, ?_⟩ <;> simp only <;> omega
    · rintro ⟨rfl, -⟩
      rfl

/-- No mark starts in an identifier. -/
lemma nameLengthAt_le {bytes : List UInt8} {i n : ℕ} (hn : MarkAt bytes n) (hle : i ≤ n) :
    i + nameLengthAt bytes i ≤ n := by
  by_contra hover
  obtain ⟨k, rfl⟩ := Nat.exists_eq_add_of_le hle
  have hhead : bytes[i + k]? = some 60 := by
    rw [← Nat.add_zero (i + k), hn.getElem? (by decide), markBytes_eq]
    rfl
  have hk : k < ((bytes.drop i).takeWhile isNameByte).length := by
    rw [← nameLengthAt]
    omega
  have hbyte : ((bytes.drop i).takeWhile isNameByte)[k]? = some 60 := by
    rw [List.getElem?_eq_getElem hk, (List.takeWhile_prefix isNameByte).getElem hk,
      ← List.getElem?_eq_getElem, List.getElem?_drop, hhead]
  have hname : isNameByte 60 = true := List.mem_takeWhile_imp (List.mem_of_getElem? hbyte)
  exact absurd hname (by decide)

/-- The identifier of a place ends before the mark of any later place. -/
lemma nameEnd_le {code : String} {p q : Place} (hp : p ∈ places code) (hq : q ∈ places code)
    (hlt : p.offset < q.offset) :
    p.offset + 12 + nameLengthAt (toBytes code) (p.offset + 12) ≤ q.offset :=
  nameLengthAt_le (markAt_offset hq) (offset_add_le hp hq hlt)

/-- The item of a place ends before the item of any later place. -/
lemma parameter_apart {code : String} {p q : Place} (hp : p ∈ places code) (hq : q ∈ places code)
    (hlt : p.offset < q.offset) {a b : OutlineItem} (ha : p.parameter = some a)
    (hb : q.parameter = some b) : a.pos < b.pos ∧ a.pos + a.size ≤ b.pos := by
  obtain ⟨rfl, -⟩ := (parameter_eq_some_iff hp).mp ha
  obtain ⟨rfl, -⟩ := (parameter_eq_some_iff hq).mp hb
  have hname := nameEnd_le hp hq hlt
  simp only
  omega

/-- The items come in the order of their marks, and none reaches into the next. -/
lemma pairwise_parameters (code : String) :
    (parameters code).Pairwise fun a b => a.pos < b.pos ∧ a.pos + a.size ≤ b.pos := by
  rw [parameters_eq, List.pairwise_filterMap]
  exact (pairwise_places code).imp_of_mem fun hp hq hlt a ha b hb => parameter_apart hp hq hlt ha hb

/-- No item reaches the end of its text. -/
lemma lt_length_of_mem_parameters {code : String} {item : OutlineItem}
    (h : item ∈ parameters code) : item.pos + item.size < (toBytes code).length := by
  rw [parameters_eq, List.mem_filterMap] at h
  obtain ⟨p, hp, hitem⟩ := h
  exact ((parameter_eq_some_iff hp).mp hitem).2.2

/-- There are no more items than bytes, since no two of them start at one byte. -/
lemma length_parameters_le (code : String) : (parameters code).length ≤ (toBytes code).length := by
  have hdistinct : ((parameters code).map OutlineItem.pos).Nodup :=
    List.pairwise_map.mpr ((pairwise_parameters code).imp fun h => Nat.ne_of_lt h.1)
  have hwithin : (parameters code).map OutlineItem.pos ⊆ List.range (toBytes code).length := by
    intro pos hpos
    obtain ⟨item, hitem, rfl⟩ := List.mem_map.mp hpos
    have hend := lt_length_of_mem_parameters hitem
    exact List.mem_range.mpr (by omega)
  have hle := (List.subperm_of_subset hdistinct hwithin).length_le
  rwa [List.length_map, List.length_range] at hle

end Outline

/-- **The outline of first parameters is exact**, whatever a panel has shown before.

There is an item for each byte `m` at which a mark stands, such that the identifier at byte `m + 12`
is not empty and something follows it; the item is that identifier, and there are no other items.
Items come in the order of their marks, and their spans are disjoint. -/
theorem OutlinePanel.showParameters_exact (panel : OutlinePanel) (code : String) :
    let bytes := Text.toBytes code
    let items := (panel.showParameters code).items
    (∀ item, item ∈ items ↔ ∃ m, Outline.MarkAt bytes m
        ∧ item = ⟨m + 12, Outline.nameLengthAt bytes (m + 12)⟩ ∧ 0 < item.size
        ∧ item.pos + item.size < bytes.length)
      ∧ items.Pairwise (fun a b => a.pos < b.pos)
      ∧ items.Pairwise (fun a b => a.pos + a.size ≤ b.pos) := by
  intro bytes items
  have hshown : items = Outline.parameters code := panel.items_showParameters code
  have hitems : items = (Outline.places code).filterMap Outline.Place.parameter :=
    hshown.trans (Outline.parameters_eq code)
  have hapart : items.Pairwise fun a b => a.pos < b.pos ∧ a.pos + a.size ≤ b.pos :=
    hshown ▸ Outline.pairwise_parameters code
  refine ⟨fun item => ?_, hapart.imp And.left, hapart.imp And.right⟩
  rw [hitems, List.mem_filterMap]
  constructor
  · rintro ⟨p, hp, hitem⟩
    exact ⟨p.offset, Outline.markAt_offset hp,
      (Outline.parameter_eq_some_iff hp).mp hitem⟩
  · rintro ⟨m, hmark, hitem⟩
    obtain ⟨p, hp, rfl⟩ := Outline.markAt_iff.mp hmark
    exact ⟨p, hp, (Outline.parameter_eq_some_iff hp).mpr hitem⟩

end RCart
