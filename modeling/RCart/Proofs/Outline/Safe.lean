import Mathlib.Data.List.Induction
import RCart.Proofs.Outline.Search

/-!
The outlines are safe.

Both outlines are searches through the bytes of a text that read around each mark by positions.
Every byte and every part of the text that they ask for is there, whatever the text is.

* `readParameter?`, `readAssigned?`: how the bytes around a mark are read;
* `reads_readParameter?`, `reads_readAssigned?`: this finds what the outlines have for the place;
* `IsSpan`: a span lies in a text, between characters, and in one line;
* **`OutlinePanel.outlines_safe`**: the searches are safe and find the items of the outlines, which
  are all spans of the text.
-/

namespace RCart

namespace Outline

open Source (isNameByte isNameChar)
open Text (utf8Length toBytes bytesOf)

/-! ### Reading forwards -/

/-- Goes on from byte `i` over name bytes: where the next other byte stands, or the end. -/
def passName? (bytes : List UInt8) (i : ℕ) : Option ℕ :=
  if i < bytes.length then
    match bytes[i]? with
    | none => none
    | some b => if isNameByte b then passName? bytes (i + 1) else some i
  else some i
termination_by bytes.length - i

/-- Reads the identifier behind the mark at byte `m`. It is found if another byte closes it, and the
search goes on behind it. -/
def readParameter? : Reader := fun bytes m =>
  (passName? bytes (m + 12)).map fun stop =>
    (stop, if stop < bytes.length ∧ m + 12 < stop then some ⟨m + 12, stop - (m + 12)⟩ else none)

lemma passName?_eq (bytes : List UInt8) (i : ℕ) :
    passName? bytes i = some (i + nameLengthAt bytes i) := by
  fun_induction passName? bytes i with
  | case1 i hlt hnone => exact absurd (List.getElem?_eq_none_iff.mp hnone) (Nat.not_le.mpr hlt)
  | case2 i hlt b hb hname ih =>
      obtain ⟨_, hget⟩ := List.getElem?_eq_some_iff.mp hb
      have hnext : nameLengthAt bytes i = nameLengthAt bytes (i + 1) + 1 := by
        rw [nameLengthAt, List.drop_eq_getElem_cons hlt, hget, List.takeWhile_cons_of_pos hname]
        rfl
      rw [ih, hnext, Nat.add_right_comm, Nat.add_assoc]
  | case3 i hlt b hb hname =>
      obtain ⟨_, hget⟩ := List.getElem?_eq_some_iff.mp hb
      rw [nameLengthAt, List.drop_eq_getElem_cons hlt, hget, List.takeWhile_cons_of_neg hname]
      rfl
  | case4 i hlt =>
      rw [nameLengthAt, List.drop_of_length_le (Nat.le_of_not_lt hlt)]
      rfl

variable {code : String} {p : Place}

/-- Behind a mark, a text can be cut where any part of what follows ends. -/
lemma isValid_behind {front back : List Char} (hp : p ∈ places code)
    (hafter : p.after = front ++ back) :
    String.Pos.Raw.IsValid code ⟨p.offset + 12 + utf8Length front⟩ := by
  have hcode : code.toList = (p.before.reverse ++ (definitionMark ++ front)) ++ back := by
    rw [List.append_assoc, List.append_assoc, ← hafter, ← mem_places.mp hp]
  have hvalid := isValid_utf8Length hcode
  rw [Text.utf8Length_append, Text.utf8Length_append, utf8Length_reverse, ← Nat.add_assoc] at hvalid
  exact hvalid

/-- What is read behind a mark is the first parameter there. -/
lemma reads_readParameter? (code : String) : Reads readParameter? code Place.parameter := by
  intro p hp
  refine ⟨_, ?_, ?_, ?_, fun q hq => nameEnd_le hp hq⟩
  · rw [readParameter?, passName?_eq, Option.map_some]
    congr 2
    refine Option.ext fun item => ?_
    rw [parameter_eq_some_iff hp, Option.ite_none_right_eq_some, Option.some_inj,
      Nat.add_sub_cancel_left]
    constructor
    · rintro ⟨⟨hend, hpos⟩, rfl⟩
      exact ⟨rfl, by simp only; omega, hend⟩
    · rintro ⟨rfl, hpos, hend⟩
      simp only at hpos hend
      exact ⟨⟨hend, by omega⟩, rfl⟩
  · omega
  · rw [nameLengthAt_offset hp]
    exact isValid_behind hp List.takeWhile_append_dropWhile.symm

/-! ### Reading backwards -/

/-- Steps back from byte `i` over bytes with a property. -/
def stepBack? (q : UInt8 → Bool) (bytes : List UInt8) : ℕ → Option ℕ
  | 0 => some 0
  | i + 1 =>
    match bytes[i]? with
    | none => none
    | some b => if q b then stepBack? q bytes i else some (i + 1)

/-- Steps back from byte `i` over one byte with a property, if there is one. -/
def stepBackOnce? (q : UInt8 → Bool) (bytes : List UInt8) : ℕ → Option ℕ
  | 0 => some 0
  | i + 1 =>
    match bytes[i]? with
    | none => none
    | some b => some (if q b then i else i + 1)

/-- The bytes before byte `n`; `none` when there are not so many. -/
def bytesTo? (bytes : List UInt8) (n : ℕ) : Option (List UInt8) :=
  if n ≤ bytes.length then some (bytes.take n) else none

/-- Where the last byte with a property stands. -/
def lastIndex? (q : UInt8 → Bool) : List UInt8 → Option ℕ
  | [] => none
  | b :: bytes => ((lastIndex? q bytes).map (· + 1)).or (if q b then some 0 else none)

/-- A backtick or a line feed ends what is read between backticks. -/
def isStop (b : UInt8) : Bool :=
  b == 0x60 || b == 0x0a

/-- Reads the name that the backtick at byte `close` closes: back to the nearest backtick, unless a
line feed is nearer. -/
def quotedAt? (bytes : List UInt8) (close : ℕ) : Option (Option OutlineItem) :=
  (bytesTo? bytes close).bind fun front =>
    match lastIndex? isStop front with
    | none => some none
    | some opening =>
      match bytes[opening]? with
      | none => none
      | some b =>
        some (if b = 0x60 ∧ opening + 1 ≠ close then some ⟨opening + 1, close - opening - 1⟩
          else none)

/-- Reads the identifier that ends before byte `stop`. -/
def bareAt? (bytes : List UInt8) (stop : ℕ) : Option (Option OutlineItem) :=
  (stepBack? isNameByte bytes stop).map fun start =>
    if start < stop then some ⟨start, stop - start⟩ else none

/-- Reads the name that ends before a byte. -/
def nameAt? (bytes : List UInt8) : ℕ → Option (Option OutlineItem)
  | 0 => some none
  | i + 1 =>
    match bytes[i]? with
    | none => none
    | some b => if b = 0x60 then quotedAt? bytes i else bareAt? bytes (i + 1)

/-- Reads the name that is assigned before the mark at byte `m`, over at most one arrow head and any
blanks. Marks do not overlap, so the search goes on behind the mark. -/
def readAssigned? : Reader := fun bytes m =>
  (stepBackOnce? (· == 0x3c) bytes m).bind fun i =>
    (stepBack? (fun b => b == 0x20 || b == 0x09) bytes i).bind fun stop =>
      (nameAt? bytes stop).map fun item => (m + 12, item)

section Backwards

variable {bytes : List UInt8} {cs : List Char} {q : UInt8 → Bool} {p : Char → Bool}

/-- Stepping back over a run comes to where it starts. -/
lemma stepBack?_append {front run : List UInt8} (hrun : ∀ b ∈ run, q b = true)
    (hfront : ∀ b ∈ front.getLast?, q b = false) (tail : List UInt8) :
    stepBack? q (front ++ (run ++ tail)) (front.length + run.length) = some front.length := by
  induction run using List.reverseRecOn generalizing tail with
  | nil =>
      obtain rfl | ⟨front, b, rfl⟩ := front.eq_nil_or_concat'
      · rfl
      · have hb : q b = false := hfront b List.getLast?_concat
        have hget : (front ++ [b] ++ ([] ++ tail))[front.length]? = some b := by simp
        rw [List.length_nil, Nat.add_zero, List.length_append, List.length_singleton, stepBack?,
          hget]
        simp [hb]
  | append_singleton run b ih =>
      have hb : q b = true := hrun b (List.mem_append_right _ List.mem_cons_self)
      have hget : (front ++ (run ++ [b] ++ tail))[front.length + run.length]? = some b := by
        rw [List.getElem?_append_right (Nat.le_add_right _ _)]
        simp
      rw [List.length_append, List.length_singleton, ← Nat.add_assoc, stepBack?, hget]
      simp only [hb, if_true]
      rw [List.append_assoc run, List.singleton_append]
      exact ih (fun x hx => hrun x (List.mem_append_left _ hx)) (b :: tail)

/-- What stands before a byte, backwards, goes on when a part of it is passed. -/
lemma prefix_of_append (part : List Char) {rest : List Char}
    (h : bytesOf (part ++ rest).reverse <+: bytes) : bytesOf rest.reverse <+: bytes := by
  rw [List.reverse_append, Text.bytesOf_append] at h
  exact (List.prefix_append _ _).trans h

/-- Stepping back over bytes is reading backwards over characters. -/
lemma stepBack?_eq (hreads : Text.ReadsAs q p) (h : bytesOf cs.reverse <+: bytes) :
    stepBack? q bytes (utf8Length cs) = some (utf8Length (cs.dropWhile p)) := by
  obtain ⟨part, rest, rfl, hpart, hrest⟩ := Text.exists_append_head? p cs
  obtain ⟨tail, rfl⟩ := h
  rw [(Text.takeWhile_append_of_head? hpart hrest).2, Text.utf8Length_append, Nat.add_comm,
    List.reverse_append, Text.bytesOf_append, List.append_assoc, ← length_bytesOf_reverse part,
    ← length_bytesOf_reverse rest]
  exact stepBack?_append
    ((Text.forall_mem_bytesOf hreads).mpr fun c hc => hpart c (List.mem_reverse.mp hc))
    ((Text.forall_getLast?_bytesOf hreads).mpr hrest) tail

/-- The byte before a place is the last one of the character there. -/
lemma exists_byte_before {c : Char} (h : bytesOf (c :: cs).reverse <+: bytes) :
    ∃ b ∈ String.utf8EncodeChar c, ∃ i, utf8Length (c :: cs) = i + 1 ∧ bytes[i]? = some b := by
  obtain ⟨b, hb, hlast⟩ := Text.exists_getLast?_bytesOf cs.reverse c
  have hpos : 0 < utf8Length (c :: cs) := Nat.add_pos_left c.utf8Size_pos _
  obtain ⟨i, hi⟩ := Nat.exists_eq_succ_of_ne_zero hpos.ne'
  refine ⟨b, hb, i, hi, ?_⟩
  obtain ⟨tail, rfl⟩ := h
  have hlength : (bytesOf (c :: cs).reverse).length = i + 1 := by
    rw [length_bytesOf_reverse, hi]
  rw [List.getElem?_append_left (by omega), ← hlast, ← List.reverse_cons,
    List.getLast?_eq_getElem?, hlength]
  rfl

/-- A character below `0x80` is the byte before a place. -/
lemma getElem?_before {a : Char} (ha : a.toNat < 0x80) (h : bytesOf (a :: cs).reverse <+: bytes) :
    utf8Length (a :: cs) = utf8Length cs + 1 ∧ bytes[utf8Length cs]? = some a.toUInt8 := by
  have hsize : a.utf8Size = 1 := by
    rw [← String.length_utf8EncodeChar, Text.utf8EncodeChar_of_lt ha]
    rfl
  have hlength : utf8Length (a :: cs) = utf8Length cs + 1 := by
    rw [utf8Length, hsize, Nat.add_comm]
  obtain ⟨b, hb, i, hi, hget⟩ := exists_byte_before h
  rw [Text.utf8EncodeChar_of_lt ha] at hb
  obtain rfl : i = utf8Length cs := by omega
  exact ⟨hlength, hget.trans (congrArg some (List.mem_singleton.mp hb))⟩

/-- Over an arrow head there is one step back. -/
lemma stepBackOnce?_arrow (h : bytesOf ('<' :: cs).reverse <+: bytes) :
    stepBackOnce? (· == 0x3c) bytes (utf8Length ('<' :: cs)) = some (utf8Length cs) := by
  obtain ⟨hlength, hget⟩ := getElem?_before (by decide) h
  rw [hlength, stepBackOnce?, hget]
  rfl

/-- Over anything else there is none. -/
lemma stepBackOnce?_of_ne (h : bytesOf cs.reverse <+: bytes) (hne : ∀ rest, cs ≠ '<' :: rest) :
    stepBackOnce? (· == 0x3c) bytes (utf8Length cs) = some (utf8Length cs) := by
  cases cs with
  | nil => rfl
  | cons c rest =>
      obtain ⟨b, hb, i, hi, hget⟩ := exists_byte_before h
      have hc : (c == '<') = false := beq_false_of_ne fun heq => hne rest (by rw [heq])
      have hother : (b == 0x3c) = false :=
        (Text.readsAs_beq (a := '<') (by decide) c b hb).trans hc
      rw [hi, stepBackOnce?, hget]
      simp only [hother, Bool.false_eq_true, if_false]

/-- The bytes before a place are there. -/
lemma bytesTo?_eq (h : bytesOf cs.reverse <+: bytes) :
    bytesTo? bytes (utf8Length cs) = some (bytesOf cs.reverse) := by
  obtain ⟨tail, rfl⟩ := h
  rw [bytesTo?, ← length_bytesOf_reverse, List.take_left, if_pos (by simp)]

lemma lastIndex?_eq_none {bytes : List UInt8} (h : ∀ b ∈ bytes, q b = false) :
    lastIndex? q bytes = none := by
  induction bytes with
  | nil => rfl
  | cons b bytes ih =>
      obtain ⟨hb, hbytes⟩ := List.forall_mem_cons.mp h
      rw [lastIndex?, ih hbytes, hb]
      rfl

lemma lastIndex?_append {front run : List UInt8} {b : UInt8} (hb : q b = true)
    (hrun : ∀ x ∈ run, q x = false) : lastIndex? q (front ++ b :: run) = some front.length := by
  induction front with
  | nil =>
      rw [List.nil_append, lastIndex?, lastIndex?_eq_none hrun, if_pos hb]
      rfl
  | cons x front ih =>
      rw [List.cons_append, lastIndex?, ih]
      rfl

lemma isStop_eq_false {name : List Char} (hname : ∀ c ∈ name, isPlain c = true) :
    ∀ b ∈ bytesOf name.reverse, isStop b = false := by
  intro b hb
  have hplain : ∀ c ∈ name.reverse, isPlain c = true := fun c hc => hname c (List.mem_reverse.mp hc)
  obtain ⟨hquote, hline⟩ := forall_mem_bytesOf_isPlain.mpr hplain b hb
  rw [isStop, beq_false_of_ne hquote, beq_false_of_ne hline]
  rfl

/-- What may not stand between backticks is one byte, at which reading stops. -/
lemma isStop_of_isPlain {c : Char} (h : isPlain c = false) :
    (c = '`' ∨ c = '\n') ∧ c.toNat < 0x80 ∧ isStop c.toUInt8 = true := by
  rw [isPlain, Bool.and_eq_false_iff, bne_eq_false_iff_eq, bne_eq_false_iff_eq] at h
  obtain rfl | rfl := h
  · exact ⟨.inl rfl, by decide, rfl⟩
  · exact ⟨.inr rfl, by decide, rfl⟩

/-- The last stop before a name is the character before it. -/
lemma lastIndex?_isStop {name more : List Char} {c : Char} (hname : ∀ c ∈ name, isPlain c = true)
    (hc : isPlain c = false) :
    lastIndex? isStop (bytesOf (name ++ c :: more).reverse) = some (utf8Length more) := by
  obtain ⟨-, hlow, hstop⟩ := isStop_of_isPlain hc
  have hsplit : bytesOf (name ++ c :: more).reverse
      = bytesOf more.reverse ++ c.toUInt8 :: bytesOf name.reverse := by
    rw [List.reverse_append, List.reverse_cons, Text.bytesOf_append, Text.bytesOf_append,
      Text.bytesOf_cons, Text.utf8EncodeChar_of_lt hlow, List.append_assoc]
    rfl
  rw [hsplit, ← length_bytesOf_reverse]
  exact lastIndex?_append hstop (isStop_eq_false hname)

/-- What is read before a backtick is the name that it closes. -/
lemma quotedAt?_eq (h : bytesOf cs.reverse <+: bytes) :
    quotedAt? bytes (utf8Length cs) = some (nameBefore ('`' :: cs)) := by
  obtain ⟨name, rest, rfl, hname, hrest⟩ := Text.exists_append_head? isPlain cs
  obtain ⟨htake, hdrop⟩ := Text.takeWhile_append_of_head? hname hrest
  rw [quotedAt?, bytesTo?_eq h, Option.bind_some, nameBefore_backtick, htake, hdrop]
  cases rest with
  | nil =>
      rw [List.append_nil, lastIndex?_eq_none (isStop_eq_false hname)]
  | cons c more =>
      have hc := hrest c rfl
      obtain ⟨hstop, hlow, -⟩ := isStop_of_isPlain hc
      obtain ⟨hlength, hget⟩ := getElem?_before hlow (prefix_of_append name h)
      rw [lastIndex?_isStop hname hc, Text.utf8Length_append, hlength]
      simp only [hget]
      obtain rfl | rfl := hstop
      · change _ = some (if name.isEmpty = true then none
          else some (OutlineItem.mk (utf8Length more + 1) (utf8Length name)))
        have hsize : utf8Length name + (utf8Length more + 1) - utf8Length more - 1
            = utf8Length name := by omega
        rw [hsize]
        by_cases hnil : utf8Length name = 0
        · rw [if_pos (isEmpty_iff_utf8Length.mpr hnil), if_neg]
          rintro ⟨-, hne⟩
          exact hne (by omega)
        · rw [if_neg (mt isEmpty_iff_utf8Length.mp hnil), if_pos ⟨rfl, by omega⟩]
      · rfl

/-- What is read before anything else is the identifier that ends there. -/
lemma bareAt?_eq (h : bytesOf cs.reverse <+: bytes) (hquote : ∀ rest, cs ≠ '`' :: rest) :
    bareAt? bytes (utf8Length cs) = some (nameBefore cs) := by
  set name := cs.takeWhile isNameChar
  set rest := cs.dropWhile isNameChar
  have hlength : utf8Length cs = utf8Length name + utf8Length rest := by
    rw [← Text.utf8Length_append, List.takeWhile_append_dropWhile]
  have hsize : utf8Length cs - utf8Length rest = utf8Length name := by omega
  rw [bareAt?, stepBack?_eq readsAs_isNameByte h, Option.map_some, nameBefore.eq_2 _ hquote]
  change some (if utf8Length rest < utf8Length cs
      then some (OutlineItem.mk (utf8Length rest) (utf8Length cs - utf8Length rest)) else none)
    = some (if name.isEmpty = true then none else some ⟨utf8Length rest, utf8Length name⟩)
  rw [hsize]
  by_cases hnil : utf8Length name = 0
  · rw [if_pos (isEmpty_iff_utf8Length.mpr hnil), if_neg (by omega)]
  · rw [if_neg (mt isEmpty_iff_utf8Length.mp hnil), if_pos (by omega)]

/-- What is read before a byte is the name that ends there. -/
lemma nameAt?_eq (h : bytesOf cs.reverse <+: bytes) :
    nameAt? bytes (utf8Length cs) = some (nameBefore cs) := by
  cases cs with
  | nil => rfl
  | cons c rest =>
      by_cases hc : c = '`'
      · subst hc
        obtain ⟨hlength, hget⟩ := getElem?_before (by decide) h
        rw [hlength, nameAt?, hget]
        exact quotedAt?_eq (prefix_of_append ['`'] h)
      · obtain ⟨b, hb, i, hi, hget⟩ := exists_byte_before h
        have hother : (b == 0x60) = false :=
          (Text.readsAs_beq (a := '`') (by decide) c b hb).trans (beq_false_of_ne hc)
        have hquote : ∀ more, c :: rest ≠ '`' :: more := fun more heq => hc (List.cons.inj heq).1
        rw [← bareAt?_eq h hquote, hi, nameAt?, hget]
        simp only [beq_eq_false_iff_ne.mp hother, if_false]

/-- What is read before a mark is the name that is assigned there. -/
lemma readAssigned?_eq (h : bytesOf cs.reverse <+: bytes) :
    readAssigned? bytes (utf8Length cs) = some (utf8Length cs + 12, assignedBefore cs) := by
  have hblanks {front : List Char} (hfront : bytesOf front.reverse <+: bytes) :
      ((stepBack? (fun b => b == 0x20 || b == 0x09) bytes (utf8Length front)).bind fun stop =>
        (nameAt? bytes stop).map fun item => (utf8Length cs + 12, item))
        = some (utf8Length cs + 12, nameBefore (front.dropWhile isBlank)) := by
    rw [stepBack?_eq readsAs_isBlank hfront, Option.bind_some, nameAt?_eq, Option.map_some]
    refine prefix_of_append (front.takeWhile isBlank) ?_
    rwa [List.takeWhile_append_dropWhile]
  by_cases harrow : ∃ rest, cs = '<' :: rest
  · obtain ⟨rest, rfl⟩ := harrow
    rw [readAssigned?, stepBackOnce?_arrow h, Option.bind_some]
    exact hblanks (prefix_of_append ['<'] h)
  · have hne := not_exists.mp harrow
    rw [readAssigned?, stepBackOnce?_of_ne h hne, Option.bind_some, assignedBefore.eq_2 _ hne]
    exact hblanks h

end Backwards

/-- What is read before a mark is the name that is assigned there, and no other mark stands in
one. -/
lemma reads_readAssigned? (code : String) :
    Reads readAssigned? code fun p => assignedBefore p.before := by
  intro p hp
  have hprefix : bytesOf p.before.reverse <+: toBytes code := by
    rw [bytes_of_mem_places hp]
    exact List.prefix_append _ _
  exact ⟨p.offset + 12, readAssigned?_eq hprefix, Nat.lt_add_of_pos_right (by decide),
    isValid_behind hp (List.nil_append _).symm, fun q hq => offset_add_le hp hq⟩

/-! ### Spans -/

/-- A span lies in a text, between characters and in one line, and is not empty; its text has just
the bytes of the span. -/
structure IsSpan (code : String) (item : OutlineItem) : Prop where
  size_pos : 0 < item.size
  end_le : item.pos + item.size ≤ (toBytes code).length
  isValid_pos : String.Pos.Raw.IsValid code ⟨item.pos⟩
  isValid_end : String.Pos.Raw.IsValid code ⟨item.pos + item.size⟩
  line_notMem : '\n' ∉ (item.text code).toList
  text_ne : item.text code ≠ ""
  toBytes_text : toBytes (item.text code) = ((toBytes code).drop item.pos).take item.size

lemma Covers.isSpan {item : OutlineItem} {word : List Char} (h : Covers code.toList item word)
    (hne : word ≠ []) (hplain : ∀ c ∈ word, isPlain c = true) : IsSpan code item where
  size_pos := h.size_pos hne
  end_le := h.end_le
  isValid_pos := h.isValid_pos
  isValid_end := h.isValid_end
  line_notMem := by
    rw [h.text_eq, String.toList_ofList]
    exact fun hline => absurd (hplain _ hline) (by decide)
  text_ne := by
    rw [h.text_eq, ← String.toList_eq_nil_iff.ne, String.toList_ofList]
    exact hne
  toBytes_text := h.toBytes_text

end Outline

/-- **Outlines are safe**, whatever the text is and whatever the panel has shown before.

Each outline is found by a search through the bytes of the text that asks only for bytes and parts
of the text that are there, gets on with each turn, never beyond the end or into a character, and
comes to its end. All items are spans of the text, between characters and in one line, and their
texts are just the bytes there. -/
theorem OutlinePanel.outlines_safe (panel : OutlinePanel) (code : String) :
    Outline.IsSafe Outline.readParameter? code (panel.showParameters code).items
      ∧ Outline.IsSafe Outline.readAssigned? code (panel.showAssigned code).items
      ∧ (∀ item ∈ (panel.showParameters code).items, Outline.IsSpan code item)
      ∧ ∀ item ∈ (panel.showAssigned code).items, Outline.IsSpan code item := by
  rw [panel.items_showParameters, panel.items_showAssigned]
  refine ⟨?_, ?_, fun item hitem => ?_, fun item hitem => ?_⟩
  · rw [Outline.parameters_eq]
    exact (Outline.reads_readParameter? code).isSafe
  · rw [Outline.assigned, Outline.assignedFrom_eq]
    exact (Outline.reads_readAssigned? code).isSafe
  · obtain ⟨word, hne, hplain, hcovers⟩ := Outline.exists_covers_of_mem_parameters hitem
    exact hcovers.isSpan hne hplain
  · obtain ⟨word, hne, hplain, hcovers⟩ := Outline.exists_covers_of_mem_assigned hitem
    exact hcovers.isSpan hne hplain

end RCart
