import Mathlib.Data.List.TakeWhile
import RCart.Proofs.Outline.Mark

/-!
The outline of assigned names.

* `EndsInName`, `AssignedAt`: the grammar of an assigned name, in bytes;
* `NameBefore`, `assignedBefore_eq_some_iff`: the same in characters, which is what the outline
  decides, reading backwards from a mark;
* `NameBefore.endsInName`, `EndsInName.nameBefore`, `assignedBefore_iff_assignedAt`: the two agree;
* `AssignedAt.end_le`, `AssignedAt.le_end`: an assigned name ends before its mark, and after any
  earlier one;
* **`OutlinePanel.showAssigned_exact`**: there is one item for each mark before which a name is
  assigned, and no other.
-/

namespace RCart

namespace Outline

open Source (isNameByte isNameChar)
open Text (utf8Length toBytes bytesOf)

/-! ### The grammar -/

/-- Some bytes end in a name. The item is the name: a run of name bytes, no name byte before it, or
what stands between two backticks and holds neither a backtick nor a line feed. -/
inductive EndsInName : List UInt8 → OutlineItem → Prop
  /-- A name as it is. -/
  | bare {before name : List UInt8} (hne : name ≠ [])
    (hname : ∀ b ∈ name, isNameByte b = true)
    (hmaximal : ∀ b ∈ before.getLast?, isNameByte b = false) :
    EndsInName (before ++ name) ⟨before.length, name.length⟩
  /-- A name between backticks. -/
  | quoted {before name : List UInt8} (hne : name ≠ [])
    (hname : ∀ b ∈ name, b ≠ 0x60 ∧ b ≠ 0x0a) :
    EndsInName (before ++ 0x60 :: (name ++ [0x60])) ⟨before.length + 1, name.length⟩

/-- The bytes before byte `m` end in a name, spaces and tabs, and at most one arrow head. -/
def AssignedAt (bytes : List UInt8) (m : ℕ) (item : OutlineItem) : Prop :=
  ∃ start blanks arrow, bytes.take m = start ++ (blanks ++ arrow) ∧ EndsInName start item
    ∧ (∀ b ∈ blanks, b = 0x20 ∨ b = 0x09) ∧ (arrow = [] ∨ arrow = [0x3c])

/-! ### Where assigned names end -/

/-- A name ends some bytes but for a backtick that closes it. -/
lemma EndsInName.closing {start : List UInt8} {item : OutlineItem} (h : EndsInName start item) :
    item.pos + item.size ≤ start.length
      ∧ ∀ b ∈ start.drop (item.pos + item.size), b = 0x60 := by
  cases h with
  | @bare before name hne hname hmaximal =>
      simp only [← List.length_append, List.drop_length]
      exact ⟨Nat.le_refl _, nofun⟩
  | @quoted before name hne hname =>
      have hsplit : before ++ 0x60 :: (name ++ [0x60]) = (before ++ 0x60 :: name) ++ [0x60] := by
        rw [List.append_assoc, List.cons_append]
      have hlength : (before ++ 0x60 :: name).length = before.length + 1 + name.length := by
        rw [List.length_append, List.length_cons]
        omega
      simp only [hsplit, ← hlength, List.drop_left]
      exact ⟨(List.prefix_append _ _).length_le, by simp⟩

variable {bytes : List UInt8} {m k : ℕ} {item : OutlineItem}

/-- An assigned name ends before its mark. -/
lemma AssignedAt.end_le (h : AssignedAt bytes m item) : item.pos + item.size ≤ m := by
  obtain ⟨start, blanks, arrow, htake, hname, -⟩ := h
  have hlength : start.length ≤ m := by
    calc start.length ≤ (start ++ (blanks ++ arrow)).length := by
          rw [List.length_append]
          omega
      _ ≤ m := htake ▸ List.length_take_le m bytes
  exact hname.closing.1.trans hlength

/-- It ends after every mark before that: nothing that may follow a name is an opening bracket. -/
lemma AssignedAt.le_end (h : AssignedAt bytes m item) (hk : MarkAt bytes k) (hle : k + 12 ≤ m) :
    k + 12 ≤ item.pos + item.size := by
  obtain ⟨start, blanks, arrow, htake, hname, hblanks, harrow⟩ := h
  obtain ⟨hend, hclosing⟩ := hname.closing
  by_contra hearly
  set stop := item.pos + item.size
  obtain ⟨i, hi⟩ := Nat.exists_eq_add_of_le (show stop ≤ k + 11 by omega)
  have hbracket : ((bytes.take m).drop stop)[i]? = some 40 := by
    rw [List.getElem?_drop, ← hi, List.getElem?_take_of_lt (by omega), hk.getElem? (by decide),
      markBytes_eq]
    rfl
  have hmem := List.mem_of_getElem? hbracket
  rw [htake, List.drop_append_of_le_length hend, List.mem_append, List.mem_append] at hmem
  obtain hmem | hmem | hmem := hmem
  · exact absurd (hclosing _ hmem) (by decide)
  · exact absurd (hblanks _ hmem) (by decide)
  · obtain rfl | rfl := harrow
    · cases hmem
    · exact absurd (List.mem_singleton.mp hmem) (by decide)

/-! ### Reading backwards -/

/-- What may stand between backticks. -/
def isPlain (c : Char) : Bool :=
  c != '`' && c != '\n'

lemma isPlain_iff {c : Char} : isPlain c = true ↔ c ≠ '`' ∧ c ≠ '\n' := by
  rw [isPlain, Bool.and_eq_true, bne_iff_ne, bne_iff_ne]

/-- A text that is read backwards starts with a name. -/
inductive NameBefore : List Char → OutlineItem → Prop
  /-- A name as it is. -/
  | bare {name before : List Char} (hne : name ≠ []) (hname : ∀ c ∈ name, isNameChar c = true)
    (hmaximal : ∀ c ∈ before.head?, isNameChar c = false) :
    NameBefore (name ++ before) ⟨utf8Length before, utf8Length name⟩
  /-- A name between backticks. -/
  | quoted {name before : List Char} (hne : name ≠ []) (hname : ∀ c ∈ name, isPlain c = true) :
    NameBefore ('`' :: (name ++ '`' :: before)) ⟨utf8Length before + 1, utf8Length name⟩

lemma nameBefore_backtick (cs : List Char) :
    nameBefore ('`' :: cs) = match cs.dropWhile isPlain with
      | '`' :: rest =>
        if (cs.takeWhile isPlain).isEmpty then none
        else some ⟨utf8Length rest + 1, utf8Length (cs.takeWhile isPlain)⟩
      | _ => none :=
  rfl

/-- Behind a backtick the outline looks for the one that opens. -/
lemma nameBefore_quoted {name rest : List Char} (hname : ∀ c ∈ name, isPlain c = true)
    (hrest : ∀ c ∈ rest.head?, isPlain c = false) :
    nameBefore ('`' :: (name ++ rest)) = some item
      ↔ name ≠ [] ∧ ∃ before, rest = '`' :: before
        ∧ item = ⟨utf8Length before + 1, utf8Length name⟩ := by
  obtain ⟨htake, hdrop⟩ := Text.takeWhile_append_of_head? hname hrest
  rw [nameBefore_backtick, htake, hdrop]
  split
  · rw [Option.ite_none_left_eq_some, List.isEmpty_iff, Option.some_inj]
    constructor
    · rintro ⟨hne, rfl⟩
      exact ⟨hne, _, rfl, rfl⟩
    · rintro ⟨hne, before, hbefore, rfl⟩
      cases hbefore
      exact ⟨hne, rfl⟩
  · next hnone =>
    refine iff_of_false (by simp) ?_
    rintro ⟨-, before, rfl, -⟩
    exact hnone before rfl

/-- Otherwise it takes the name characters that there are. -/
lemma nameBefore_bare {name before : List Char} (hname : ∀ c ∈ name, isNameChar c = true)
    (hmaximal : ∀ c ∈ before.head?, isNameChar c = false)
    (hquote : ∀ rest, name ++ before ≠ '`' :: rest) :
    nameBefore (name ++ before) = some item
      ↔ name ≠ [] ∧ item = ⟨utf8Length before, utf8Length name⟩ := by
  obtain ⟨htake, hdrop⟩ := Text.takeWhile_append_of_head? hname hmaximal
  rw [nameBefore.eq_2 _ hquote, htake, hdrop, Option.ite_none_left_eq_some, List.isEmpty_iff,
    Option.some_inj, eq_comm (a := item)]

/-- The outline finds the name that there is. -/
lemma nameBefore_eq_some_iff {before : List Char} :
    nameBefore before = some item ↔ NameBefore before item := by
  constructor
  · intro h
    by_cases hquote : ∃ cs, before = '`' :: cs
    · obtain ⟨cs, rfl⟩ := hquote
      obtain ⟨name, rest, rfl, hname, hrest⟩ := Text.exists_append_head? isPlain cs
      obtain ⟨hne, before, rfl, rfl⟩ := (nameBefore_quoted hname hrest).mp h
      exact .quoted hne hname
    · obtain ⟨name, rest, rfl, hname, hrest⟩ := Text.exists_append_head? isNameChar before
      obtain ⟨hne, rfl⟩ := (nameBefore_bare hname hrest (not_exists.mp hquote)).mp h
      exact .bare hne hname hrest
  · intro h
    cases h with
    | @bare name before hne hname hmaximal =>
        refine (nameBefore_bare hname hmaximal fun rest hcs => ?_).mpr ⟨hne, rfl⟩
        obtain ⟨c, name, rfl⟩ := List.exists_cons_of_ne_nil hne
        obtain ⟨rfl, -⟩ := List.cons.inj hcs
        exact absurd (hname _ List.mem_cons_self) (by decide)
    | @quoted name before hne hname =>
        have hopen : ∀ c ∈ ('`' :: before).head?, isPlain c = false := by
          rintro _ ⟨⟩
          decide
        exact (nameBefore_quoted hname hopen).mpr ⟨hne, before, rfl, rfl⟩

/-- A name starts, backwards, with a backtick or a name character. -/
lemma NameBefore.head? {before : List Char} (h : NameBefore before item) :
    ∀ c ∈ before.head?, isBlank c = false ∧ c ≠ '<' := by
  cases h with
  | @bare name before hne hname hmaximal =>
      obtain ⟨c, name, rfl⟩ := List.exists_cons_of_ne_nil hne
      rintro _ ⟨⟩
      have hc : isNameChar c = true := hname c List.mem_cons_self
      constructor
      · by_contra hblank
        rw [Bool.not_eq_false, isBlank, Bool.or_eq_true, beq_iff_eq, beq_iff_eq] at hblank
        obtain rfl | rfl := hblank <;> exact absurd hc (by decide)
      · rintro rfl
        exact absurd hc (by decide)
  | quoted hne hname =>
      rintro _ ⟨⟩
      decide

/-- The outline steps over an arrow head and over blanks. -/
lemma assignedBefore_append {arrow blanks start : List Char} (harrow : arrow = [] ∨ arrow = ['<'])
    (hblanks : ∀ c ∈ blanks, isBlank c = true) (hstart : ∀ c ∈ start.head?, isBlank c = false)
    (hnone : arrow = [] → ∀ cs, blanks ++ start ≠ '<' :: cs) :
    assignedBefore (arrow ++ (blanks ++ start)) = nameBefore start := by
  have hdrop := (Text.takeWhile_append_of_head? hblanks hstart).2
  obtain rfl | rfl := harrow
  · rw [List.nil_append, assignedBefore.eq_2 _ (hnone rfl), hdrop]
  · change nameBefore ((blanks ++ start).dropWhile isBlank) = nameBefore start
    rw [hdrop]

/-- The outline finds the assigned name that there is. -/
lemma assignedBefore_eq_some_iff {before : List Char} :
    assignedBefore before = some item
      ↔ ∃ arrow blanks start, before = arrow ++ (blanks ++ start)
        ∧ (arrow = [] ∨ arrow = ['<']) ∧ (∀ c ∈ blanks, isBlank c = true)
        ∧ NameBefore start item := by
  constructor
  · intro h
    obtain ⟨arrow, cs, rfl, harrow, hnone⟩ : ∃ arrow cs, before = arrow ++ cs
        ∧ (arrow = [] ∨ arrow = ['<']) ∧ (arrow = [] → ∀ rest, cs ≠ '<' :: rest) := by
      by_cases hhead : ∃ cs, before = '<' :: cs
      · obtain ⟨cs, rfl⟩ := hhead
        exact ⟨['<'], cs, rfl, .inr rfl, nofun⟩
      · exact ⟨[], before, rfl, .inl rfl, fun _ => not_exists.mp hhead⟩
    obtain ⟨blanks, start, rfl, hblanks, hstart⟩ := Text.exists_append_head? isBlank cs
    rw [assignedBefore_append harrow hblanks hstart hnone, nameBefore_eq_some_iff] at h
    exact ⟨arrow, blanks, start, rfl, harrow, hblanks, h⟩
  · rintro ⟨arrow, blanks, start, rfl, harrow, hblanks, hname⟩
    refine (assignedBefore_append harrow hblanks (fun c hc => (hname.head? c hc).1) ?_).trans
      (nameBefore_eq_some_iff.mpr hname)
    intro _ cs hcs
    cases blanks with
    | nil => exact (hname.head? '<' (by rw [← List.nil_append start, hcs]; rfl)).2 rfl
    | cons c blanks =>
        obtain ⟨rfl, -⟩ := List.cons.inj hcs
        exact absurd (hblanks _ List.mem_cons_self) (by decide)

/-! ### Bytes -/

lemma readsAs_isBlank : Text.ReadsAs (fun b => b == 0x20 || b == 0x09) isBlank :=
  (Text.readsAs_beq (a := ' ') (by decide)).or (Text.readsAs_beq (a := '\t') (by decide))

lemma readsAs_isPlain : Text.ReadsAs (fun b => b != 0x60 && b != 0x0a) isPlain :=
  (Text.readsAs_beq (a := '`') (by decide)).not.and (Text.readsAs_beq (a := '\n') (by decide)).not

/-- Blanks are spaces and tabs. -/
lemma forall_mem_bytesOf_isBlank {cs : List Char} :
    (∀ b ∈ bytesOf cs, b = 0x20 ∨ b = 0x09) ↔ ∀ c ∈ cs, isBlank c = true := by
  rw [← Text.forall_mem_bytesOf readsAs_isBlank]
  simp only [Bool.or_eq_true, beq_iff_eq]

/-- What may stand between backticks has neither a backtick nor a line feed. -/
lemma forall_mem_bytesOf_isPlain {cs : List Char} :
    (∀ b ∈ bytesOf cs, b ≠ 0x60 ∧ b ≠ 0x0a) ↔ ∀ c ∈ cs, isPlain c = true := by
  rw [← Text.forall_mem_bytesOf readsAs_isPlain]
  simp only [Bool.and_eq_true, bne_iff_ne]

/-- A name that is read backwards ends the bytes. -/
lemma NameBefore.endsInName {before : List Char} (h : NameBefore before item) :
    EndsInName (bytesOf before.reverse) item := by
  cases h with
  | @bare name before hne hname hmaximal =>
      rw [List.reverse_append, Text.bytesOf_append, ← length_bytesOf_reverse before,
        ← length_bytesOf_reverse name]
      exact .bare (by simpa using hne)
        ((Text.forall_mem_bytesOf readsAs_isNameByte).mpr (by simpa using hname))
        ((Text.forall_getLast?_bytesOf readsAs_isNameByte).mpr hmaximal)
  | @quoted name before hne hname =>
      have hbytes : bytesOf ('`' :: (name ++ '`' :: before)).reverse
          = bytesOf before.reverse ++ 0x60 :: (bytesOf name.reverse ++ [0x60]) := by
        simp only [List.reverse_cons, List.reverse_append, List.append_assoc, Text.bytesOf_append]
        rfl
      rw [hbytes, ← length_bytesOf_reverse before, ← length_bytesOf_reverse name]
      exact .quoted (by simpa using hne) (forall_mem_bytesOf_isPlain.mpr (by simpa using hname))

/-- A name that ends the bytes is read backwards: its first and last bytes are characters. -/
lemma EndsInName.nameBefore {before : List Char} (h : EndsInName (bytesOf before.reverse) item) :
    NameBefore before item := by
  generalize hbytes : bytesOf before.reverse = bytes at h
  cases h with
  | @bare front name hne hname hmaximal =>
      have hlow : ∀ b ∈ name, b.toNat < 0x80 := by
        intro b hb
        by_contra hle
        exact absurd (hname b hb) (by rw [isNameByte_of_le (Nat.le_of_not_lt hle)]; decide)
      obtain ⟨word, hword, rfl⟩ := Text.exists_bytesOf_eq hlow
      obtain ⟨cs, hcs, rfl⟩ := Text.exists_of_bytesOf_eq_append hword hbytes
      obtain ⟨word, rfl⟩ := List.reverse_surjective word
      obtain ⟨back, rfl⟩ := List.reverse_surjective cs
      obtain rfl : before = word ++ back :=
        List.reverse_injective (by rw [hcs, List.reverse_append])
      rw [length_bytesOf_reverse, length_bytesOf_reverse]
      exact .bare (by simpa using hne)
        (by simpa using (Text.forall_mem_bytesOf readsAs_isNameByte).mp hname)
        ((Text.forall_getLast?_bytesOf readsAs_isNameByte).mp hmaximal)
  | @quoted front name hne hname =>
      -- first the backtick that closes, then the one that opens
      have hclose : bytesOf before.reverse = (front ++ 0x60 :: name) ++ bytesOf ['`'] := by
        rw [hbytes, List.append_assoc]
        rfl
      obtain ⟨rest, hrest, hopen⟩ := Text.exists_of_bytesOf_eq_append (by simp) hclose
      obtain ⟨cs, word, rfl, rfl, rfl⟩ :=
        Text.exists_of_bytesOf_eq_cons (a := '`') (by decide) hopen
      obtain ⟨word, rfl⟩ := List.reverse_surjective word
      obtain ⟨back, rfl⟩ := List.reverse_surjective cs
      obtain rfl : before = '`' :: (word ++ '`' :: back) :=
        List.reverse_injective (by rw [hrest]; simp)
      rw [length_bytesOf_reverse, length_bytesOf_reverse]
      exact .quoted (by simpa using hne) (by simpa using forall_mem_bytesOf_isPlain.mp hname)

/-- Blanks and an arrow head in the bytes are some in the text. -/
lemma exists_of_bytesOf_eq_blanks {before : List Char} {start blanks arrow : List UInt8}
    (h : bytesOf before.reverse = start ++ (blanks ++ arrow))
    (hblanks : ∀ b ∈ blanks, b = 0x20 ∨ b = 0x09) (harrow : arrow = [] ∨ arrow = [0x3c]) :
    ∃ head word back, before = head ++ (word ++ back) ∧ (head = [] ∨ head = ['<'])
      ∧ (∀ c ∈ word, isBlank c = true) ∧ bytesOf back.reverse = start := by
  obtain ⟨head, rfl, hhead⟩ : ∃ head, bytesOf head = arrow ∧ (head = [] ∨ head = ['<']) := by
    obtain rfl | rfl := harrow
    · exact ⟨[], rfl, .inl rfl⟩
    · exact ⟨['<'], rfl, .inr rfl⟩
  have hlow : ∀ b ∈ blanks, b.toNat < 0x80 := by
    intro b hb
    obtain rfl | rfl := hblanks b hb <;> decide
  obtain ⟨word, hword, rfl⟩ := Text.exists_bytesOf_eq hlow
  obtain ⟨word, rfl⟩ := List.reverse_surjective word
  have hlast : ∀ c ∈ word.reverse ++ head, c.toNat < 0x80 := by
    intro c hc
    obtain hc | hc := List.mem_append.mp hc
    · exact hword c hc
    · obtain rfl | rfl := hhead
      · cases hc
      · exact List.mem_singleton.mp hc ▸ by decide
  rw [← Text.bytesOf_append] at h
  obtain ⟨cs, hcs, rfl⟩ := Text.exists_of_bytesOf_eq_append hlast h
  obtain ⟨back, rfl⟩ := List.reverse_surjective cs
  refine ⟨head, word, back, ?_, hhead, by simpa using forall_mem_bytesOf_isBlank.mp hblanks, rfl⟩
  have hreverse : head.reverse = head := by
    obtain rfl | rfl := hhead <;> rfl
  exact List.reverse_injective (by rw [hcs, List.reverse_append, List.reverse_append, hreverse,
    List.append_assoc])

/-- An assigned name at a place is one in the bytes before its mark. -/
lemma assignedBefore_iff_assignedAt {code : String} {p : Place} (hp : p ∈ places code) :
    assignedBefore p.before = some item ↔ AssignedAt (toBytes code) p.offset item := by
  rw [assignedBefore_eq_some_iff, AssignedAt, take_offset hp]
  constructor
  · rintro ⟨arrow, blanks, start, hbefore, harrow, hblanks, hname⟩
    refine ⟨bytesOf start.reverse, bytesOf blanks.reverse, bytesOf arrow.reverse, ?_,
      hname.endsInName, forall_mem_bytesOf_isBlank.mpr (by simpa using hblanks), ?_⟩
    · simp only [hbefore, List.reverse_append, Text.bytesOf_append, List.append_assoc]
    · obtain rfl | rfl := harrow
      · exact .inl rfl
      · exact .inr rfl
  · rintro ⟨start, blanks, arrow, hbytes, hname, hblanks, harrow⟩
    obtain ⟨head, word, back, hbefore, hhead, hword, rfl⟩ :=
      exists_of_bytesOf_eq_blanks hbytes hblanks harrow
    exact ⟨head, word, back, hbefore, hhead, hword, hname.nameBefore⟩

/-! ### Each place once -/

/-- The assigned names of a text, each with the byte at which its mark stands. -/
def found (code : String) : List (ℕ × OutlineItem) :=
  (places code).filterMap fun p => (assignedBefore p.before).map (p.offset, ·)

lemma assignedFrom_eq (before cs : List Char) :
    assignedFrom before cs
      = (placesFrom before cs).filterMap fun p => assignedBefore p.before := by
  induction cs generalizing before with
  | nil => rfl
  | cons c cs ih => rw [assignedFrom, filterMap_placesFrom_cons, ih]

/-- The outline looks at each place of a text once, in order. -/
lemma assigned_eq (code : String) : assigned code = (found code).map Prod.snd := by
  rw [assigned, assignedFrom_eq, found, List.map_filterMap, places]
  congr 1
  funext p
  rw [Option.map_map]
  exact Option.map_id'.symm

lemma mem_found {code : String} :
    (m, item) ∈ found code ↔ MarkAt (toBytes code) m ∧ AssignedAt (toBytes code) m item := by
  rw [found, List.mem_filterMap]
  constructor
  · rintro ⟨p, hp, hitem⟩
    obtain ⟨_, hitem, ⟨⟩⟩ := Option.map_eq_some_iff.mp hitem
    exact ⟨markAt_offset hp, (assignedBefore_iff_assignedAt hp).mp hitem⟩
  · rintro ⟨hmark, hitem⟩
    obtain ⟨p, hp, rfl⟩ := markAt_iff.mp hmark
    exact ⟨p, hp, Option.map_eq_some_iff.mpr
      ⟨item, (assignedBefore_iff_assignedAt hp).mpr hitem, rfl⟩⟩

/-- The marks come in order, each behind the name assigned at the one before. -/
lemma pairwise_found (code : String) :
    (found code).Pairwise fun p q => p.1 < q.1 ∧ p.2.pos + p.2.size < q.2.pos + q.2.size := by
  have hmarks : (found code).Pairwise fun p q => p.1 < q.1 := by
    rw [found, List.pairwise_filterMap]
    refine (pairwise_places code).imp fun hlt a ha b hb => ?_
    obtain ⟨_, -, rfl⟩ := Option.map_eq_some_iff.mp ha
    obtain ⟨_, -, rfl⟩ := Option.map_eq_some_iff.mp hb
    exact hlt
  refine hmarks.imp_of_mem fun hp hq hlt => ⟨hlt, ?_⟩
  obtain ⟨hmark, hassigned⟩ := mem_found.mp hp
  obtain ⟨hmark', hassigned'⟩ := mem_found.mp hq
  have hend := hassigned.end_le
  have hbetween := hassigned'.le_end hmark (hmark.add_length_le hmark' hlt)
  omega

end Outline

/-- **The outline of assigned names is exact**, whatever a panel has shown before.

Its items are found at the marks of the text, in their order and at most one at each: there is one
at byte `m` just if a mark stands there and a name is assigned before it, and the item is that name.
Each item ends before its mark, and behind the one before. -/
theorem OutlinePanel.showAssigned_exact (panel : OutlinePanel) (code : String) :
    let bytes := Text.toBytes code
    ∃ found : List (ℕ × OutlineItem), (panel.showAssigned code).items = found.map Prod.snd
      ∧ (∀ m item, (m, item) ∈ found ↔ Outline.MarkAt bytes m ∧ Outline.AssignedAt bytes m item)
      ∧ found.Pairwise (fun p q => p.1 < q.1 ∧ p.2.pos + p.2.size < q.2.pos + q.2.size)
      ∧ ∀ p ∈ found, p.2.pos + p.2.size ≤ p.1 :=
  ⟨Outline.found code, (panel.items_showAssigned code).trans (Outline.assigned_eq code),
    fun _ _ => Outline.mem_found,
    Outline.pairwise_found code, fun _ hp => (Outline.mem_found.mp hp).2.end_le⟩

-- a quoted name with a character of two bytes, then a name behind a backtick that nothing closes
example : (OutlinePanel.showAssigned {} "a`é b` \t<<- function(`x<- function(").items
    = [⟨2, 4⟩, ⟨23, 1⟩] := by
  decide +kernel

end RCart
