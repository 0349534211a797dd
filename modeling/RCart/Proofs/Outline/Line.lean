import RCart.Proofs.Outline.Assigned
import RCart.Proofs.Outline.Parameters

/-!
Outlines, line by line.

A mark stands in one line, and so does the name that an outline finds for it: neither what is read
forwards nor what is read backwards goes beyond a line feed. So a text is outlined line by line, and
the lines before only move the items.

* `OutlineItem.shift`: an item of a text that stands further on;
* `placesFrom_append_line`: the places of two texts with a line feed between them;
* `parameterAt_append_line`: no line after it changes the parameter at a place;
* `assignedBefore_append_line`: no line before it changes the name that is assigned at a place;
* **`OutlinePanel.items_append_line`**: both outlines of two texts with a line feed between them are
  those of the first line and, moved, those of the second text.
-/

namespace RCart

/-- The same item when `n` bytes stand before its text. -/
def OutlineItem.shift (n : ℕ) (item : OutlineItem) : OutlineItem :=
  ⟨item.pos + n, item.size⟩

namespace Outline

open Source (isNameChar)
open Text (utf8Length toBytes)

/-! ### Places -/

/-- The same place with more after it. -/
def Place.followedBy (more : List Char) (p : Place) : Place :=
  ⟨p.before, p.after ++ more⟩

/-- The same place with more before it, given backwards. -/
def Place.behind (more : List Char) (p : Place) : Place :=
  ⟨p.before ++ more, p.after⟩

lemma Place.offset_behind (more : List Char) (p : Place) :
    (p.behind more).offset = p.offset + utf8Length more :=
  Text.utf8Length_append p.before more

/-- What stands before a text does not decide where its places are. -/
lemma placesFrom_behind (more before cs : List Char) :
    placesFrom (before ++ more) cs = (placesFrom before cs).map (Place.behind more) := by
  induction cs generalizing before with
  | nil => rfl
  | cons c cs ih =>
      rw [placesFrom, placesFrom, List.map_append, ← ih, List.cons_append]
      congr 1
      split <;> rfl

/-- A word without a line feed starts a text just if it starts its first line. -/
lemma isPrefixOf_append_line {word : List Char} (h : '\n' ∉ word) (cs rest : List Char) :
    word.isPrefixOf (cs ++ '\n' :: rest) = word.isPrefixOf cs := by
  induction word generalizing cs with
  | nil => simp
  | cons w word ih =>
      obtain ⟨hw, hword⟩ := not_or.mp fun hmem => h (List.mem_cons.mpr hmem)
      cases cs with
      | nil => simpa [List.isPrefixOf] using fun heq : w = '\n' => absurd heq.symm hw
      | cons c cs => rw [List.cons_append, List.isPrefixOf, List.isPrefixOf, ih hword]

/-- A mark stands in one line, so the places of a line and of what follows it are all there are. -/
lemma placesFrom_append_line (before cs rest : List Char) :
    placesFrom before (cs ++ '\n' :: rest)
      = (placesFrom before (cs ++ ['\n'])).map (Place.followedBy rest)
        ++ placesFrom ('\n' :: (cs.reverse ++ before)) rest := by
  have hmark : '\n' ∉ definitionMark := by decide
  induction cs generalizing before with
  | nil => rfl
  | cons c cs ih =>
      have hnext : '\n' :: ((c :: cs).reverse ++ before) = '\n' :: (cs.reverse ++ c :: before) := by
        rw [List.reverse_cons, List.append_assoc, List.singleton_append]
      have hstart (more : List Char) : definitionMark.isPrefixOf (c :: (cs ++ '\n' :: more))
          = definitionMark.isPrefixOf (c :: cs) := isPrefixOf_append_line hmark (c :: cs) more
      rw [List.cons_append, List.cons_append, placesFrom, placesFrom, ih, hnext, hstart, hstart,
        List.map_append, List.append_assoc]
      congr 1
      split
      · next hhere =>
        obtain ⟨after, hafter⟩ := List.isPrefixOf_iff_prefix.mp hhere
        have hdrop (more : List Char) :
            (c :: (cs ++ more)).drop definitionMark.length = after ++ more := by
          rw [← List.cons_append, ← hafter, List.append_assoc, List.drop_left]
        rw [hdrop, hdrop]
        simp [Place.followedBy]
      · rfl

/-- A line feed that ends a text comes after all of its places. -/
lemma exists_after_eq {before cs : List Char} {p : Place}
    (hp : p ∈ placesFrom before (cs ++ ['\n'])) : ∃ front, p.after = front ++ ['\n'] := by
  obtain ⟨between, -, hcs⟩ := mem_placesFrom.mp hp
  obtain hnil | ⟨front, c, hafter⟩ := p.after.eq_nil_or_concat'
  · -- the last character would be that of a mark
    have hlast := congrArg List.getLast? hcs
    rw [hnil, List.append_nil, List.getLast?_append, List.getLast?_append] at hlast
    exact absurd (Option.some.inj hlast) (by decide)
  · rw [hafter, ← List.append_assoc, ← List.append_assoc] at hcs
    have hc : '\n' = c := (List.cons.inj (List.append_inj_right' hcs rfl)).1
    exact ⟨front, by rw [hafter, hc]⟩

/-! ### First parameters -/

/-- The identifier behind a mark ends at the end of the line at the latest. -/
lemma parameterAt_append_line (pos : ℕ) (front rest : List Char) :
    parameterAt pos (front ++ '\n' :: rest) = parameterAt pos (front ++ ['\n']) := by
  have hstop : isNameChar '\n' = false := by decide
  obtain ⟨htake, hdrop⟩ := Text.takeWhile_append_stop hstop front rest
  obtain ⟨htake', hdrop'⟩ := Text.takeWhile_append_stop hstop front []
  have hmore (more : List Char) : (front.dropWhile isNameChar ++ '\n' :: more).isEmpty = false := by
    simp
  simp only [parameterAt, htake, hdrop, htake', hdrop', hmore]

lemma parameterAt_shift (pos n : ℕ) (rest : List Char) :
    parameterAt (pos + n) rest = (parameterAt pos rest).map (OutlineItem.shift n) := by
  rw [parameterAt, parameterAt]
  split <;> rfl

lemma Place.parameter_behind (more : List Char) (p : Place) :
    (p.behind more).parameter = p.parameter.map (OutlineItem.shift (utf8Length more)) := by
  rw [Place.parameter, Place.parameter, Place.offset_behind, ← parameterAt_shift]
  exact congrArg (parameterAt · p.after) (Nat.add_right_comm _ _ _)

/-! ### Assigned names -/

/-- A name that ends a text does not start in an earlier line. -/
lemma nameBefore_append_line (before line : List Char) :
    nameBefore (before ++ '\n' :: line)
      = (nameBefore before).map (OutlineItem.shift (utf8Length ('\n' :: line))) := by
  by_cases hquote : ∃ cs, before = '`' :: cs
  · obtain ⟨cs, rfl⟩ := hquote
    obtain ⟨htake, hdrop⟩ :=
      Text.takeWhile_append_stop (show isPlain '\n' = false by decide) cs line
    rw [List.cons_append, nameBefore_backtick, nameBefore_backtick, htake, hdrop]
    -- the backtick that opens is found in the same line, or not at all
    cases hopen : cs.dropWhile isPlain with
    | nil => rfl
    | cons c rest =>
        by_cases hc : c = '`'
        · subst hc
          simp only [List.cons_append]
          split
          · rfl
          · simp only [Option.map_some, OutlineItem.shift, Text.utf8Length_append,
              Nat.add_right_comm]
        · simp [hc]
  · have hquote' : ∀ cs, before ++ '\n' :: line ≠ '`' :: cs := by
      intro cs heq
      cases before with
      | nil => exact absurd (List.cons.inj heq).1 (by decide)
      | cons c rest => exact hquote ⟨rest, by rw [(List.cons.inj heq).1]⟩
    obtain ⟨htake, hdrop⟩ :=
      Text.takeWhile_append_stop (show isNameChar '\n' = false by decide) before line
    rw [nameBefore.eq_2 _ hquote', nameBefore.eq_2 _ (not_exists.mp hquote), htake, hdrop]
    split
    · rfl
    · simp only [Option.map_some, OutlineItem.shift, Text.utf8Length_append]

/-- Nor do the blanks and the arrow head between a name and its mark. -/
lemma assignedBefore_append_line (before line : List Char) :
    assignedBefore (before ++ '\n' :: line)
      = (assignedBefore before).map (OutlineItem.shift (utf8Length ('\n' :: line))) := by
  have hblanks (cs : List Char) : nameBefore ((cs ++ '\n' :: line).dropWhile isBlank)
      = (nameBefore (cs.dropWhile isBlank)).map
          (OutlineItem.shift (utf8Length ('\n' :: line))) := by
    rw [(Text.takeWhile_append_stop (show isBlank '\n' = false by decide) cs line).2,
      nameBefore_append_line]
  by_cases harrow : ∃ cs, before = '<' :: cs
  · obtain ⟨cs, rfl⟩ := harrow
    exact hblanks cs
  · have harrow' : ∀ cs, before ++ '\n' :: line ≠ '<' :: cs := by
      intro cs heq
      cases before with
      | nil => exact absurd (List.cons.inj heq).1 (by decide)
      | cons c rest => exact harrow ⟨rest, by rw [(List.cons.inj heq).1]⟩
    rw [assignedBefore.eq_2 _ harrow', assignedBefore.eq_2 _ (not_exists.mp harrow), hblanks]

/-! ### Both outlines -/

/-- An outline that looks at each place of a text once goes on behind a line feed as it starts, if
it does not look beyond one. -/
lemma filterMap_places_append_line {look : Place → Option OutlineItem}
    (hafter : ∀ before front rest, look ⟨before, front ++ '\n' :: rest⟩
      = look ⟨before, front ++ ['\n']⟩)
    (hbefore : ∀ p line, look (p.behind ('\n' :: line))
      = (look p).map (OutlineItem.shift (utf8Length ('\n' :: line))))
    (a b : List Char) :
    (placesFrom [] (a ++ '\n' :: b)).filterMap look
      = (placesFrom [] (a ++ ['\n'])).filterMap look
        ++ ((placesFrom [] b).filterMap look).map (OutlineItem.shift (utf8Length a + 1)) := by
  have hline : utf8Length ('\n' :: a.reverse) = utf8Length a + 1 := by
    rw [utf8Length, utf8Length_reverse, Nat.add_comm]
    rfl
  have hfirst : ((placesFrom [] (a ++ ['\n'])).map (Place.followedBy b)).filterMap look
      = (placesFrom [] (a ++ ['\n'])).filterMap look := by
    rw [List.filterMap_map]
    refine List.filterMap_congr fun p hp => ?_
    obtain ⟨front, hfront⟩ := exists_after_eq hp
    obtain ⟨before, after⟩ := p
    obtain rfl : after = front ++ ['\n'] := hfront
    rw [← hafter before front b, Function.comp_apply, Place.followedBy, List.append_assoc,
      List.singleton_append]
  have hsecond : (placesFrom ('\n' :: a.reverse) b).filterMap look
      = ((placesFrom [] b).filterMap look).map (OutlineItem.shift (utf8Length a + 1)) := by
    have hbehind := placesFrom_behind ('\n' :: a.reverse) [] b
    rw [List.nil_append] at hbehind
    rw [hbehind, List.filterMap_map, List.map_filterMap, ← hline]
    exact List.filterMap_congr fun p _ => hbefore p a.reverse
  rw [placesFrom_append_line, List.filterMap_append, hfirst, List.append_nil, hsecond]

end Outline

/-- **Outlines are local to lines**, whatever the panels have shown before.

The items of two texts with a line feed between them are those of the first text with its line feed,
and then those of the second, moved behind it. This holds of first parameters and of assigned
names. -/
theorem OutlinePanel.items_append_line (panel : OutlinePanel) (a b : String) :
    let line := a ++ "\n"
    let behind := OutlineItem.shift ((Text.toBytes a).length + 1)
    (panel.showParameters (line ++ b)).items
        = (panel.showParameters line).items ++ (panel.showParameters b).items.map behind
      ∧ (panel.showAssigned (line ++ b)).items
        = (panel.showAssigned line).items ++ (panel.showAssigned b).items.map behind := by
  intro line behind
  have hline : line.toList = a.toList ++ ['\n'] := String.toList_append
  have hboth : (line ++ b).toList = a.toList ++ '\n' :: b.toList := by
    rw [String.toList_append, hline, List.append_assoc, List.singleton_append]
  have hlength : (Text.toBytes a).length = Text.utf8Length a.toList := by
    rw [Text.toBytes_eq, Text.length_bytesOf]
  simp only [behind, hlength]
  constructor
  · simp only [items_showParameters]
    rw [Outline.parameters_eq, Outline.parameters_eq, Outline.parameters_eq, Outline.places,
      Outline.places, Outline.places, hboth, hline]
    exact Outline.filterMap_places_append_line
      (fun before front rest => Outline.parameterAt_append_line _ front rest)
      (fun p line => p.parameter_behind _) a.toList b.toList
  · simp only [items_showAssigned]
    rw [Outline.assigned, Outline.assigned, Outline.assigned, Outline.assignedFrom_eq,
      Outline.assignedFrom_eq, Outline.assignedFrom_eq, hboth, hline]
    exact Outline.filterMap_places_append_line (fun before front rest => rfl)
      (fun p line => Outline.assignedBefore_append_line p.before line) a.toList b.toList

end RCart
