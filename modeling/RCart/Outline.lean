import RCart.Source.Name
import RCart.Text.Utf8

/-!
The outline of a cart.

The editor lists the function definitions of a cart, the places where `definitionMark` stands. Two
outlines are on offer:

* `Outline.parameters`: for each mark the identifier directly after it, the function's first
  parameter, as long as something follows the identifier;
* `Outline.assigned`: for each mark the name that is assigned, bare or between backticks;
* `OutlinePanel`: keeps the items that it shows, in a buffer that each outline clears and refills.

An item is a span in bytes; `OutlineItem.text` gives its text back.
-/

namespace RCart

/-- A span of a text, in bytes. -/
structure OutlineItem where
  /-- Where the span starts. -/
  pos : Nat
  /-- How long it is. -/
  size : Nat
  deriving DecidableEq, Repr

/-- The text that a span of some characters covers; the empty text when the span does not lie in
them or cuts one. -/
def OutlineItem.textIn (item : OutlineItem) (code : List Char) : String :=
  match Text.slice? code item.pos item.size with
  | some cs => String.ofList cs
  | none => ""

/-- The text that a span covers; the empty text when the span does not lie in the text or cuts a
character. -/
def OutlineItem.text (item : OutlineItem) (code : String) : String :=
  item.textIn code.toList

namespace Outline

open Source (isNameChar)
open Text (utf8Length)

/-- What a function definition looks like. -/
def definitionMark : List Char :=
  ['<', '-', ' ', 'f', 'u', 'n', 'c', 't', 'i', 'o', 'n', '(']

/-! ### First parameters -/

/-- The item of the identifier that a text starts with, if it is not empty and does not reach the
end of the text. -/
def parameterAt (pos : Nat) (rest : List Char) : Option OutlineItem :=
  let name := rest.takeWhile isNameChar
  if name.isEmpty || (rest.dropWhile isNameChar).isEmpty then none
  else some ⟨pos, utf8Length name⟩

/-- The parameter items of a text that starts at byte `pos`. An identifier holds no mark, so the
search goes on behind it. -/
def parametersFrom (pos : Nat) : List Char → List OutlineItem
  | [] => []
  | c :: cs =>
    if definitionMark.isPrefixOf (c :: cs) then
      let rest := (c :: cs).drop definitionMark.length
      let name := rest.takeWhile isNameChar
      let start := pos + definitionMark.length
      (parameterAt start rest).toList
        ++ parametersFrom (start + utf8Length name) (rest.dropWhile isNameChar)
    else parametersFrom (pos + c.utf8Size) cs
termination_by cs => cs.length
decreasing_by
  · have h :=
      (List.dropWhile_suffix isNameChar (l := (c :: cs).drop definitionMark.length)).length_le
    simp only [List.length_drop, List.length_cons, definitionMark, List.length_nil] at h ⊢
    omega
  · simp

/-- The first parameters of a text, in order. -/
def parameters (code : String) : List OutlineItem :=
  parametersFrom 0 code.toList

/-! ### Assigned names -/

/-- Spaces and tabs. -/
def isBlank (c : Char) : Bool :=
  c == ' ' || c == '\t'

/-- The item of the name that ends a text, given the text backwards. Between backticks stands
anything but a backtick and a line feed. -/
def nameBefore (before : List Char) : Option OutlineItem :=
  match before with
  | '`' :: cs =>
    let name := cs.takeWhile fun c => c != '`' && c != '\n'
    match cs.dropWhile fun c => c != '`' && c != '\n' with
    | '`' :: rest => if name.isEmpty then none else some ⟨utf8Length rest + 1, utf8Length name⟩
    | _ => none
  | cs =>
    let name := cs.takeWhile isNameChar
    if name.isEmpty then none else some ⟨utf8Length (cs.dropWhile isNameChar), utf8Length name⟩

/-- The item of the name that is assigned at the end of a text, given the text backwards: at most
one more arrow head and any blanks stand between the name and the mark. -/
def assignedBefore (before : List Char) : Option OutlineItem :=
  let arrowless := match before with
    | '<' :: cs => cs
    | cs => cs
  nameBefore (arrowless.dropWhile isBlank)

/-- The assigned-name items of a text, given backwards what stands before it. Marks do not
overlap. -/
def assignedFrom (before : List Char) : List Char → List OutlineItem
  | [] => []
  | c :: cs =>
    (if definitionMark.isPrefixOf (c :: cs) then (assignedBefore before).toList else [])
      ++ assignedFrom (c :: before) cs

/-- The assigned names of a text, in order. -/
def assigned (code : String) : List OutlineItem :=
  assignedFrom [] code.toList

end Outline

/-! ### Keeping the items -/

/-- Keeps the items that it shows until it is asked to show others. -/
structure OutlinePanel where
  /-- The items. -/
  items : List OutlineItem := []
  deriving DecidableEq, Repr

namespace OutlinePanel

/-- Takes all items off. -/
def clear (panel : OutlinePanel) : OutlinePanel :=
  { panel with items := [] }

/-- Adds an item behind the others. -/
def add (panel : OutlinePanel) (item : OutlineItem) : OutlinePanel :=
  { panel with items := panel.items ++ [item] }

/-- Takes all items off, and adds the given ones in order. -/
def refill (panel : OutlinePanel) (found : List OutlineItem) : OutlinePanel :=
  found.foldl add panel.clear

/-- Shows the first parameters of a text. -/
def showParameters (panel : OutlinePanel) (code : String) : OutlinePanel :=
  panel.refill (Outline.parameters code)

/-- Shows the assigned names of a text. -/
def showAssigned (panel : OutlinePanel) (code : String) : OutlinePanel :=
  panel.refill (Outline.assigned code)

/-- Items that are added in order stand behind the others in that order. -/
theorem items_foldl_add (panel : OutlinePanel) (found : List OutlineItem) :
    (found.foldl add panel).items = panel.items ++ found := by
  induction found generalizing panel with
  | nil => exact (List.append_nil _).symm
  | cons item rest ih => rw [List.foldl_cons, ih, add, List.append_assoc, List.singleton_append]

/-- Whatever a panel has shown before, it then shows just the outline of the text. -/
@[simp] theorem items_showParameters (panel : OutlinePanel) (code : String) :
    (panel.showParameters code).items = Outline.parameters code :=
  panel.clear.items_foldl_add _

@[simp] theorem items_showAssigned (panel : OutlinePanel) (code : String) :
    (panel.showAssigned code).items = Outline.assigned code :=
  panel.clear.items_foldl_add _

end OutlinePanel

end RCart
