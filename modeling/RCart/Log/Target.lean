import RCart.Calendar.Pattern

/-!
Paths of log files that hold the time.

A path may hold patterns between `$TIME` with an opening brace and a closing brace. They are filled
in when the file is opened.

* `cut?`: a text around the first place where something stands;
* `LogTarget.fill?`: a path with its patterns filled in.
-/

namespace RCart

/-- What stands before and after the first place where `mark` stands. -/
def cut? (mark : List Char) : List Char → Option (List Char × List Char)
  | [] => none
  | c :: cs =>
    if mark.isPrefixOf (c :: cs) then some ([], (c :: cs).drop mark.length)
    else (cut? mark cs).map fun (before, after) => (c :: before, after)

namespace LogTarget

/-- What comes before a pattern. -/
def opening : List Char :=
  ['$', 'T', 'I', 'M', 'E', '\x7b']

/-- What comes after a pattern. -/
def closing : List Char :=
  ['\x7d']

/-- How many patterns of a path are filled in. -/
def maxPatterns : Nat := 5

/-- Fills in the first pattern of a path, then the first of what comes out, and so on `left` times.
No path comes out when one of them is no pattern. -/
def fillFirst? (now : Moment) : (left : Nat) → List Char → Option (List Char)
  | 0, path => some path
  | left + 1, path =>
    match cut? opening path with
    | none => some path
    | some (before, rest) =>
      match cut? closing rest with
      | none => some path
      | some (pattern, after) => do
        let items ← Pattern.parse? pattern
        fillFirst? now left (before ++ Pattern.write now items ++ after)

/-- A path with its patterns filled in; `none` when one of them is no pattern. -/
def fill? (now : Moment) (path : String) : Option String :=
  (fillFirst? now maxPatterns path.toList).map String.ofList

end LogTarget

end RCart
