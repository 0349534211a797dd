/-!
Reading a text from the left.

A `Reader` takes what it reads off the front of a text and hands on the rest; when it fails nothing
has been read, so that another reader can be tried. `many` repeats a reader for as long as it makes
the text shorter.
-/

namespace RCart.Toml

/-- Reads a value off the front of a text. -/
abbrev Reader := StateT (List Char) Option

namespace Reader

variable {α : Type}

/-- The next character if it satisfies `p`. -/
def satisfy (p : Char → Bool) : Reader Char
  | [] => none
  | c :: cs => if p c then some (c, cs) else none

/-- The character `c`. -/
def char (c : Char) : Reader Unit := do
  let _ ← satisfy (· == c)

/-- The characters of `expected`, in order. -/
def exactly (expected : List Char) : Reader Unit := fun cs =>
  if expected.isPrefixOf cs then some ((), cs.drop expected.length) else none

/-- The longest run of characters that satisfy `p`. -/
def run (p : Char → Bool) : Reader (List Char) := fun cs =>
  some (cs.takeWhile p, cs.dropWhile p)

/-- The longest run of characters that satisfy `p`, at least one. -/
def run1 (p : Char → Bool) : Reader (List Char) := do
  let cs ← run p
  if cs.isEmpty then failure else pure cs

/-- The next character, left where it is; NUL at the end of the text. -/
def peek : Reader Char := fun cs =>
  some (cs.headD '\x00', cs)

/-- A value if it can be read. -/
def optional (p : Reader α) : Reader (Option α) :=
  some <$> p <|> pure none

/-- The values that `p` reads one after the other, and what is left. -/
def manyFrom (p : Reader α) (cs : List Char) : List α × List Char :=
  match p cs with
  | none => ([], cs)
  | some (a, rest) =>
    if rest.length < cs.length then
      let (found, last) := manyFrom p rest
      (a :: found, last)
    else ([], cs)
termination_by cs.length

/-- The values that `p` reads one after the other. -/
def many (p : Reader α) : Reader (List α) := fun cs =>
  some (manyFrom p cs)

/-- The values that `p` reads, with what `separator` reads between them; at least one. -/
def separated (p : Reader α) (separator : Reader Unit) : Reader (List α) := do
  let first ← p
  let rest ← many do
    separator
    p
  pure (first :: rest)

/-- A value only if it satisfies `p`. -/
def ensure (p : α → Bool) (a : α) : Reader α :=
  if p a then pure a else failure

end Reader

end RCart.Toml
