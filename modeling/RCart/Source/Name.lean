/-!
Names in the cart language.

* `isNameChar`, `isNameByte`: what may continue an identifier;
* `reservedWords`: the words of the language, which the editor also highlights;
* `isSyntactic`: the names that need no quotes.
-/

namespace RCart.Source

/-! ### Characters of names -/

/-- ASCII letters. -/
def isLetter (c : Char) : Bool :=
  ('A' ≤ c && c ≤ 'Z') || ('a' ≤ c && c ≤ 'z')

/-- ASCII digits. -/
def isDigit (c : Char) : Bool :=
  '0' ≤ c && c ≤ '9'

/-- The characters that may continue an identifier: ASCII letters and digits, underscore and dot. -/
def isNameChar (c : Char) : Bool :=
  isLetter c || isDigit c || c == '_' || c == '.'

/-- The bytes that may continue an identifier: those of the name characters, which are all ASCII. -/
def isNameByte (b : UInt8) : Bool :=
  isNameChar (Char.ofNat b.toNat)

/-! ### Reserved words -/

/-- The reserved words, with the argument forms `...` and `..1` to `..9`. -/
def reservedWords : List String :=
  ["if", "else", "repeat", "while", "function", "for", "in", "next", "break",
   "TRUE", "FALSE", "NULL", "Inf", "NaN", "NA", "NA_integer_", "NA_real_",
   "NA_complex_", "NA_character_",
   "...", "..1", "..2", "..3", "..4", "..5", "..6", "..7", "..8", "..9"]

/-! ### Syntactic names -/

/-- Whether a name starts as a syntactic name does: with a letter, or with a dot that no digit
follows. -/
def startsSyntactic : List Char → Bool
  | [] => false
  | [c] => c == '.' || isLetter c
  | c :: d :: _ => if c == '.' then !isDigit d else isLetter c

/-- Whether a name can be written without quotes: it starts well, consists of name characters and is
not reserved. -/
def isSyntactic (name : String) : Bool :=
  startsSyntactic name.toList && name.toList.all isNameChar && !reservedWords.contains name

end RCart.Source
