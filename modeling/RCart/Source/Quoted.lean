/-!
Quoted text in the cart language.

A string literal stands between double quotes and a symbol between backticks; both write a delimiter
and a backslash with a backslash in front.

* `quoteString`: the literal of a text. Line feed, carriage return and tab have letters of their
  own, NUL cannot be written and is left out, every other control character is written as its code
  point;
* `quoteSymbol`: the symbol of a name, everything but backtick and backslash as it is;
* `splitQuoted`: where quoted text ends, found by skipping the character after each backslash;
* `unescape`: the text that quoted text stands for.
-/

namespace RCart.Source

/-! ### Writing -/

/-- The control characters, Unicode category Cc. -/
def isControl (c : Char) : Bool :=
  c.toNat < 0x20 || (0x7f ≤ c.toNat && c.toNat ≤ 0x9f)

/-- A character written as its code point. -/
def codePointEscape (c : Char) : List Char :=
  '\\' :: 'u' :: '{' :: (Nat.toDigits 16 c.toNat ++ ['}'])

/-- How a character is written in a string literal. -/
def stringEscape (c : Char) : List Char :=
  if c = '"' then ['\\', '"']
  else if c = '\\' then ['\\', '\\']
  else if c = '\n' then ['\\', 'n']
  else if c = '\r' then ['\\', 'r']
  else if c = '\t' then ['\\', 't']
  else if c = '\x00' then []
  else if isControl c then codePointEscape c
  else [c]

/-- How a character is written in a symbol. -/
def symbolEscape (c : Char) : List Char :=
  if c = '`' then ['\\', '`']
  else if c = '\\' then ['\\', '\\']
  else [c]

/-- The string literal of a text. -/
def quoteString (s : String) : String :=
  String.ofList ('"' :: (s.toList.flatMap stringEscape ++ ['"']))

/-- The quoted symbol of a name. -/
def quoteSymbol (s : String) : String :=
  String.ofList ('`' :: (s.toList.flatMap symbolEscape ++ ['`']))

/-! ### Reading -/

/-- Splits a text at its first `delimiter` that has no backslash in front, the one that ends quoted
text; `none` when there is none. -/
def splitQuoted (delimiter : Char) : List Char → Option (List Char × List Char)
  | [] => none
  | [c] => if c = delimiter then some ([], []) else none
  | c :: d :: cs =>
    if c = delimiter then some ([], d :: cs)
    else if c = '\\' then (splitQuoted delimiter cs).map fun (body, rest) => (c :: d :: body, rest)
    else (splitQuoted delimiter (d :: cs)).map fun (body, rest) => (c :: body, rest)

/-- How much of an escape has been read. -/
inductive EscapePart where
  /-- Outside an escape. -/
  | outside
  /-- After the backslash. -/
  | backslash
  /-- After the letter that announces a code point. -/
  | announced
  /-- Inside the braces, with the code point so far. -/
  | codePoint (value : Nat)
  deriving DecidableEq, Repr

/-- The value of a lower-case hexadecimal digit. -/
def hexValue? (c : Char) : Option Nat :=
  if '0' ≤ c ∧ c ≤ '9' then some (c.toNat - '0'.toNat)
  else if 'a' ≤ c ∧ c ≤ 'f' then some (c.toNat - 'a'.toNat + 10)
  else none

/-- The character that the letter of a short escape stands for. -/
def shortEscape? (c : Char) : Option Char :=
  if c = 'n' then some '\n'
  else if c = 'r' then some '\r'
  else if c = 't' then some '\t'
  else if c = '"' ∨ c = '`' ∨ c = '\\' then some c
  else none

/-- Reads the content of quoted text from inside an escape. -/
def unescapeFrom : EscapePart → List Char → Option (List Char)
  | .outside, [] => some []
  | _, [] => none
  | .outside, c :: cs =>
    if c = '\\' then unescapeFrom .backslash cs else (unescapeFrom .outside cs).map (c :: ·)
  | .backslash, c :: cs =>
    if c = 'u' then unescapeFrom .announced cs
    else (shortEscape? c).bind fun d => (unescapeFrom .outside cs).map (d :: ·)
  | .announced, c :: cs => if c = '{' then unescapeFrom (.codePoint 0) cs else none
  | .codePoint n, c :: cs =>
    if c = '}' then (unescapeFrom .outside cs).map (Char.ofNat n :: ·)
    else (hexValue? c).bind fun d => unescapeFrom (.codePoint (16 * n + d)) cs

/-- The text that the content of quoted text stands for. -/
def unescape (body : List Char) : Option (List Char) :=
  unescapeFrom .outside body

end RCart.Source
