import RCart.Toml.Reader
import RCart.Toml.Value

/-!
The simple values of TOML documents: strings, numbers, truth values, dates and times.

* `blanks`, `newline`, `comment`: what stands between values;
* `Scalar.string`: strings of all four kinds;
* `Scalar.number`: integers and floats;
* `Scalar.datetime`: dates, times and both;
* `Scalar.value`: any simple value, chosen by its first character.
-/

namespace RCart.Toml

open Reader

/-! ### Between values -/

/-- Spaces and tabs. -/
def isBlank (c : Char) : Bool :=
  c == ' ' || c == '\t'

/-- Everything but control characters, of which the tab passes. -/
def isPlain (c : Char) : Bool :=
  c == '\t' || (0x20 ≤ c.toNat && c.toNat ≠ 0x7f)

/-- Blanks, which may be missing. -/
def blanks : Reader Unit := do
  let _ ← run isBlank

/-- The end of a line. -/
def newline : Reader Unit :=
  exactly ['\n'] <|> exactly ['\r', '\n']

/-- A comment up to the end of its line. -/
def comment : Reader Unit := do
  char '#'
  let _ ← run isPlain

/-- Blanks, comments and ends of lines, as they may stand in an array. -/
def trivia : Reader Unit := do
  let _ ← many (newline <|> comment <|> do
    let _ ← run1 isBlank)

namespace Scalar

/-! ### Strings -/

/-- The value of a hexadecimal digit. -/
def hexValue? (c : Char) : Option Nat :=
  if '0' ≤ c ∧ c ≤ '9' then some (c.toNat - '0'.toNat)
  else if 'a' ≤ c ∧ c ≤ 'f' then some (c.toNat - 'a'.toNat + 10)
  else if 'A' ≤ c ∧ c ≤ 'F' then some (c.toNat - 'A'.toNat + 10)
  else none

/-- The character with a code point of so many hexadecimal digits. Surrogates are no characters. -/
def codePoint (width : Nat) : Reader Char := fun cs =>
  let digits := cs.take width
  if digits.length = width then
    match digits.mapM hexValue? with
    | some values =>
      let code := values.foldl (fun n d => 16 * n + d) 0
      if code.isValidChar then some (Char.ofNat code, cs.drop width) else none
    | none => none
  else none

/-- An escape. -/
def escape : Reader (List Char) := do
  char '\\'
  match ← satisfy fun _ => true with
  | 'b' => pure ['\x08']
  | 't' => pure ['\t']
  | 'n' => pure ['\n']
  | 'f' => pure ['\x0c']
  | 'r' => pure ['\r']
  | '"' => pure ['"']
  | '\\' => pure ['\\']
  | 'u' => do pure [← codePoint 4]
  | 'U' => do pure [← codePoint 8]
  | _ => failure

/-- A run of characters that stand for themselves, up to a quote, and a backslash where it
escapes. -/
def plainRun (quote : Char) (escapes : Bool) : Reader (List Char) :=
  run1 fun c => isPlain c && c != quote && !(escapes && c == '\\')

/-- A string on one line, given whether backslashes escape. -/
def line (quote : Char) (escapes : Bool) : Reader String := do
  char quote
  let piece := if escapes then plainRun quote escapes <|> escape else plainRun quote escapes
  let pieces ← many piece
  char quote
  pure (String.ofList pieces.flatten)

/-- The end of a line inside a string, which is always one line feed. -/
def lineFeed : Reader (List Char) := do
  newline
  pure ['\n']

/-- A backslash at the end of a line: all blanks and line ends up to the next text are dropped. -/
def continuation : Reader (List Char) := do
  char '\\'
  blanks
  newline
  let _ ← many (newline <|> do
    let _ ← run1 isBlank)
  pure []

/-- One or two quotes inside a string that three quotes end. -/
def innerQuotes (quote : Char) : Reader (List Char) := do
  let quotes ← run1 (· == quote)
  ensure (·.length < 3) quotes

/-- A string over several lines between three quotes, given whether backslashes escape. A line end
directly after the opening is dropped; up to two quotes may stand directly before the closing. -/
def block (quote : Char) (escapes : Bool) : Reader String := do
  exactly [quote, quote, quote]
  let _ ← Reader.optional newline
  let piece := plainRun quote escapes <|> lineFeed <|> innerQuotes quote
  let pieces ← many (if escapes then piece <|> continuation <|> escape else piece)
  exactly [quote, quote, quote]
  let inner ← Reader.optional (char quote)
  let innermost ← Reader.optional (char quote)
  let last := List.replicate (inner.toList.length + innermost.toList.length) quote
  pure (String.ofList (pieces.flatten ++ last))

/-- A string of any kind. -/
def string : Reader String :=
  block '"' true <|> block '\'' false <|> line '"' true <|> line '\'' false

/-! ### Numbers -/

/-- ASCII digits. -/
def isDigit (c : Char) : Bool :=
  '0' ≤ c && c ≤ '9'

/-- Whether every underscore of a run stands between two other characters. -/
def isGrouped : List Char → Bool
  | [] => true
  | [c] => c != '_'
  | c :: d :: cs => !(c == '_' && d == '_') && isGrouped (d :: cs)

/-- Digits that satisfy `p`, which underscores may group; without the underscores. -/
def digits (p : Char → Bool) : Reader (List Char) := do
  let cs ← run1 fun c => p c || c == '_'
  if isGrouped cs && cs.head? != some '_' then pure (cs.filter (· != '_')) else failure

/-- The number that digits stand for in a base. -/
def valueIn (base : Nat) (digits : List Char) : Nat :=
  digits.foldl (fun n c => base * n + (hexValue? c).getD 0) 0

/-- Whether a sign says that a number is negative; the sign may be missing. -/
def sign : Reader Bool :=
  (do char '-'; pure true) <|> (do char '+'; pure false) <|> pure false

/-- Decimal digits without a leading zero. -/
def decimalDigits : Reader (List Char) := do
  let cs ← digits isDigit
  ensure (fun cs => cs.length == 1 || cs.head? != some '0') cs

/-- An integer only if it fits into 64 bits. -/
def fitting (n : Int) : Reader Value :=
  if -Int.pow 2 63 ≤ n ∧ n < Int.pow 2 63 then pure (.integer n) else failure

/-- An integer with a prefix that names its base. -/
def basedInteger (letter : Char) (base : Nat) (p : Char → Bool) : Reader Value := do
  exactly ['0', letter]
  let cs ← digits p
  fitting (valueIn base cs)

/-- A decimal integer. -/
def decimalInteger : Reader Value := do
  let negative ← sign
  let cs ← decimalDigits
  let n : Int := valueIn 10 cs
  fitting (if negative then -n else n)

/-- The exponent of a float. -/
def exponent : Reader Int := do
  let _ ← satisfy fun c => c == 'e' || c == 'E'
  let negative ← sign
  let cs ← digits isDigit
  let n : Int := valueIn 10 cs
  pure (if negative then -n else n)

/-- A float with a fraction or an exponent or both. One that is too large is refused, one that is
too small is the negative infinity. -/
def decimalFloat : Reader Value := do
  let negative ← sign
  let whole ← decimalDigits
  let fraction ← Reader.optional do
    char '.'
    digits isDigit
  let power ← if fraction.isSome then Reader.optional exponent else some <$> exponent
  let fraction := fraction.getD []
  let x := Binary64.ofDecimal negative (valueIn 10 (whole ++ fraction))
    (power.getD 0 - fraction.length)
  if x = Binary64.infinity false then failure else pure (.float x)

/-- An infinity or what is not a number. -/
def wordFloat : Reader Value := do
  let negative ← sign
  (do exactly ['i', 'n', 'f']; pure (.float (Binary64.infinity negative)))
    <|> (do exactly ['n', 'a', 'n']; pure (.float Binary64.nan))

/-- A number. -/
def number : Reader Value :=
  decimalFloat <|> wordFloat
    <|> basedInteger 'x' 16 (fun c => (hexValue? c).isSome)
    <|> basedInteger 'o' 8 (fun c => '0' ≤ c && c ≤ '7')
    <|> basedInteger 'b' 2 (fun c => c == '0' || c == '1')
    <|> decimalInteger

/-! ### Dates and times -/

/-- Exactly so many decimal digits. -/
def fixedDigits (width : Nat) : Reader Nat := fun cs =>
  let found := cs.take width
  if found.length = width ∧ found.all isDigit = true then some (valueIn 10 found, cs.drop width)
  else none

/-- A day. -/
def date : Reader Date := do
  let year ← fixedDigits 4
  char '-'
  let month ← fixedDigits 2
  char '-'
  let day ← fixedDigits 2
  ensure Date.isValid ⟨year, month, day⟩

/-- A fraction of a second in nanoseconds; further digits are dropped. -/
def nanoseconds : Reader Nat := do
  char '.'
  let cs ← run1 isDigit
  let kept := cs.take 9
  pure (valueIn 10 kept * Nat.pow 10 (9 - kept.length))

/-- A time of day. -/
def time : Reader Time := do
  let hour ← fixedDigits 2
  char ':'
  let minute ← fixedDigits 2
  char ':'
  let second ← fixedDigits 2
  let fraction ← Reader.optional nanoseconds
  ensure Time.isValid ⟨hour, minute, second, fraction.getD 0⟩

/-- An offset. -/
def offset : Reader Offset :=
  (do let _ ← satisfy fun c => c == 'Z' || c == 'z'; pure .universal) <|> do
    let negative ← (do char '+'; pure false) <|> (do char '-'; pure true)
    let hours ← fixedDigits 2
    char ':'
    let minutes ← fixedDigits 2
    if hours ≤ 23 ∧ minutes ≤ 59 then
      let ahead : Int := 60 * hours + minutes
      pure (.minutes (if negative then -ahead else ahead))
    else failure

/-- A date, a time of day, or both. -/
def datetime : Reader Datetime :=
  (do
    let day ← date
    let rest ← Reader.optional do
      let _ ← satisfy fun c => c == 'T' || c == 't' || c == ' '
      let clock ← time
      let shift ← Reader.optional offset
      pure (clock, shift)
    match rest with
    | none => pure { date := some day }
    | some (clock, shift) => pure { date := some day, time := some clock, offset := shift })
  <|> do
    let clock ← time
    pure { time := some clock }

/-! ### Any simple value -/

/-- A simple value, chosen by its first character. -/
def value : Reader Value := do
  let c ← peek
  if c == '"' || c == '\'' then Value.string <$> string
  else if c == 't' then do exactly ['t', 'r', 'u', 'e']; pure (.boolean true)
  else if c == 'f' then do exactly ['f', 'a', 'l', 's', 'e']; pure (.boolean false)
  else (Value.datetime <$> datetime) <|> number

end Scalar

end RCart.Toml
