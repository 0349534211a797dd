import RCart.Decimal.Layout
import RCart.Source.Quoted

/-!
Values written as literals of the cart language.

* `Literal`: the values that an argument of a call can have;
* `Literal.source`: the literal of a value;
* `literalStyle`: how a literal writes a number.
-/

namespace RCart.Source

/-- A value that can be written as a literal. -/
inductive Literal where
  /-- The empty value. -/
  | null
  /-- A truth value. -/
  | bool (value : Bool)
  /-- An integer. -/
  | int (value : Int32)
  /-- A number. -/
  | number (value : Binary64)
  /-- A text. -/
  | text (value : String)
  deriving DecidableEq, Repr

/-- A number literal has a point or an exponent, so it never reads as an integer; it has an exponent
below `1e-4` and from `1e16` on. -/
def literalStyle : NumberStyle :=
  ⟨some (-4), some 16, 1, "Inf", "NaN"⟩

/-- The literal of a value. The least integer is the one that the language keeps for a missing
value. -/
def Literal.source : Literal → String
  | .null => "NULL"
  | .bool true => "TRUE"
  | .bool false => "FALSE"
  | .int value =>
    if value = Int32.minValue then "NA_integer_"
    else String.ofList (Decimal.integerText value.toInt ++ ['L'])
  | .number value => value.write literalStyle
  | .text value => quoteString value

end RCart.Source
