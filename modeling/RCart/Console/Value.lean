import RCart.Decimal.Layout

/-!
Values that pass between a cart and the console.

* `Value`, `ApiCall`: what a cart sends when it calls the console;
* `Value.display`: the text of a value on a trace line.
-/

namespace RCart

/-- A value that passes between a cart and the console. -/
inductive Value where
  /-- No value. -/
  | null
  /-- A truth value. -/
  | bool (value : Bool)
  /-- A number. -/
  | number (value : Binary64)
  /-- A text. -/
  | text (value : String)
  deriving DecidableEq, Repr

/-- A call of a console function from inside a cart. -/
structure ApiCall where
  /-- The function. -/
  name : String
  /-- The arguments, in order. -/
  args : List Value := []
  deriving DecidableEq, Repr

namespace Value

/-- A trace line never writes an exponent, and no point after a whole number. -/
def traceStyle : NumberStyle :=
  ⟨none, none, 0, "inf", "NaN"⟩

/-- The text of a number on a trace line. A whole number below `1e15` is an integer, so that both
zeros read alike. -/
def displayNumber (x : Binary64) : String :=
  match x.whole? with
  | some n =>
    if n.natAbs < Nat.pow 10 15 then String.ofList (Decimal.integerText n) else x.write traceStyle
  | none => x.write traceStyle

/-- The text of a value on a trace line. -/
def display : Value → String
  | null => "NULL"
  | bool true => "TRUE"
  | bool false => "FALSE"
  | number x => displayNumber x
  | text s => s

/-- The number that a value is; truth values are one and zero. -/
def number? : Value → Option Binary64
  | number x => some x
  | bool b => some (if b then Binary64.one else Binary64.zero)
  | _ => none

/-- The text that a value is. -/
def text? : Value → Option String
  | text s => some s
  | _ => none

end Value

end RCart
