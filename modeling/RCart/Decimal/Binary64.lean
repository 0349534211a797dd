/-!
Double-precision numbers as their 64 bits.

All arithmetic is exact arithmetic on naturals, so that every answer about a number can be reasoned
about:

* `Binary64.view`: the number that the bits stand for, a significand times a power of two;
* `Binary64.whole?`: the integer that a number is, if it is one;
* `Binary64.ofQuotient`: the double nearest to a quotient of naturals, ties to the even significand;
* `Binary64.ofDecimal`: the double nearest to a decimal.
-/

namespace RCart

/-- A double-precision number, given by its bits: one sign bit, eleven of exponent, fifty-two of
fraction. -/
structure Binary64 where
  /-- The sixty-four bits, sign first. -/
  bits : UInt64
  deriving DecidableEq, Repr, Inhabited

namespace Binary64

/-! ### What the bits stand for -/

/-- A number as its parts. -/
inductive View where
  /-- Not a number. -/
  | nan
  /-- An infinity. -/
  | infinite (negative : Bool)
  /-- The number `significand * 2 ^ exponent`, or its negation. -/
  | finite (negative : Bool) (significand : Nat) (exponent : Int)
  deriving DecidableEq, Repr

/-- The sign bit. -/
def isNegative (x : Binary64) : Bool :=
  Nat.pow 2 63 ≤ x.bits.toNat

/-- The eleven exponent bits. -/
def exponentBits (x : Binary64) : Nat :=
  x.bits.toNat / Nat.pow 2 52 % Nat.pow 2 11

/-- The fifty-two fraction bits. -/
def fractionBits (x : Binary64) : Nat :=
  x.bits.toNat % Nat.pow 2 52

/-- The number that the bits stand for. The lowest exponent has no hidden bit, the highest stands
for the infinities and for what is not a number. -/
def view (x : Binary64) : View :=
  if x.exponentBits = 2047 then
    if x.fractionBits = 0 then .infinite x.isNegative else .nan
  else if x.exponentBits = 0 then .finite x.isNegative x.fractionBits (-1074)
  else .finite x.isNegative (Nat.pow 2 52 + x.fractionBits) (x.exponentBits - 1075)

/-- The bits from a sign and the other sixty-three. -/
def ofParts (negative : Bool) (magnitude : Nat) : Binary64 :=
  ⟨UInt64.ofNat (magnitude + if negative then Nat.pow 2 63 else 0)⟩

/-- Zero. -/
def zero : Binary64 := ⟨0⟩

/-- One. -/
def one : Binary64 := ⟨0x3ff0000000000000⟩

/-- An infinity. -/
def infinity (negative : Bool) : Binary64 := ofParts negative 0x7ff0000000000000

/-- The number that stands for not being one. -/
def nan : Binary64 := ⟨0x7ff8000000000000⟩

/-- Whether a number is not a number. -/
def isNaN (x : Binary64) : Bool :=
  x.view == .nan

/-- Whether a number is one of the two zeros. -/
def isZero (x : Binary64) : Bool :=
  match x.view with
  | .finite _ significand _ => significand == 0
  | _ => false

/-! ### Whole numbers -/

/-- The whole part of `significand * 2 ^ exponent`. -/
def wholePart (significand : Nat) (exponent : Int) : Nat :=
  if 0 ≤ exponent then significand * Nat.pow 2 exponent.toNat
  else significand / Nat.pow 2 (-exponent).toNat

/-- Whether `significand * 2 ^ exponent` is a whole number. -/
def isWhole (significand : Nat) (exponent : Int) : Bool :=
  0 ≤ exponent || significand % Nat.pow 2 (-exponent).toNat == 0

/-- The integer that a number is, if it is one. Both zeros are the integer zero. -/
def whole? (x : Binary64) : Option Int :=
  match x.view with
  | .finite negative significand exponent =>
    if isWhole significand exponent then
      some (if negative then -(wholePart significand exponent : Int)
        else (wholePart significand exponent : Int))
    else none
  | _ => none

/-- The whole part of a number between zero and `bound`, both included; `none` for every other
number. A negative zero is between them. -/
def wholeUpTo? (bound : Nat) (x : Binary64) : Option Nat :=
  match x.view with
  | .finite negative significand exponent =>
    let whole := wholePart significand exponent
    if significand = 0 then some 0
    else if negative then none
    else if whole < bound ∨ (whole = bound ∧ isWhole significand exponent = true) then some whole
    else none
  | _ => none

/-! ### Rounding -/

/-- A quotient rounded to the nearest natural, a half to the even one. -/
def roundQuotient (num den : Nat) : Nat :=
  let whole := num / den
  let twice := 2 * (num % den)
  if twice < den then whole
  else if den < twice then whole + 1
  else whole + whole % 2

/-- The quotient `num / den / 2 ^ exponent`, as a quotient of naturals. -/
def scaleDown (num den : Nat) (exponent : Int) : Nat × Nat :=
  if 0 ≤ exponent then (num, den * Nat.pow 2 exponent.toNat)
  else (num * Nat.pow 2 (-exponent).toNat, den)

/-- The exponent of the double nearest to `num / den`: the one that leaves fifty-three bits before
the point, or the lowest there is. -/
def exponentFor (num den : Nat) : Int :=
  let guess : Int := Nat.log2 num - Nat.log2 den - 52
  let (n, d) := scaleDown num den guess
  max (if n / d < Nat.pow 2 52 then guess - 1 else guess) (-1074)

/-- The double nearest to `num / den`; past the greatest double, an infinity. -/
def ofQuotient (negative : Bool) (num den : Nat) : Binary64 :=
  if num = 0 ∨ den = 0 then ofParts negative 0
  else
    let exponent := exponentFor num den
    let (n, d) := scaleDown num den exponent
    -- one more than the last significand carries into the exponent bits
    let magnitude := (exponent + 1074).toNat * Nat.pow 2 52 + roundQuotient n d
    if 0x7ff0000000000000 ≤ magnitude then infinity negative else ofParts negative magnitude

/-- The double nearest to `digits * 10 ^ exponent`. -/
def ofDecimal (negative : Bool) (digits : Nat) (exponent : Int) : Binary64 :=
  let magnitude : Int := (Nat.toDigits 10 digits).length + exponent
  if digits = 0 ∨ magnitude < -400 then ofParts negative 0
  else if 400 < magnitude then infinity negative
  else if 0 ≤ exponent then ofQuotient negative (digits * Nat.pow 10 exponent.toNat) 1
  else ofQuotient negative digits (Nat.pow 10 (-exponent).toNat)

end Binary64

end RCart
