import RCart.Decimal.Shortest

/-!
Written numbers.

A `NumberStyle` fixes every choice that is left once the digits of a number are known: which numbers
are written with an exponent, how many digits stand after the point, and the words for the
infinities. `Binary64.write` writes a number in a style.
-/

namespace RCart

/-- How numbers are written. -/
structure NumberStyle where
  /-- Numbers below this power of ten are written with an exponent; `none`: no number is. -/
  positionalFrom : Option Int
  /-- Numbers from this power of ten on are written with an exponent; `none`: no number is. -/
  positionalBelow : Option Int
  /-- The least number of digits after the point of a number without exponent. -/
  leastFraction : Nat
  /-- The positive infinity. -/
  infinity : String
  /-- What is not a number. -/
  nan : String

namespace Decimal

/-- A natural or integer exponent in decimal. -/
def integerText (n : Int) : List Char :=
  if n < 0 then '-' :: Nat.toDigits 10 n.natAbs else Nat.toDigits 10 n.natAbs

/-- A fraction with at least `least` digits, and its point; nothing when there is no digit. -/
def fractionText (least : Nat) (digits : List Char) : List Char :=
  let padded := digits ++ List.replicate (least - digits.length) '0'
  if padded.isEmpty then [] else '.' :: padded

/-- A decimal without exponent. -/
def positional (least : Nat) (d : Digits) : List Char :=
  if d.point ≤ 0 then
    '0' :: fractionText least (List.replicate (-d.point).toNat '0' ++ d.digits)
  else
    let places := d.point.toNat
    d.digits.take places ++ List.replicate (places - d.digits.length) '0'
      ++ fractionText least (d.digits.drop places)

/-- A decimal with one digit before the point and an exponent. -/
def scientific (d : Digits) : List Char :=
  d.digits.take 1 ++ fractionText 0 (d.digits.drop 1) ++ 'e' :: integerText (d.point - 1)

end Decimal

/-- Whether a style writes a decimal whose first digit stands for `exponent` without exponent. -/
def NumberStyle.isPositional (style : NumberStyle) (exponent : Int) : Bool :=
  (style.positionalFrom.all fun least => decide (least ≤ exponent))
    && (style.positionalBelow.all fun bound => decide (exponent < bound))

/-- A number in a style. -/
def Binary64.write (style : NumberStyle) (x : Binary64) : String :=
  let signed (negative : Bool) (text : List Char) :=
    String.ofList (if negative then '-' :: text else text)
  match x.view with
  | .nan => style.nan
  | .infinite negative => signed negative style.infinity.toList
  | .finite negative significand exponent =>
    if significand = 0 then signed negative ('0' :: Decimal.fractionText style.leastFraction [])
    else
      let d := Decimal.shortest significand exponent
      signed negative
        (if style.isPositional (d.point - 1) then Decimal.positional style.leastFraction d
        else Decimal.scientific d)

end RCart
