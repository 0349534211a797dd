import RCart.Decimal.Binary64

/-!
The shortest decimal that reads back.

The reals that round to a double form an interval around it, with its ends when the significand is
even. Of the decimal grids that get ten times finer at each step, `shortest` takes the first that
has a point in that interval, and on it the point nearest to the double. A tie goes up.

The double's two neighbours on a grid are enough: if a grid has a point in the interval, one of them
is such a point.
-/

namespace RCart.Decimal

/-! ### The interval of a double -/

/-- A positive double on a scale on which it and the ends of its interval are naturals. -/
structure Scaled where
  /-- The double. -/
  value : Nat
  /-- The lower end of its interval. -/
  low : Nat
  /-- The upper end of its interval. -/
  high : Nat
  /-- The number one. -/
  unit : Nat
  /-- Whether the ends belong to the interval. -/
  closed : Bool

/-- The interval of `significand * 2 ^ exponent`: half a step to each side, and below a power of
two, where steps are half as wide, a quarter of a step. -/
def Scaled.ofParts (significand : Nat) (exponent : Int) : Scaled :=
  let below := if significand = Nat.pow 2 52 ∧ -1074 < exponent then 1 else 2
  let closed := significand % 2 == 0
  if 2 ≤ exponent then
    let step := Nat.pow 2 (exponent - 2).toNat
    ⟨4 * significand * step, (4 * significand - below) * step, (4 * significand + 2) * step, 1,
      closed⟩
  else
    ⟨4 * significand, 4 * significand - below, 4 * significand + 2,
      Nat.pow 2 (2 - exponent).toNat, closed⟩

/-- The scale changed so that `10 ^ exponent` takes the place of one. -/
def Scaled.inUnitsOf (s : Scaled) (exponent : Int) : Scaled :=
  if 0 ≤ exponent then { s with unit := s.unit * Nat.pow 10 exponent.toNat }
  else
    let factor := Nat.pow 10 (-exponent).toNat
    { s with value := s.value * factor, low := s.low * factor, high := s.high * factor }

/-- Whether a point lies in the interval. -/
def Scaled.contains (s : Scaled) (point : Nat) : Bool :=
  if s.closed then s.low ≤ point && point ≤ s.high else s.low < point && point < s.high

/-! ### The search -/

/-- The number of decimal digits of a natural. -/
def digitCount (n : Nat) : Nat :=
  (Nat.toDigits 10 n).length

/-- The exponent of the first decimal digit of `num / den`. -/
def leadingExponent (num den : Nat) : Int :=
  if den ≤ num then digitCount (num / den) - 1
  else
    let places := digitCount (den / num)
    if num * Nat.pow 10 (places - 1) = den then 1 - places else -places

/-- The neighbour on the grid of `10 ^ exponent` that lies in the interval, the nearer of two, the
upper of two equally near. -/
def Scaled.neighbour? (s : Scaled) (exponent : Int) : Option Nat :=
  let t := s.inUnitsOf exponent
  let lower := t.value / t.unit
  let lowerFits := t.contains (lower * t.unit)
  let upperFits := t.contains ((lower + 1) * t.unit)
  let upperIsNear := t.unit ≤ 2 * (t.value - lower * t.unit)
  if upperFits && (!lowerFits || upperIsNear) then some (lower + 1)
  else if lowerFits then some lower
  else none

/-- A positive decimal `0.d₁d₂… * 10 ^ point`, its first and last digits not zero. -/
structure Digits where
  /-- The digits, from the first. -/
  digits : List Char
  /-- Where the point stands, counted from the first digit. -/
  point : Int
  deriving DecidableEq, Repr

/-- The decimal `n * 10 ^ exponent`. -/
def Digits.ofNat (n : Nat) (exponent : Int) : Digits :=
  let all := Nat.toDigits 10 n
  ⟨(all.reverse.dropWhile (· == '0')).reverse, all.length + exponent⟩

/-- The shortest decimal that reads back as `significand * 2 ^ exponent`. Seventeen digits always
suffice. -/
def shortest (significand : Nat) (exponent : Int) : Digits :=
  let s := Scaled.ofParts significand exponent
  let leading := leadingExponent s.value s.unit
  let grids : List Int := (List.range 17).map fun (n : Nat) => leading - n
  match grids.findSome? fun e => (s.neighbour? e).map (Digits.ofNat · e) with
  | some found => found
  | none =>
    let e := leading - 16
    let t := s.inUnitsOf e
    Digits.ofNat (t.value / t.unit) e

end RCart.Decimal
