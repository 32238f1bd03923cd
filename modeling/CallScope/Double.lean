/-!
# Double-precision numbers

Metrics, attributes and JSON numbers carry IEEE 754 doubles, and what is
compared is their text and their bits, so a double is its 64-bit pattern
and every operation on it is exact arithmetic on natural numbers.

The layout makes that short. With the sign bit removed, the pattern of a
finite double is a natural number, its **magnitude**, and the magnitudes
count the non-negative doubles in increasing order. `Double.units` is the
value of a magnitude in units of `2 ^ -1074`, the smallest positive double;
up to `2 ^ 53` units the two coincide, and from there on each further
`2 ^ 52` magnitudes are twice as far apart as the ones before.

Rounding a fraction to the nearest double is then one division
(`Double.ofRatio`): find how coarse the doubles are near the fraction,
divide by that step, round to the even neighbour. A carry out of the
quotient lands on the next magnitude by itself, and everything from
magnitude `2047 * 2 ^ 52` on is infinite.
-/

-- Powers and sums of numbers are the plain ones, whatever algebra is imported besides.
attribute [instance(2000), default_instance 20000] instPowNat
attribute [instance(2000)] Zero.ofOfNat0

namespace CallScope

/-- The quotient `num / den` rounded to the nearest natural number, a tie
going to the even neighbour. -/
def roundDiv (num den : Nat) : Nat :=
  let quotient := num / den
  let rest := num % den
  if den < 2 * rest || (2 * rest == den && quotient % 2 == 1) then
    quotient + 1
  else
    quotient

/-- **A double**: its 64-bit pattern. -/
structure Double where
  /-- Sign, eleven bits of exponent, fifty-two of fraction. -/
  bits : UInt64
deriving DecidableEq

namespace Double

/-- One more than the largest finite magnitude, and the magnitude of
infinity. -/
def infiniteMagnitude : Nat := 2047 * 2 ^ 52

/-- Whether the sign bit is set. -/
def isNegative (x : Double) : Bool := 2 ^ 63 ≤ x.bits.toNat

/-- The bit pattern with the sign bit cleared. -/
def magnitude (x : Double) : Nat := x.bits.toNat % 2 ^ 63

/-- The double with the given sign and magnitude. -/
def ofMagnitude (negative : Bool) (magnitude : Nat) : Double :=
  ⟨UInt64.ofNat ((if negative then 2 ^ 63 else 0) + magnitude % 2 ^ 63)⟩

/-- Neither infinite nor not-a-number. -/
def isFinite (x : Double) : Bool := x.magnitude < infiniteMagnitude

/-- Not a number. -/
def isNaN (x : Double) : Bool := infiniteMagnitude < x.magnitude

/-- Zero of either sign. -/
def isZero (x : Double) : Bool := x.magnitude == 0

/-- Positive or negative infinity. -/
def infinity (negative : Bool) : Double := ofMagnitude negative infiniteMagnitude

/-- The not-a-number that reading the word yields. -/
def nan (negative : Bool) : Double := ofMagnitude negative (infiniteMagnitude + 2 ^ 51)

/-- Positive or negative zero. -/
def zero (negative : Bool) : Double := ofMagnitude negative 0

/-- **The value of a magnitude** in units of `2 ^ -1074`. -/
def units (magnitude : Nat) : Nat :=
  let step := magnitude / 2 ^ 52 - 1
  (magnitude - step * 2 ^ 52) * 2 ^ step

/-- **The double nearest to `num / den`**, ties going to the even
neighbour, values beyond the largest finite double going to infinity. -/
def ofRatio (negative : Bool) (num den : Nat) : Double :=
  let scaled := num * 2 ^ 1074
  let step := (scaled / den).log2 - 52
  let rounded := step * 2 ^ 52 + roundDiv scaled (den * 2 ^ step)
  ofMagnitude negative (min rounded infiniteMagnitude)

/-- The double nearest to an integer. -/
def ofInt (n : Int) : Double := ofRatio (n < 0) n.natAbs 1

/-! ## Arithmetic

Each operation gives the double nearest to its exact result. -/

/-- **The product** of finite doubles. -/
def mul (x y : Double) : Double :=
  ofRatio (x.isNegative != y.isNegative) (units x.magnitude * units y.magnitude)
    (2 ^ 1074 * 2 ^ 1074)

/-- **The quotient** of finite doubles, of which the second is not zero. -/
def div (x y : Double) : Double :=
  ofRatio (x.isNegative != y.isNegative) (units x.magnitude) (units y.magnitude)

/-- **The sum** of finite doubles that are not negative. -/
def add (x y : Double) : Double :=
  ofRatio false (units x.magnitude + units y.magnitude) (2 ^ 1074)

/-! ## Decimals -/

/-- **The double nearest to `coefficient * 10 ^ exponent`.**

A coefficient of `k` digits is below `10 ^ k`, so an exponent above 400
gives infinity and one below `-(k + 400)` gives zero. Those are decided
without writing the power out. -/
def ofDecimal (negative : Bool) (coefficient : Nat) (exponent : Int) : Double :=
  if coefficient = 0 then
    zero negative
  else if 400 < exponent then
    infinity negative
  else if exponent < -((Nat.toDigits 10 coefficient).length + 400 : Int) then
    zero negative
  else if 0 ≤ exponent then
    ofRatio negative (coefficient * 10 ^ exponent.toNat) 1
  else
    ofRatio negative coefficient (10 ^ (-exponent).toNat)

/-- The size of a finite double without its fraction. -/
def truncatedSize (x : Double) : Nat := units x.magnitude / 2 ^ 1074

/-- A finite double without its fraction, as an integer. -/
def truncate (x : Double) : Int :=
  if x.isNegative then -(x.truncatedSize : Int) else x.truncatedSize

end Double
end CallScope
