import CallScope.Double

/-!
# The shortest decimal of a double

A finite positive double is printed with the fewest significant digits
that still read back as the same double, and of the decimals with that
many digits the one nearest to its value. Two may be equally near, and which
of them is taken is a choice of its own, `Tie`.

The search needs no table. A decimal with `n` significant digits lies on
the grid of multiples of one power of ten, and if any point of that grid
reads back then one of the value's two neighbours on it does. So for
`n = 1, 2, …, 17` the two neighbours are tried, with `Double.ofDecimal` as
the judge, and the first length with a hit wins. Should no length have one,
the value is written out in full, every double being a finite decimal.
-/

namespace CallScope

/-- **A decimal**: `coefficient * 10 ^ exponent`. -/
structure Decimal where
  coefficient : Nat
  exponent : Int
deriving DecidableEq

namespace Double

/-- The number of decimal digits of a natural number, zero having one. -/
def digitCount (n : Nat) : Nat := (Nat.toDigits 10 n).length

/-- The `e` with `10 ^ e ≤ value < 10 ^ (e + 1)`, the value being `num`
units of `2 ^ -1074` and positive. -/
def decimalExponent (num : Nat) : Int :=
  let whole := num / 2 ^ 1074
  if whole ≠ 0 then
    digitCount whole - 1
  else
    -(digitCount ((2 ^ 1074 + num - 1) / num - 1) : Int)

/-- Which of two multiples is taken that are equally near. -/
inductive Tie where
  | even
  | upper
deriving DecidableEq

/-- The value's neighbours among the multiples of `10 ^ exponent`, nearest
first. -/
def neighbours (tie : Tie) (num : Nat) (exponent : Int) : List Nat :=
  let top := num * 10 ^ (-exponent).toNat
  let step := 2 ^ 1074 * 10 ^ exponent.toNat
  let below := top / step
  let nearest := match tie with
    | .even => roundDiv top step
    | .upper => (2 * top + step) / (2 * step)
  if nearest = below then [below, below + 1] else [below + 1, below]

/-- The nearest decimal of `count` significant digits that reads back as
the double of the given magnitude, if one does. -/
def decimalOfLength? (tie : Tie) (magnitude count : Nat) : Option Decimal :=
  let num := units magnitude
  let exponent := decimalExponent num - (count - 1 : Nat)
  ((neighbours tie num exponent).find? fun coefficient =>
      ofDecimal false coefficient exponent == ofMagnitude false magnitude).map
    fun coefficient => ⟨coefficient, exponent⟩

/-- The value of a magnitude as a decimal with nothing rounded away. -/
def exactDecimal (magnitude : Nat) : Decimal := ⟨units magnitude * 5 ^ 1074, -1074⟩

/-- **The shortest decimal** that reads back as the finite double `x`,
leaving its sign aside. -/
def shortest (tie : Tie) (x : Double) : Decimal :=
  if x.isZero then
    ⟨0, 0⟩
  else
    ((List.range' 1 17).findSome? (decimalOfLength? tie x.magnitude)).getD
      (exactDecimal x.magnitude)

end Double
end CallScope
