import CallScope.Double

/-!
# Doubles scaled by powers of ten

A fast reader of numbers does not round the decimal that it is given. It
takes the digits as an integer, rounds that, and multiplies or divides by
the double nearest to a power of ten, so that up to three roundings stand
between the decimal and what is read of it. Where the integer and the power
are doubles themselves, only the last of them is left and the result is the
nearest double; elsewhere it is often the one beside it.
-/

namespace CallScope.Double

/-- The largest exponent of a power of ten near which a double is finite. -/
def largestPower : Nat := 308

/-- The double nearest to a power of ten. -/
def powerOfTen (exponent : Nat) : Double := ofRatio false (10 ^ exponent) 1

/-- **A double divided by `10 ^ exponent`**, in steps of the largest power as
long as the exponent is beyond it and there is something left to divide. -/
def overPowerOfTen (x : Double) (exponent : Nat) : Double :=
  if exponent ≤ largestPower then
    x.div (powerOfTen exponent)
  else if x.isZero then
    x
  else
    (x.div (powerOfTen largestPower)).overPowerOfTen (exponent - largestPower)
termination_by exponent
decreasing_by
  unfold largestPower at *
  omega

/-- **A double times `10 ^ exponent`.** Beyond the largest power nothing but
zero stays finite. -/
def scaled (x : Double) (exponent : Int) : Double :=
  if exponent < 0 then
    x.overPowerOfTen exponent.natAbs
  else if exponent ≤ largestPower then
    x.mul (powerOfTen exponent.natAbs)
  else if x.isZero then
    x
  else
    infinity x.isNegative

end CallScope.Double
