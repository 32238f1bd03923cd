import CallScope.Double
import CallScope.Usage

/-!
# Moments

Time enters from outside: whoever opens or closes a span says when. A
moment is a number of nanoseconds since the epoch. It is shown in whole
milliseconds, and the time between two moments as a double of
milliseconds.
-/

namespace CallScope

/-- **A point in time.** -/
structure Moment where
  /-- Nanoseconds since the epoch. -/
  nanos : Nat
deriving DecidableEq

namespace Moment

/-- A moment in whole milliseconds since the epoch. -/
def millis (m : Moment) : UInt64 := saturateWord (m.nanos / 10 ^ 6)

/-- **The milliseconds from one moment to a later one**, none if it is
earlier. They are made of seconds, the whole ones and the rest of one, and
every step is rounded. -/
def millisUntil (first second : Moment) : Double :=
  let elapsed := second.nanos - first.nanos
  let whole := Double.ofInt (elapsed / 10 ^ 9 : Nat)
  let rest := (Double.ofInt (elapsed % 10 ^ 9 : Nat)).div (.ofInt (10 ^ 9))
  (whole.add rest).mul (.ofInt 1000)

/-- The later of two moments. -/
def latest (first second : Moment) : Moment := ⟨max first.nanos second.nanos⟩

end Moment
end CallScope
