import CallScope.Double.Scaled
import CallScope.Proofs.Decimal

/-!
# Scaling without loss

Reading a number fast rounds its digits, a power of ten, and what comes of
the two (`Double.scaled`). The first two roundings change nothing if the digits
are an integer of fifty-three bits and the power is one of the first
twenty-two, which are doubles. Then only the last rounding is left, and what is
read is the double nearest to the decimal (`Double.scaled_ofRatio`).
-/

namespace CallScope.Double

/-- **A natural number that is a double.** -/
def IsExact (n : Nat) : Prop := units (nearest n 1) = n * 2 ^ 1074

/-- Fifty-three bits with zeros behind them are the units of a double. -/
theorem exists_units {bits zeros : Nat} (h : bits < 2 ^ 53) (hlow : 52 ≤ zeros)
    (hhigh : zeros ≤ 2045) :
    ∃ magnitude < infiniteMagnitude, units magnitude = bits * 2 ^ zeros := by
  by_cases hzero : bits = 0
  · exact ⟨0, by decide, by rw [hzero, Nat.zero_mul]; decide⟩
  -- move zeros to the front until the fifty-third bit is set
  obtain ⟨shift, fraction, hshift, hfraction, hset, hfits⟩ : ∃ shift fraction, shift ≤ 52
      ∧ fraction = bits * 2 ^ shift ∧ 2 ^ 52 ≤ fraction ∧ fraction < 2 ^ 53 := by
    have hlog : bits.log2 < 53 := (Nat.log2_lt hzero).mpr h
    refine ⟨52 - bits.log2, _, Nat.sub_le _ _, rfl, ?_, ?_⟩
    · calc 2 ^ 52 = 2 ^ bits.log2 * 2 ^ (52 - bits.log2) := by
            rw [← Nat.pow_add, Nat.add_sub_cancel' (by omega)]
        _ ≤ bits * 2 ^ (52 - bits.log2) := Nat.mul_le_mul_right _ (Nat.log2_self_le hzero)
    · calc bits * 2 ^ (52 - bits.log2) < 2 ^ (bits.log2 + 1) * 2 ^ (52 - bits.log2) :=
            (Nat.mul_lt_mul_right (Nat.two_pow_pos _)).mpr Nat.lt_log2_self
        _ = 2 ^ 53 := by rw [← Nat.pow_add, show bits.log2 + 1 + (52 - bits.log2) = 53 by omega]
  refine ⟨(zeros - shift) * 2 ^ 52 + fraction, by unfold infiniteMagnitude; omega, ?_⟩
  have hstep : ((zeros - shift) * 2 ^ 52 + fraction) / 2 ^ 52 - 1 = zeros - shift := by omega
  unfold units
  dsimp only
  rw [hstep, Nat.add_sub_cancel_left, hfraction, Nat.mul_assoc, ← Nat.pow_add,
    Nat.add_sub_cancel' (by omega)]

theorem isExact_of_bits {bits zeros : Nat} (h : bits < 2 ^ 53) (hzeros : zeros ≤ 971) :
    IsExact (bits * 2 ^ zeros) := by
  obtain ⟨magnitude, hfinite, hunits⟩ :=
    exists_units h (show 52 ≤ zeros + 1074 by omega) (by omega)
  have hself := nearest_units hfinite
  have hpos := Nat.two_pow_pos 1074
  rw [Nat.pow_add 2 zeros, ← Nat.mul_assoc] at hunits
  unfold IsExact
  generalize 2 ^ 1074 = scale at *
  have hnearest : nearest (bits * 2 ^ zeros) 1 = magnitude := by
    rw [← nearest_mul_right hpos, ← hunits, Nat.one_mul, hself]
  rw [hnearest, hunits]

/-- Integers of fifty-three bits are doubles, and so is the one after them. -/
theorem isExact_of_le {n : Nat} (h : n ≤ 2 ^ 53) : IsExact n := by
  rcases Nat.lt_or_eq_of_le h with hlt | rfl
  · simpa only [Nat.pow_zero, Nat.mul_one] using isExact_of_bits hlt (Nat.zero_le 971)
  · rw [← Nat.one_mul (2 ^ 53)]
    exact isExact_of_bits (by decide) (by decide)

/-- The first powers of ten are doubles. -/
theorem isExact_powerOfTen {exponent : Nat} (h : exponent ≤ 22) : IsExact (10 ^ exponent) := by
  have hbits : 5 ^ exponent < 2 ^ 53 :=
    Nat.lt_of_le_of_lt (Nat.pow_le_pow_right (by decide) h) (by decide)
  rw [show 10 ^ exponent = 5 ^ exponent * 2 ^ exponent from Nat.mul_pow 5 2 exponent]
  exact isExact_of_bits hbits (by omega)

section Exact

variable {m n : Nat} (hm : IsExact m) (hn : IsExact n) (negative : Bool)

include hm in
theorem units_ofRatio : units (ofRatio negative m 1).magnitude = m * 2 ^ 1074 := by
  rw [ofRatio_eq, magnitude_ofMagnitude (nearest_lt _ _), hm]

theorem isNegative_ofRatio (num den : Nat) : (ofRatio negative num den).isNegative = negative := by
  rw [ofRatio_eq, isNegative_ofMagnitude (nearest_lt _ _)]

include hm hn in
/-- The product of numbers that are doubles is rounded once. -/
theorem mul_ofRatio : (ofRatio negative m 1).mul (ofRatio false n 1)
    = ofMagnitude negative (nearest (m * n) 1) := by
  have hpos := Nat.two_pow_pos 1074
  rw [mul, units_ofRatio hm, units_ofRatio hn, isNegative_ofRatio, isNegative_ofRatio,
    Bool.bne_false, ofRatio_eq, Nat.mul_mul_mul_comm]
  generalize 2 ^ 1074 = scale at *
  rw [← nearest_mul_right (Nat.mul_pos hpos hpos) (m * n) 1, Nat.one_mul]

include hm hn in
/-- The quotient of numbers that are doubles is rounded once. -/
theorem div_ofRatio : (ofRatio negative m 1).div (ofRatio false n 1)
    = ofMagnitude negative (nearest m n) := by
  rw [div, units_ofRatio hm, units_ofRatio hn, isNegative_ofRatio, isNegative_ofRatio,
    Bool.bne_false, ofRatio_eq, nearest_mul_right (Nat.two_pow_pos 1074)]

include hm in
/-- **Scaling by one of the first powers of ten** gives the double nearest to the
decimal. -/
theorem scaled_ofRatio {exponent : Int} (h : exponent.natAbs ≤ 22) :
    (ofRatio negative m 1).scaled exponent = ofDecimal negative m exponent := by
  have hpower := isExact_powerOfTen h
  rw [ofDecimal_eq, scaled]
  split
  · rw [overPowerOfTen, if_pos (by unfold largestPower; omega), powerOfTen,
      div_ofRatio hm hpower, show exponent.toNat = 0 by omega,
      show (-exponent).toNat = exponent.natAbs by omega, Nat.pow_zero, Nat.mul_one]
  · rw [if_pos (by unfold largestPower; omega), powerOfTen, mul_ofRatio hm hpower,
      show exponent.toNat = exponent.natAbs by omega, show (-exponent).toNat = 0 by omega,
      Nat.pow_zero]

end Exact

end CallScope.Double
