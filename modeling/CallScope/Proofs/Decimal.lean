import CallScope.Double.Shortest

/-!
# Decimals that read back

What double a decimal reads as depends on its value only
(`Double.ofDecimal_shift`): reading decides very large and very small ones
without looking at their digits, but it decides them as rounding would
(`Double.ofDecimal_eq`). And the decimal that is printed for a double, the
shortest one if there is one and the exact one if not, reads back as that
double (`Double.ofDecimal_shortest`).
-/

namespace CallScope

/-! ## Rounding a quotient -/

theorem roundDiv_mul_right {k : Nat} (hk : 0 < k) (num den : Nat) :
    roundDiv (num * k) (den * k) = roundDiv num den := by
  have htie : (2 * (num % den) * k == den * k) = (2 * (num % den) == den) := by
    rw [Bool.eq_iff_iff, beq_iff_eq, beq_iff_eq, Nat.mul_right_cancel_iff hk]
  unfold roundDiv
  dsimp only
  rw [Nat.mul_div_mul_right _ _ hk, Nat.mul_mod_mul_right, ← Nat.mul_assoc, htie]
  simp only [Nat.mul_lt_mul_right hk]

/-- A quotient that is whole is its own rounding. -/
theorem roundDiv_mul_self {den : Nat} (h : 0 < den) (quotient : Nat) :
    roundDiv (quotient * den) den = quotient := by
  have hne : (0 == den) = false := beq_eq_false_iff_ne.mpr (Nat.ne_of_lt h)
  unfold roundDiv
  dsimp only
  rw [Nat.mul_div_cancel _ h, Nat.mul_mod_left, Nat.mul_zero, hne]
  rfl

/-- A quotient is rounded down at most. -/
theorem div_le_roundDiv (num den : Nat) : num / den ≤ roundDiv num den := by
  unfold roundDiv
  dsimp only
  split
  · exact Nat.le_succ _
  · exact Nat.le_refl _

/-- A quotient is rounded up at most. -/
theorem roundDiv_le (num den : Nat) : roundDiv num den ≤ num / den + 1 := by
  unfold roundDiv
  dsimp only
  split
  · exact Nat.le_refl _
  · exact Nat.le_succ _

namespace Double

/-! ## Signs and magnitudes -/

/-- Finite magnitudes and that of infinity fit beside the sign. -/
theorem lt_of_le_infinite {magnitude : Nat} (h : magnitude ≤ infiniteMagnitude) :
    magnitude < 2 ^ 63 := Nat.lt_of_le_of_lt h (by decide)

theorem magnitude_ofMagnitude {magnitude : Nat} (h : magnitude < 2 ^ 63) (negative : Bool) :
    (ofMagnitude negative magnitude).magnitude = magnitude := by
  unfold Double.magnitude ofMagnitude
  rw [UInt64.toNat_ofNat']
  cases negative <;> simp only [Bool.false_eq_true, if_false, if_true] <;> omega

theorem isNegative_ofMagnitude {magnitude : Nat} (h : magnitude < 2 ^ 63) (negative : Bool) :
    (ofMagnitude negative magnitude).isNegative = negative := by
  unfold isNegative ofMagnitude
  rw [UInt64.toNat_ofNat', Nat.mod_eq_of_lt h]
  cases negative with
  | false => exact decide_eq_false (by simp only [Bool.false_eq_true, if_false]; omega)
  | true => exact decide_eq_true (by simp only [if_true]; omega)

/-- **A double is its sign and its magnitude.** -/
theorem ofMagnitude_magnitude (x : Double) : ofMagnitude x.isNegative x.magnitude = x := by
  obtain ⟨bits⟩ := x
  have hlt := bits.toNat_lt
  refine congrArg Double.mk (UInt64.toNat_inj.mp ?_)
  rw [UInt64.toNat_ofNat']
  unfold isNegative Double.magnitude
  dsimp only
  by_cases h : 2 ^ 63 ≤ bits.toNat
  · rw [decide_eq_true h, if_pos rfl]
    omega
  · rw [decide_eq_false h, if_neg (by decide)]
    omega

/-! ## Rounding a fraction -/

/-- **The magnitude nearest to `num / den`.** -/
def nearest (num den : Nat) : Nat :=
  let scaled := num * 2 ^ 1074
  let step := (scaled / den).log2 - 52
  min (step * 2 ^ 52 + roundDiv scaled (den * 2 ^ step)) infiniteMagnitude

theorem ofRatio_eq (negative : Bool) (num den : Nat) :
    ofRatio negative num den = ofMagnitude negative (nearest num den) := rfl

/-- Whatever is nearest fits beside the sign. -/
theorem nearest_lt (num den : Nat) : nearest num den < 2 ^ 63 :=
  lt_of_le_infinite (Nat.min_le_right _ _)

theorem nearest_mul_right {k : Nat} (hk : 0 < k) (num den : Nat) :
    nearest (num * k) (den * k) = nearest num den := by
  unfold nearest
  dsimp only
  rw [Nat.mul_right_comm num k, Nat.mul_div_mul_right _ _ hk, Nat.mul_right_comm den k,
    roundDiv_mul_right hk]

/-- **Rounding looks at the value of a fraction only.** -/
theorem nearest_congr {num den num' den' : Nat} (hden : 0 < den) (hden' : 0 < den')
    (h : num * den' = num' * den) : nearest num den = nearest num' den' := by
  rw [← nearest_mul_right hden' num den, ← nearest_mul_right hden num' den', h,
    Nat.mul_comm den den']

/-- What is beyond every finite double is infinite. -/
theorem nearest_of_large {num den places : Nat} (hden : 0 < den) (hplaces : 1024 ≤ places)
    (h : den * 2 ^ places ≤ num) : nearest num den = infiniteMagnitude := by
  have hshifted : ∀ n, 2 ^ (places + n) ≤ num * 2 ^ n / den := fun n => by
    rw [Nat.le_div_iff_mul_le hden, Nat.pow_add, Nat.mul_comm, ← Nat.mul_assoc]
    exact Nat.mul_le_mul_right _ h
  have hquotient := hshifted 1074
  unfold nearest
  dsimp only
  generalize num * 2 ^ 1074 = scaled at *
  have hne : scaled / den ≠ 0 := Nat.ne_of_gt
    (Nat.lt_of_lt_of_le (Nat.two_pow_pos (places + 1074)) hquotient)
  have hlog : places + 1074 ≤ (scaled / den).log2 := (Nat.le_log2 hne).mpr hquotient
  -- the quotient by the step has all its fifty-three bits
  have hrounded : 2 ^ 52 ≤ roundDiv scaled (den * 2 ^ ((scaled / den).log2 - 52)) := by
    refine Nat.le_trans ?_ (div_le_roundDiv _ _)
    rw [← Nat.div_div_eq_div_mul, Nat.le_div_iff_mul_le (Nat.two_pow_pos _), ← Nat.pow_add,
      show 52 + ((scaled / den).log2 - 52) = (scaled / den).log2 by omega]
    exact Nat.log2_self_le hne
  unfold infiniteMagnitude
  omega

/-- What has fewer binary places than the largest doubles is finite. -/
theorem nearest_lt_infinite {num den places : Nat} (hden : 0 < den) (hplaces : places < 1024)
    (h : num < den * 2 ^ places) : nearest num den < infiniteMagnitude := by
  have hquotient : num * 2 ^ 1074 / den < 2 ^ (places + 1074) := by
    rw [Nat.div_lt_iff_lt_mul hden, Nat.pow_add 2 places, Nat.mul_right_comm, Nat.mul_comm _ den]
    exact Nat.mul_lt_mul_of_pos_right h (Nat.two_pow_pos 1074)
  unfold nearest
  dsimp only
  generalize num * 2 ^ 1074 = scaled at *
  have hlog : (scaled / den).log2 < places + 1074 := by
    by_cases hzero : scaled / den = 0
    · rw [hzero, Nat.log2_zero]
      omega
    · exact (Nat.log2_lt hzero).mpr hquotient
  -- the quotient by the step has no more than its fifty-three bits
  have hbits : scaled / (den * 2 ^ ((scaled / den).log2 - 52)) < 2 ^ 53 := by
    rw [← Nat.div_div_eq_div_mul, Nat.div_lt_iff_lt_mul (Nat.two_pow_pos _), ← Nat.pow_add]
    refine Nat.lt_of_lt_of_le Nat.lt_log2_self (Nat.pow_le_pow_right (by decide) ?_)
    omega
  have hrounded := roundDiv_le scaled (den * 2 ^ ((scaled / den).log2 - 52))
  unfold infiniteMagnitude
  omega

/-- **An integer of fewer binary places than the largest doubles** is near a
finite one. -/
theorem isFinite_ofInt {n : Int} {places : Nat} (hplaces : places < 1024)
    (h : n.natAbs < 2 ^ places) : (ofInt n).isFinite = true := by
  have hnearest : nearest n.natAbs 1 < infiniteMagnitude :=
    nearest_lt_infinite Nat.one_pos hplaces (by rwa [Nat.one_mul])
  refine decide_eq_true ?_
  show (ofRatio (n < 0) n.natAbs 1).magnitude < infiniteMagnitude
  rw [ofRatio_eq, magnitude_ofMagnitude (lt_of_le_infinite (Nat.le_of_lt hnearest))]
  exact hnearest

/-- What is closer to zero than to any other double is zero. -/
theorem nearest_of_small {num den : Nat} (h : num * 2 ^ 1074 * 2 < den) : nearest num den = 0 := by
  unfold nearest
  dsimp only
  generalize num * 2 ^ 1074 = scaled at *
  rw [Nat.div_eq_of_lt (by omega), Nat.log2_zero]
  unfold roundDiv
  dsimp only
  rw [Nat.pow_zero, Nat.mul_one, Nat.div_eq_of_lt (by omega), Nat.mod_eq_of_lt (by omega),
    if_neg (by simp; omega)]
  decide

theorem nearest_zero {den : Nat} (h : 0 < den) : nearest 0 den = 0 := by
  refine nearest_of_small ?_
  generalize 2 ^ 1074 = scale
  rwa [Nat.zero_mul, Nat.zero_mul]

/-- Fifty-three bits with zeros behind them. -/
theorem log2_mul_two_pow {fraction : Nat} (hlow : 2 ^ 52 ≤ fraction) (hhigh : fraction < 2 ^ 53)
    (step : Nat) : (fraction * 2 ^ step).log2 = 52 + step := by
  have hpos := Nat.two_pow_pos step
  refine (Nat.log2_eq_iff (Nat.mul_ne_zero (by omega) (Nat.ne_of_gt hpos))).mpr ⟨?_, ?_⟩
  · rw [Nat.pow_add]
    exact Nat.mul_le_mul_right _ hlow
  · rw [Nat.add_right_comm, Nat.pow_add]
    exact (Nat.mul_lt_mul_right hpos).mpr hhigh

/-- **A double is nearest to its own value.** -/
theorem nearest_units {magnitude : Nat} (h : magnitude < infiniteMagnitude) :
    nearest (units magnitude) (2 ^ 1074) = magnitude := by
  unfold nearest
  dsimp only
  generalize hscale : 2 ^ 1074 = scale
  have hpos : 0 < scale := by
    rw [← hscale]
    exact Nat.two_pow_pos 1074
  rw [Nat.mul_div_cancel _ hpos]
  unfold units
  dsimp only
  by_cases hsmall : magnitude < 2 ^ 53
  · -- magnitudes and units coincide
    have hstep : magnitude / 2 ^ 52 - 1 = 0 := by omega
    have hlog : magnitude.log2 - 52 = 0 := by
      by_cases hzero : magnitude = 0
      · rw [hzero, Nat.log2_zero]
      · have := (Nat.log2_lt hzero).mpr hsmall
        omega
    rw [hstep, Nat.zero_mul, Nat.sub_zero, Nat.pow_zero, Nat.mul_one, hlog, Nat.pow_zero,
      Nat.mul_one, roundDiv_mul_self hpos, Nat.zero_mul, Nat.zero_add]
    exact Nat.min_eq_left (Nat.le_of_lt h)
  · generalize hstep : magnitude / 2 ^ 52 - 1 = step
    generalize hfraction : magnitude - step * 2 ^ 52 = fraction
    have hlog : (fraction * 2 ^ step).log2 = 52 + step :=
      log2_mul_two_pow (by omega) (by omega) step
    rw [hlog, Nat.add_sub_cancel_left, Nat.mul_right_comm, Nat.mul_assoc fraction,
      roundDiv_mul_self (Nat.mul_pos hpos (Nat.two_pow_pos step))]
    rw [show step * 2 ^ 52 + fraction = magnitude by omega]
    exact Nat.min_eq_left (Nat.le_of_lt h)

/-! ## Reading a decimal -/

/-- **A decimal reads as the double nearest to its value**, also where this is
decided by its exponent. -/
theorem ofDecimal_eq (negative : Bool) (coefficient : Nat) (exponent : Int) :
    ofDecimal negative coefficient exponent
      = ofMagnitude negative
        (nearest (coefficient * 10 ^ exponent.toNat) (10 ^ (-exponent).toNat)) := by
  by_cases h : coefficient = 0
  · rw [h, Nat.zero_mul, nearest_zero (Nat.pow_pos (by decide))]
    exact if_pos rfl
  unfold ofDecimal
  rw [if_neg h]
  split
  · rename_i hlarge
    obtain ⟨places, hplaces, hpower⟩ : ∃ places, 1024 ≤ places ∧ 2 ^ places ≤ 10 ^ 400 :=
      ⟨1024, Nat.le_refl _, by decide +kernel⟩
    have hlarge : 1 * 2 ^ places ≤ coefficient * 10 ^ exponent.toNat :=
      calc 1 * 2 ^ places ≤ 10 ^ 400 := by rwa [Nat.one_mul]
        _ ≤ 10 ^ exponent.toNat := Nat.pow_le_pow_right (by decide) (by omega)
        _ ≤ coefficient * 10 ^ exponent.toNat := Nat.le_mul_of_pos_left _ (Nat.pos_of_ne_zero h)
    rw [show (-exponent).toNat = 0 by omega, Nat.pow_zero,
      nearest_of_large Nat.one_pos hplaces hlarge]
    rfl
  · split
    · rename_i hsmall
      generalize hdigits : (Nat.toDigits 10 coefficient).length = digits at hsmall
      have hlt : coefficient < 10 ^ digits :=
        (Nat.length_toDigits_le_iff (by decide) (hdigits ▸ Nat.length_toDigits_pos)).mp
          (Nat.le_of_eq hdigits)
      have hpower : coefficient * 10 ^ exponent.toNat * 2 ^ 1074 * 2 < 10 ^ (-exponent).toNat := by
        rw [show exponent.toNat = 0 by omega, Nat.pow_zero, Nat.mul_one, Nat.mul_assoc]
        calc coefficient * (2 ^ 1074 * 2) < 10 ^ digits * (2 ^ 1074 * 2) :=
              (Nat.mul_lt_mul_right (by decide +kernel)).mpr hlt
          _ ≤ 10 ^ digits * 10 ^ 400 := Nat.mul_le_mul_left _ (by decide +kernel)
          _ = 10 ^ (digits + 400) := (Nat.pow_add 10 digits 400).symm
          _ ≤ 10 ^ (-exponent).toNat := Nat.pow_le_pow_right (by decide) (by omega)
      rw [nearest_of_small hpower]
      rfl
    · split
      · rw [ofRatio_eq, show (-exponent).toNat = 0 by omega, Nat.pow_zero]
      · rw [ofRatio_eq, show exponent.toNat = 0 by omega, Nat.pow_zero, Nat.mul_one]

/-- **Reading looks at the value of a decimal only**: zeros at the end of the
coefficient may go into the exponent. -/
theorem ofDecimal_shift (negative : Bool) (coefficient zeros : Nat) (exponent : Int) :
    ofDecimal negative (coefficient * 10 ^ zeros) (exponent - zeros)
      = ofDecimal negative coefficient exponent := by
  have hten : ∀ n, 0 < 10 ^ n := fun n => Nat.pow_pos (by decide)
  rw [ofDecimal_eq, ofDecimal_eq]
  refine congrArg _ (nearest_congr (hten _) (hten _) ?_)
  rw [Nat.mul_assoc, Nat.mul_assoc, Nat.mul_assoc, ← Nat.pow_add, ← Nat.pow_add, ← Nat.pow_add]
  congr 2
  omega

/-- A decimal reads as the same magnitude with either sign. -/
theorem ofDecimal_of_ofDecimal {coefficient magnitude : Nat} {exponent : Int}
    (hlt : magnitude < 2 ^ 63)
    (h : ofDecimal false coefficient exponent = ofMagnitude false magnitude) (negative : Bool) :
    ofDecimal negative coefficient exponent = ofMagnitude negative magnitude := by
  obtain ⟨m, hm, hread⟩ : ∃ m < 2 ^ 63, ∀ negative : Bool,
      ofDecimal negative coefficient exponent = ofMagnitude negative m :=
    ⟨_, nearest_lt _ _, fun _ => ofDecimal_eq _ _ _⟩
  rw [hread false] at h
  have hsame := congrArg Double.magnitude h
  rw [magnitude_ofMagnitude hm, magnitude_ofMagnitude hlt] at hsame
  rw [hread negative, hsame]

/-! ## The shortest decimal -/

/-- The exact decimal reads back. -/
theorem ofDecimal_exactDecimal {magnitude : Nat} (h : magnitude < infiniteMagnitude) :
    ofDecimal false (exactDecimal magnitude).coefficient (exactDecimal magnitude).exponent
      = ofMagnitude false magnitude := by
  have hfive : ∀ n, 0 < 5 ^ n := fun _ => Nat.pow_pos (by decide)
  have hten : ∀ n, nearest (units magnitude * 5 ^ n) (10 ^ n) = nearest (units magnitude) (2 ^ n) :=
    fun n => by rw [show 10 ^ n = 2 ^ n * 5 ^ n from Nat.mul_pow 2 5 n, nearest_mul_right (hfive n)]
  unfold exactDecimal
  dsimp only
  rw [ofDecimal_eq, show (-1074 : Int).toNat = 0 from rfl,
    show (- -1074 : Int).toNat = 1074 from rfl, Nat.pow_zero, Nat.mul_one, hten 1074,
    nearest_units h]

/-- **The decimal that is printed for a double reads back as that double**, its
sign given. -/
theorem ofDecimal_shortest (tie : Tie) {x : Double} (h : x.isFinite = true) :
    ofDecimal x.isNegative (x.shortest tie).coefficient (x.shortest tie).exponent = x := by
  have hfinite : x.magnitude < infiniteMagnitude := of_decide_eq_true h
  have hread : ofDecimal false (x.shortest tie).coefficient (x.shortest tie).exponent
      = ofMagnitude false x.magnitude := by
    unfold shortest
    split
    · rename_i hzero
      rw [beq_iff_eq.mp hzero]
      rfl
    · cases hfound : (List.range' 1 17).findSome? (decimalOfLength? tie x.magnitude) with
      | none => exact ofDecimal_exactDecimal hfinite
      | some d =>
        -- whatever is found has been tried
        obtain ⟨count, -, hcount⟩ := List.exists_of_findSome?_eq_some hfound
        obtain ⟨coefficient, hcoefficient, rfl⟩ := Option.map_eq_some_iff.mp hcount
        have hfits := List.find?_some hcoefficient
        exact beq_iff_eq.mp hfits
  rw [ofDecimal_of_ofDecimal (lt_of_le_infinite (Nat.le_of_lt hfinite)) hread,
    ofMagnitude_magnitude]

end Double
end CallScope
