import LinkedQuery.Number.Double
import Mathlib.Tactic.Ring

/-!
Contract: when rounding to binary64 gives back a number.

Owns:
- the rounded quotient: its distance from the quotient, the one number that is
  nearer than a half, and common factors;
- the significand and the shift of an ordinal;
- the fractions around a finite number that are rounded to it.

Does not own: decimals.
-/

namespace LinkedQuery.Double

/-! ## Rounded quotients -/

section Quotient

variable {numerator denominator target factor : Nat}

/-- A rounded quotient is off by at most a half. -/
theorem roundQuotient_error (numerator : Nat) (positive : 0 < denominator) :
    2 * numerator ≤ 2 * (roundQuotient numerator denominator * denominator) + denominator ∧
      2 * (roundQuotient numerator denominator * denominator) ≤ 2 * numerator + denominator := by
  have division := Nat.div_add_mod' numerator denominator
  have remainderBelow := Nat.mod_lt numerator positive
  unfold roundQuotient
  simp only
  split_ifs with low high
  · omega
  · rw [Nat.add_mul]
    omega
  · have parity : numerator / denominator % 2 = 0 ∨ numerator / denominator % 2 = 1 := by omega
    rw [Nat.add_mul]
    rcases parity with even | odd
    · rw [even]
      omega
    · rw [odd]
      omega

/-- A quotient is rounded to the number from which it is off by less than a
half. -/
theorem roundQuotient_of_near
    (above : 2 * numerator < 2 * (target * denominator) + denominator)
    (below : 2 * (target * denominator) < 2 * numerator + denominator) :
    roundQuotient numerator denominator = target := by
  have positive : 0 < denominator := by omega
  by_cases reached : target * denominator ≤ numerator
  · have quotient : numerator / denominator = target := by
      apply Nat.div_eq_of_lt_le reached
      rw [Nat.add_mul]
      omega
    have division := Nat.div_add_mod' numerator denominator
    rw [quotient] at division
    unfold roundQuotient
    simp only [quotient]
    rw [if_pos (by omega)]
  · obtain ⟨less, rfl⟩ : ∃ less, target = less + 1 := by
      apply Nat.exists_eq_add_one.mpr
      apply Nat.pos_of_ne_zero
      rintro rfl
      omega
    rw [Nat.add_mul] at above below reached
    have quotient : numerator / denominator = less := by
      apply Nat.div_eq_of_lt_le
      · omega
      · rw [Nat.add_mul]
        omega
    have division := Nat.div_add_mod' numerator denominator
    rw [quotient] at division
    unfold roundQuotient
    simp only [quotient]
    rw [if_neg (by omega), if_pos (by omega)]

theorem roundQuotient_mul_right (positive : 0 < factor) :
    roundQuotient (numerator * factor) (denominator * factor) =
      roundQuotient numerator denominator := by
  have low :
      2 * (numerator % denominator * factor) < denominator * factor ↔
        2 * (numerator % denominator) < denominator := by
    rw [← Nat.mul_assoc, Nat.mul_lt_mul_right positive]
  have high :
      denominator * factor < 2 * (numerator % denominator * factor) ↔
        denominator < 2 * (numerator % denominator) := by
    rw [← Nat.mul_assoc, Nat.mul_lt_mul_right positive]
  unfold roundQuotient
  simp only [Nat.mul_div_mul_right _ _ positive, Nat.mul_mod_mul_right, low, high]

end Quotient

/-! ## Ordinals in binary -/

/-- The significand and the shift of an ordinal: the magnitude is
`significand * 2 ^ shift` least units, and only a magnitude without a shift may
have a small significand. -/
structure Scaled (ordinal significand shift : Nat) : Prop where
  ordinal_eq : ordinal = shift * fractions + significand
  units_eq : unitsOf ordinal = significand * 2 ^ shift
  significand_lt : significand < 2 * fractions
  shift_eq_or_le : shift = 0 ∨ fractions ≤ significand

theorem exists_scaled (ordinal : Nat) : ∃ significand shift, Scaled ordinal significand shift := by
  have parts := Nat.div_add_mod' ordinal fractions
  have below := Nat.mod_lt ordinal (show 0 < fractions by decide)
  by_cases small : ordinal < fractions
  · refine ⟨ordinal, 0, by omega, ?_, by omega, .inl rfl⟩
    rw [unitsOf, if_pos small, Nat.pow_zero, Nat.mul_one]
  · have positive : 0 < ordinal / fractions :=
      Nat.div_pos (Nat.le_of_not_lt small) (by decide)
    obtain ⟨shift, blocks⟩ := Nat.exists_eq_add_one.mpr positive
    refine ⟨fractions + ordinal % fractions, shift, ?_, ?_, by omega, .inr (by omega)⟩
    · rw [blocks, Nat.add_mul] at parts
      omega
    · rw [unitsOf, if_neg small, blocks, Nat.add_sub_cancel, Nat.shiftLeft_eq]

theorem unitsOf_pos {ordinal : Nat} (nonzero : ordinal ≠ 0) : 0 < unitsOf ordinal := by
  obtain ⟨significand, shift, scaled⟩ := exists_scaled ordinal
  rw [scaled.units_eq]
  apply Nat.mul_pos _ (Nat.two_pow_pos shift)
  rcases scaled.shift_eq_or_le with rfl | large
  · have := scaled.ordinal_eq
    omega
  · exact Nat.lt_of_lt_of_le (by decide) large

/-! ## Fractions around a number -/

theorem ofOrdinal_injective
    {negative : Bool}
    {left right : Nat}
    (inRange : right < magnitudes)
    (same : ofOrdinal negative left = ofOrdinal negative right) :
    left = right := by
  unfold ofOrdinal at same
  rw [dif_pos (show right < 9218868437227405312 from inRange)] at same
  split_ifs at same with leftInRange
  simpa using same

/-- The shift of a quotient whose significand takes all binary places, or that
needs no shift. -/
theorem log2_add_one_sub {quotient shift : Nat}
    (least : shift = 0 ∨ 2 ^ (shift + 52) ≤ quotient)
    (most : quotient < 2 ^ (shift + 53)) :
    quotient.log2 + 1 - 53 = shift := by
  rcases least with rfl | least
  · by_cases zero : quotient = 0
    · rw [zero]
      rfl
    · have := (Nat.log2_lt zero).mpr most
      omega
  · have nonzero : quotient ≠ 0 := by
      have := Nat.two_pow_pos (shift + 52)
      omega
    have places : quotient.log2 = shift + 52 := (Nat.log2_eq_iff nonzero).mpr ⟨least, most⟩
    omega

section Fraction

variable {negative : Bool} {numerator denominator ordinal significand shift : Nat}

theorem ofFraction_mul_right {factor : Nat} (positive : 0 < factor) :
    ofFraction negative (numerator * factor) (denominator * factor) =
      ofFraction negative numerator denominator := by
  unfold ofFraction
  simp only [Nat.mul_right_comm numerator factor, Nat.mul_div_mul_right _ _ positive,
    Nat.shiftLeft_eq, Nat.mul_right_comm denominator factor, roundQuotient_mul_right positive]

/-- A fraction is rounded to `significand * 2 ^ shift` least units if `2 ^ shift`
of them are the step of rounding there and the fraction is nearer than half a
step. -/
theorem ofFraction_of_step
    {step : Nat}
    (step_eq : step = denominator * 2 ^ shift)
    (least : shift = 0 ∨ fractions * step ≤ numerator * unitsPerOne)
    (most : numerator * unitsPerOne < 2 * fractions * step)
    (above : 2 * (numerator * unitsPerOne) < 2 * (significand * step) + step)
    (below : 2 * (significand * step) < 2 * (numerator * unitsPerOne) + step) :
    ofFraction negative numerator denominator =
      ofOrdinal negative (shift * fractions + significand) := by
  have positive : 0 < denominator := by
    apply Nat.pos_of_ne_zero
    rintro rfl
    rw [Nat.zero_mul] at step_eq
    omega
  have fullStep : 2 ^ (shift + 52) * denominator = fractions * step := by
    rw [step_eq, Nat.pow_add, show (2 : Nat) ^ 52 = fractions from rfl]
    ring
  have nextStep : 2 ^ (shift + 53) * denominator = 2 * fractions * step := by
    rw [Nat.pow_succ, Nat.mul_right_comm, fullStep]
    ring
  have shifted : (numerator * unitsPerOne / denominator).log2 + 1 - 53 = shift := by
    apply log2_add_one_sub
    · apply least.imp_right
      intro full
      rwa [Nat.le_div_iff_mul_le positive, fullStep]
    · rwa [Nat.div_lt_iff_lt_mul positive, nextStep]
  unfold ofFraction
  simp only [shifted, Nat.shiftLeft_eq, ← step_eq, roundQuotient_of_near above below]

/-- A fraction is rounded to a number from which it is off by less than half a
step. Below a power of two the steps have half the width, so that the fraction
has to be twice as near there. -/
theorem ofFraction_of_near
    {step : Nat}
    (scaled : Scaled ordinal significand shift)
    (step_eq : step = denominator * 2 ^ shift)
    (above : 2 * (numerator * unitsPerOne) < 2 * (significand * step) + step)
    (below : 2 * (significand * step) < 2 * (numerator * unitsPerOne) + step)
    (belowPower :
      significand = fractions →
        4 * (significand * step) < 4 * (numerator * unitsPerOne) + step) :
    ofFraction negative numerator denominator = ofOrdinal negative ordinal := by
  have bounded : significand * step + step ≤ 2 * fractions * step := by
    rw [← Nat.succ_mul]
    exact Nat.mul_le_mul_right step scaled.significand_lt
  rw [scaled.ordinal_eq]
  by_cases full : shift = 0 ∨ fractions * step ≤ numerator * unitsPerOne
  · exact ofFraction_of_step step_eq full (by omega) above below
  · -- The fraction lies below the least one of this shift, so the number is a
    -- power of two and the fraction is rounded at the shift before.
    obtain ⟨shifted, short⟩ := not_or.mp full
    have large := scaled.shift_eq_or_le.resolve_left shifted
    have least : significand = fractions := by
      rcases Nat.eq_or_lt_of_le large with same | greater
      · exact same.symm
      · have next := Nat.mul_le_mul_right step greater
        rw [Nat.succ_mul] at next
        omega
    obtain ⟨before, rfl⟩ := Nat.exists_eq_add_one.mpr (Nat.pos_of_ne_zero shifted)
    obtain ⟨half, half_eq⟩ : ∃ half, half = denominator * 2 ^ before := ⟨_, rfl⟩
    have step_eq_double : step = 2 * half := by
      rw [step_eq, half_eq, Nat.pow_succ]
      ring
    have nearer := belowPower least
    have product : fractions * step = 2 * fractions * half := by
      rw [step_eq_double]
      ring
    rw [least, product] at nearer
    rw [product] at short
    rw [least, show (before + 1) * fractions + fractions = before * fractions + 2 * fractions by ring]
    have wide : half ≤ fractions * half := Nat.le_mul_of_pos_left half (by decide)
    rw [Nat.mul_assoc] at nearer short
    apply ofFraction_of_step half_eq
    · right
      omega
    · rw [Nat.mul_assoc]
      omega
    · rw [Nat.mul_assoc]
      omega
    · rw [Nat.mul_assoc]
      omega

end Fraction

end LinkedQuery.Double
