import LinkedQuery.Number.Decimal
import LinkedQuery.Proofs.Number.Rounding

/-!
Contract: the shortest decimal of a binary64 number reads back as that number.

Owns:
- decimals of one value: zeros moved between the digits and the exponent, and
  the sign apart from the magnitude;
- the grid of seventeen significant digits around a magnitude, on which the
  nearest decimal always reads back;
- the shortest decimal, with its trailing zeros removed.

Does not own: the layout of a decimal as text.
-/

namespace LinkedQuery

namespace Double

/-! ## Decimals of one value -/

variable {negative : Bool} {digits ordinal : Nat} {exponent : Int}

theorem ofDecimal_zero : ofDecimal negative 0 exponent = zeroOf negative := rfl

/-- Within four hundred places a decimal is rounded as a fraction. -/
theorem ofDecimal_eq_ofFraction
    (nonzero : digits ≠ 0)
    (least : -400 ≤ ((Nat.toDigits 10 digits).length : Int) + exponent)
    (most : ((Nat.toDigits 10 digits).length : Int) + exponent ≤ 400) :
    ofDecimal negative digits exponent =
      if 0 ≤ exponent then
        ofFraction negative (digits * 10 ^ exponent.toNat) 1
      else
        ofFraction negative digits (10 ^ (-exponent).toNat) := by
  unfold ofDecimal
  simp only [Nat.pow_eq]
  rw [if_neg (by simp [nonzero, least]), if_neg (by omega)]

theorem length_toDigits_mul_ten (nonzero : digits ≠ 0) :
    (Nat.toDigits 10 (digits * 10)).length = (Nat.toDigits 10 digits).length + 1 := by
  have appended :=
    Nat.toDigits_append_toDigits (b := 10) (d := 0) (by decide) (Nat.pos_of_ne_zero nonzero)
      (by decide)
  rw [Nat.mul_comm digits 10, ← Nat.add_zero (10 * digits), ← appended]
  simp

/-- A zero at the end of the digits counts as one in the exponent. -/
theorem ofDecimal_mul_ten :
    ofDecimal negative (digits * 10) exponent = ofDecimal negative digits (exponent + 1) := by
  by_cases zero : digits = 0
  · rw [zero, Nat.zero_mul, ofDecimal_zero, ofDecimal_zero]
  · have longer := length_toDigits_mul_ten zero
    have places :
        (((Nat.toDigits 10 digits).length + 1 : Nat) : Int) + exponent =
          ((Nat.toDigits 10 digits).length : Int) + (exponent + 1) := by
      omega
    have same :
        (if 0 ≤ exponent then
            ofFraction negative (digits * 10 * 10 ^ exponent.toNat) 1
          else
            ofFraction negative (digits * 10) (10 ^ (-exponent).toNat)) =
          if 0 ≤ exponent + 1 then
            ofFraction negative (digits * 10 ^ (exponent + 1).toNat) 1
          else
            ofFraction negative digits (10 ^ (-(exponent + 1)).toNat) := by
      by_cases whole : 0 ≤ exponent
      · obtain ⟨power, rfl⟩ := Int.eq_ofNat_of_zero_le whole
        rw [if_pos whole, if_pos (by omega), Int.toNat_natCast_add_one, Int.toNat_natCast,
          Nat.pow_succ, Nat.mul_assoc, Nat.mul_comm 10]
      · obtain ⟨count, count_eq⟩ : ∃ count : Nat, -exponent = count + 1 :=
          ⟨(-exponent - 1).toNat, by omega⟩
        have shorter : -(exponent + 1) = count := by omega
        rw [if_neg whole, count_eq, shorter, Int.toNat_natCast_add_one, Nat.pow_succ,
          ofFraction_mul_right (by decide), Int.toNat_natCast]
        by_cases last : 0 ≤ exponent + 1
        · obtain rfl : count = 0 := by omega
          obtain rfl : exponent = -1 := by omega
          rw [if_pos last, Int.add_left_neg, Int.toNat_zero, Nat.pow_zero, Nat.mul_one]
        · rw [if_neg last]
    unfold ofDecimal
    simp only [longer, places, Nat.pow_eq, same, zero, Nat.mul_eq_zero, Nat.reduceEqDiff, or_self]

theorem ofDecimal_mul_pow (count : Nat) :
    ofDecimal negative (digits * 10 ^ count) exponent =
      ofDecimal negative digits (exponent + count) := by
  induction count generalizing exponent with
  | zero => rw [Nat.pow_zero, Nat.mul_one, Int.natCast_zero, Int.add_zero]
  | succ count inductionHypothesis =>
      rw [Nat.pow_succ, ← Nat.mul_assoc, ofDecimal_mul_ten, inductionHypothesis, Int.natCast_add,
        Int.add_assoc, Int.add_comm 1]
      rfl

/-- The sign of a decimal is that of its number. -/
theorem exists_ordinal (digits : Nat) (exponent : Int) :
    ∃ ordinal, ∀ negative, ofDecimal negative digits exponent = ofOrdinal negative ordinal := by
  unfold ofDecimal
  simp only
  split_ifs
  · exact ⟨0, fun negative => rfl⟩
  · exact ⟨magnitudes, fun negative => rfl⟩
  · exact ⟨_, fun negative => rfl⟩
  · exact ⟨_, fun negative => rfl⟩

theorem ofDecimal_of_magnitude
    (inRange : ordinal < magnitudes)
    (readsBack : ofDecimal false digits exponent = ofOrdinal false ordinal)
    (negative : Bool) :
    ofDecimal negative digits exponent = ofOrdinal negative ordinal := by
  obtain ⟨other, rounded⟩ := exists_ordinal digits exponent
  rw [rounded false] at readsBack
  rw [rounded negative, ofOrdinal_injective inRange readsBack]

end Double

namespace Decimal

open Double

/-! ## The grid of seventeen digits -/

variable {ordinal units significand shift numerator denominator digits : Nat} {exponent : Int}

/-- The leading power is the one of the first digit, counted after the magnitude
was scaled up so that it is at least one. -/
theorem leadingPower_eq (positive : 0 < units) :
    ∃ places scale : Nat,
      leadingPower units = places - scale ∧
      scale ≤ 330 ∧
      unitsPerOne * 10 ^ places ≤ units * 10 ^ scale ∧
      units * 10 ^ scale < unitsPerOne * 10 ^ (places + 1) := by
  have unitsPositive : 0 < unitsPerOne := by decide +kernel
  obtain ⟨places, places_eq⟩ :=
    Nat.exists_eq_add_one.mpr
      (Nat.length_toDigits_pos (b := 10) (n := units * 10 ^ 330 / unitsPerOne))
  refine ⟨places, 330, ?_, Nat.le_refl 330, ?_, ?_⟩
  · unfold leadingPower
    simp only [Nat.pow_eq, places_eq]
    omega
  · rw [Nat.mul_comm, ← Nat.le_div_iff_mul_le unitsPositive]
    by_cases first : places = 0
    · rw [first, Nat.pow_zero, Nat.le_div_iff_mul_le unitsPositive, Nat.one_mul]
      calc
        unitsPerOne ≤ 10 ^ 330 := by decide +kernel
        _ ≤ units * 10 ^ 330 := Nat.le_mul_of_pos_left _ positive
    · apply Nat.le_of_not_lt
      intro below
      have short :=
        (Nat.length_toDigits_le_iff (by decide) (Nat.pos_of_ne_zero first)).mpr below
      omega
  · rw [Nat.mul_comm unitsPerOne, ← Nat.div_lt_iff_lt_mul unitsPositive,
      ← Nat.length_toDigits_le_iff (by decide) (Nat.succ_pos places), places_eq]

/-- On the grid whose exponent lies `count` below the leading power, a magnitude
has `count` digits after its first one. -/
theorem onGrid_bounds
    {count : Nat}
    (positive : 0 < units)
    (grid : onGrid units (leadingPower units - count) = (numerator, denominator)) :
    denominator * 10 ^ count ≤ numerator ∧ numerator < denominator * 10 ^ (count + 1) := by
  obtain ⟨places, scale, leading, -, least, most⟩ := leadingPower_eq positive
  unfold onGrid at grid
  simp only [Nat.pow_eq] at grid
  split_ifs at grid with whole
  · obtain ⟨rfl, rfl⟩ := Prod.mk.inj grid
    obtain ⟨power, power_eq⟩ := Int.eq_ofNat_of_zero_le whole
    have total : places = power + (count + scale) := by omega
    rw [power_eq, Int.toNat_natCast]
    constructor
    · apply Nat.le_of_mul_le_mul_right _ (Nat.pow_pos (n := scale) (show 0 < 10 by decide))
      calc
        unitsPerOne * 10 ^ power * 10 ^ count * 10 ^ scale = unitsPerOne * 10 ^ places := by
          rw [total]
          ring
        _ ≤ units * 10 ^ scale := least
    · apply Nat.lt_of_mul_lt_mul_right (a := 10 ^ scale)
      calc
        units * 10 ^ scale < unitsPerOne * 10 ^ (places + 1) := most
        _ = unitsPerOne * 10 ^ power * 10 ^ (count + 1) * 10 ^ scale := by
          rw [total]
          ring
  · obtain ⟨rfl, rfl⟩ := Prod.mk.inj grid
    obtain ⟨power, power_eq⟩ : ∃ power : Nat, -(leadingPower units - count) = power :=
      ⟨(-(leadingPower units - count)).toNat, by omega⟩
    have total : power + places = scale + count := by omega
    have unscaled : units * 10 ^ power * 10 ^ places = units * 10 ^ scale * 10 ^ count := by
      rw [Nat.mul_assoc, ← Nat.pow_add, total]
      ring
    rw [power_eq, Int.toNat_natCast]
    constructor
    · apply Nat.le_of_mul_le_mul_right _ (Nat.pow_pos (n := places) (show 0 < 10 by decide))
      calc
        unitsPerOne * 10 ^ count * 10 ^ places = unitsPerOne * 10 ^ places * 10 ^ count := by ring
        _ ≤ units * 10 ^ scale * 10 ^ count := Nat.mul_le_mul_right _ least
        _ = units * 10 ^ power * 10 ^ places := unscaled.symm
    · apply Nat.lt_of_mul_lt_mul_right (a := 10 ^ places)
      calc
        units * 10 ^ power * 10 ^ places = units * 10 ^ scale * 10 ^ count := unscaled
        _ < unitsPerOne * 10 ^ (places + 1) * 10 ^ count :=
          Nat.mul_lt_mul_of_pos_right most (Nat.pow_pos (by decide))
        _ = unitsPerOne * 10 ^ (count + 1) * 10 ^ places := by ring

theorem onGrid_denominator_pos (grid : onGrid units exponent = (numerator, denominator)) :
    0 < denominator := by
  have unitsPositive : 0 < unitsPerOne := by decide +kernel
  unfold onGrid at grid
  simp only [Nat.pow_eq] at grid
  split_ifs at grid
  · rw [← (Prod.mk.inj grid).2]
    exact Nat.mul_pos unitsPositive (Nat.pow_pos (by decide))
  · rwa [← (Prod.mk.inj grid).2]

/-- The powers of ten between which the first digits of all finite magnitudes
lie. -/
theorem leadingPower_bounds
    (scaled : Scaled ordinal significand shift)
    (inRange : ordinal < magnitudes)
    (positive : 0 < unitsOf ordinal) :
    -330 ≤ leadingPower (unitsOf ordinal) ∧ leadingPower (unitsOf ordinal) < 310 := by
  obtain ⟨places, scale, leading, small, least, -⟩ := leadingPower_eq positive
  -- The greatest shift is kept as a variable: its power of two is too large to
  -- be evaluated in passing.
  obtain ⟨greatest, greatest_eq, top⟩ :
      ∃ greatest : Nat, greatest = 2045 ∧ 2 ^ (53 + greatest) ≤ unitsPerOne * 10 ^ 310 :=
    ⟨2045, rfl, by decide +kernel⟩
  have shift_le : shift ≤ greatest := by
    have split := scaled.ordinal_eq
    have large := scaled.shift_eq_or_le
    simp only [magnitudes, fractions] at inRange split large
    omega
  have bounded : unitsOf ordinal < unitsPerOne * 10 ^ 310 := by
    rw [scaled.units_eq]
    calc
      significand * 2 ^ shift < 2 ^ 53 * 2 ^ shift :=
        Nat.mul_lt_mul_of_pos_right scaled.significand_lt (Nat.two_pow_pos shift)
      _ = 2 ^ (53 + shift) := (Nat.pow_add 2 53 shift).symm
      _ ≤ 2 ^ (53 + greatest) :=
        Nat.pow_le_pow_right (by decide) (Nat.add_le_add_left shift_le 53)
      _ ≤ unitsPerOne * 10 ^ 310 := top
  have powers : 10 ^ places < 10 ^ (310 + scale) := by
    apply Nat.lt_of_mul_lt_mul_left (a := unitsPerOne)
    calc
      unitsPerOne * 10 ^ places ≤ unitsOf ordinal * 10 ^ scale := least
      _ < unitsPerOne * 10 ^ 310 * 10 ^ scale :=
        Nat.mul_lt_mul_of_pos_right bounded (Nat.pow_pos (by decide))
      _ = unitsPerOne * 10 ^ (310 + scale) := by rw [Nat.mul_assoc, Nat.pow_add]
  have places_lt := (Nat.pow_lt_pow_iff_right (by decide)).mp powers
  omega

/-- A decimal of a magnitude's grid as the fraction that is rounded: its distance
from the magnitude is the one on the grid. -/
theorem ofDecimal_onGrid
    (negative : Bool)
    (grid : onGrid units exponent = (numerator, denominator))
    (nonzero : digits ≠ 0)
    (least : -400 ≤ ((Nat.toDigits 10 digits).length : Int) + exponent)
    (most : ((Nat.toDigits 10 digits).length : Int) + exponent ≤ 400) :
    ∃ above below,
      ofDecimal negative digits exponent = ofFraction negative above below ∧
      above * unitsPerOne = digits * denominator ∧
      units * below = numerator := by
  rw [ofDecimal_eq_ofFraction nonzero least most]
  unfold onGrid at grid
  simp only [Nat.pow_eq] at grid
  split_ifs at grid ⊢
  · obtain ⟨rfl, rfl⟩ := Prod.mk.inj grid
    exact ⟨_, _, rfl, by ring, Nat.mul_one units⟩
  · obtain ⟨rfl, rfl⟩ := Prod.mk.inj grid
    exact ⟨_, _, rfl, rfl, rfl⟩

/-- Of seventeen significant digits, the nearest ones read back. -/
theorem ofDecimal_nearest
    (negative : Bool)
    (inRange : ordinal < magnitudes)
    (positive : 0 < unitsOf ordinal)
    (grid :
      onGrid (unitsOf ordinal) (leadingPower (unitsOf ordinal) - (16 : Nat)) =
        (numerator, denominator)) :
    ofDecimal negative (roundQuotient numerator denominator)
        (leadingPower (unitsOf ordinal) - (16 : Nat)) =
      ofOrdinal negative ordinal := by
  obtain ⟨significand, shift, scaled⟩ := exists_scaled ordinal
  obtain ⟨powerLeast, powerMost⟩ := leadingPower_bounds scaled inRange positive
  obtain ⟨digitsLeast, digitsMost⟩ := onGrid_bounds positive grid
  have denominatorPositive := onGrid_denominator_pos grid
  obtain ⟨low, high⟩ := roundQuotient_error numerator denominatorPositive
  generalize roundQuotient numerator denominator = digits at low high ⊢
  have nonzero : digits ≠ 0 := by
    rintro rfl
    omega
  have small : digits < 10 ^ 18 := by
    apply Nat.lt_of_not_le
    intro large
    have := Nat.mul_le_mul_right denominator large
    omega
  have length_le := (Nat.length_toDigits_le_iff (b := 10) (by decide) (by decide)).mpr small
  obtain ⟨above, below, fraction, above_eq, below_eq⟩ :=
    ofDecimal_onGrid negative grid nonzero (by omega) (by omega)
  have product : significand * (below * 2 ^ shift) = numerator := by
    rw [← below_eq, scaled.units_eq]
    ring
  -- Sixteen digits after the first one leave less than a step of rounding, and
  -- at a power of two less than half a step.
  have significand_lt := scaled.significand_lt
  have positiveStep : 0 < below * 2 ^ shift := by
    apply Nat.pos_of_ne_zero
    intro zero
    rw [zero] at product
    omega
  have fine : denominator < below * 2 ^ shift := by
    have bounded := Nat.mul_lt_mul_of_pos_right significand_lt positiveStep
    simp only [fractions] at bounded
    omega
  have finer : significand = fractions → 2 * denominator < below * 2 ^ shift := by
    intro power
    simp only [power, fractions] at product
    omega
  rw [fraction]
  apply ofFraction_of_near scaled rfl
  · rw [above_eq, product]
    omega
  · rw [above_eq, product]
    omega
  · intro power
    have := finer power
    rw [above_eq, product]
    omega

/-! ## The shortest decimal -/

theorem ofDecimal_of_nearestOnGrid
    {decimal : Decimal}
    (found : nearestOnGrid ordinal units exponent = some decimal) :
    ofDecimal false decimal.digits decimal.exponent = ofOrdinal false ordinal := by
  unfold nearestOnGrid at found
  cases grid : onGrid units exponent with
  | mk numerator denominator =>
      simp only [grid] at found
      split_ifs at found with nearer below farther farther
      · rw [← Option.some.inj found]
        exact eq_of_beq nearer
      · rw [← Option.some.inj found]
        exact eq_of_beq farther
      · rw [← Option.some.inj found]
        exact eq_of_beq farther

theorem exists_nearestOnGrid
    (grid : onGrid units exponent = (numerator, denominator))
    (readsBack :
      ofDecimal false (roundQuotient numerator denominator) exponent = ofOrdinal false ordinal) :
    ∃ decimal, nearestOnGrid ordinal units exponent = some decimal := by
  unfold nearestOnGrid
  simp only [grid]
  rw [if_pos]
  · exact ⟨_, rfl⟩
  · rw [readsBack]
    exact beq_self_eq_true _

theorem exists_nearestReadingBack
    (inRange : ordinal < magnitudes)
    (positive : 0 < unitsOf ordinal) :
    ∃ decimal, nearestReadingBack ordinal (unitsOf ordinal) 17 = some decimal := by
  have exponent_eq :
      leadingPower (unitsOf ordinal) - ((17 : Nat) : Int) + 1 =
        leadingPower (unitsOf ordinal) - (16 : Nat) := by
    omega
  rw [nearestReadingBack, exponent_eq]
  exact exists_nearestOnGrid Prod.mk.eta.symm
    (ofDecimal_nearest false inRange positive Prod.mk.eta.symm)

/-- Zeros taken off the end keep the value of digits that are not zero. -/
theorem ofDecimal_withoutTrailingZeros
    (negative : Bool)
    (places : Nat)
    (decimal : Decimal)
    (nonzero : decimal.digits ≠ 0) :
    (withoutTrailingZeros places decimal).digits ≠ 0 ∧
      ofDecimal negative (withoutTrailingZeros places decimal).digits
          (withoutTrailingZeros places decimal).exponent =
        ofDecimal negative decimal.digits decimal.exponent := by
  induction places generalizing decimal with
  | zero => exact ⟨nonzero, rfl⟩
  | succ places inductionHypothesis =>
      rw [withoutTrailingZeros]
      split_ifs with trailing
      · simp only [Bool.and_eq_true, beq_iff_eq] at trailing
        obtain ⟨shorter, whole⟩ := Nat.dvd_of_mod_eq_zero trailing.2
        rw [Nat.mul_comm] at whole
        have quotient : decimal.digits / 10 = shorter := by omega
        obtain ⟨kept, same⟩ :=
          inductionHypothesis ⟨decimal.digits / 10, decimal.exponent + 1⟩ (by simp only; omega)
        refine ⟨kept, same.trans ?_⟩
        rw [quotient, whole, ofDecimal_mul_ten]
      · exact ⟨nonzero, rfl⟩

/-- The shortest decimal of a positive finite magnitude reads back as that
magnitude with either sign. -/
theorem ofDecimal_shortest
    (negative : Bool)
    (inRange : ordinal < magnitudes)
    (nonzero : ordinal ≠ 0) :
    (shortest ordinal).digits ≠ 0 ∧
      ofDecimal negative (shortest ordinal).digits (shortest ordinal).exponent =
        ofOrdinal negative ordinal := by
  obtain ⟨best, reads⟩ := exists_nearestReadingBack inRange (unitsOf_pos nonzero)
  obtain ⟨candidate, found⟩ :
      ∃ candidate,
        ((List.range 17).findSome? fun missing =>
          nearestReadingBack ordinal (unitsOf ordinal) (missing + 1)) = some candidate := by
    apply Option.ne_none_iff_exists'.mp
    intro none
    have missed := List.findSome?_eq_none_iff.mp none 16 (List.mem_range.mpr (by decide))
    rw [reads] at missed
    cases missed
  obtain ⟨missing, -, nearest⟩ := List.exists_of_findSome?_eq_some found
  have readsBack :=
    ofDecimal_of_magnitude inRange (ofDecimal_of_nearestOnGrid nearest)
  have candidate_nonzero : candidate.digits ≠ 0 := by
    intro zero
    have zeros := readsBack false
    rw [zero, ofDecimal_zero] at zeros
    exact nonzero (ofOrdinal_injective (show ordinal < magnitudes from inRange)
      (show ofOrdinal false 0 = _ from zeros)).symm
  have shortest_eq : shortest ordinal = normalized candidate := by
    simp only [shortest, found, Option.getD_some]
  obtain ⟨kept, same⟩ :=
    ofDecimal_withoutTrailingZeros negative (Nat.toDigits 10 candidate.digits).length candidate
      candidate_nonzero
  rw [shortest_eq]
  exact ⟨kept, same.trans (readsBack negative)⟩

end Decimal

end LinkedQuery
