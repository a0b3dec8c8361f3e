import Mathlib.Data.Nat.Digits.Defs
import NoteCalc.Proofs.Number.Rounding

/-!
# The nearest machine number

Magnitudes are compared in steps, as whole numbers.  The machine number that is computed for a
fraction is a nearest one: none of the machine numbers, and none of the numbers that the same
significands would make with larger exponents, is nearer to the fraction.
-/

namespace NoteCalc

namespace Binary64

theorem pow_two_pos (exponent : Nat) : 0 < Nat.pow 2 exponent :=
  Nat.two_pow_pos exponent

theorem pow_two_le_pow_two {exponent larger : Nat} (le : exponent ≤ larger) :
    Nat.pow 2 exponent ≤ Nat.pow 2 larger :=
  Nat.pow_le_pow_right Nat.two_pos le

theorem pow_two_add (exponent more : Nat) :
    Nat.pow 2 (exponent + more) = Nat.pow 2 exponent * Nat.pow 2 more :=
  Nat.pow_add 2 exponent more

theorem stepsPerOne_pos : 0 < stepsPerOne := by
  unfold stepsPerOne
  generalize 1074 = exponent
  exact pow_two_pos exponent

theorem stepsPerOne_le {larger : Nat} (le : 1074 ≤ larger) : stepsPerOne ≤ Nat.pow 2 larger := by
  unfold stepsPerOne
  generalize 1074 = exponent at le
  exact pow_two_le_pow_two le

/-- The exponent of the machine number nearest to a fraction, before the significand is rounded. -/
def nearestExponent (numerator denominator : Nat) : Nat :=
  (numerator * stepsPerOne / denominator).log2 - 52

/-- The significand of the machine number nearest to a fraction. -/
def nearestSignificand (numerator denominator : Nat) : Nat :=
  roundedQuotient (numerator * stepsPerOne)
    (denominator * Nat.pow 2 (nearestExponent numerator denominator))

/-- The steps of the machine number nearest to a fraction, if the exponents had no end. -/
def nearestSteps (numerator denominator : Nat) : Nat :=
  nearestSignificand numerator denominator * Nat.pow 2 (nearestExponent numerator denominator)

theorem nearestMagnitude_eq (numerator denominator : Nat) :
    nearestMagnitude numerator denominator =
      min (nearestExponent numerator denominator * exponentWeight +
        nearestSignificand numerator denominator) (topField * exponentWeight) :=
  rfl

/-! ## The significand -/

section Significand

variable {numerator denominator : Nat}

theorem unit_pos (positive : 0 < denominator) (exponent : Nat) :
    0 < denominator * Nat.pow 2 exponent :=
  Nat.mul_pos positive (pow_two_pos exponent)

/-- The exponent is large enough for fifty-three bits of significand. -/
theorem lt_significandEnd (positive : 0 < denominator) :
    numerator * stepsPerOne <
      Nat.pow 2 53 * (denominator * Nat.pow 2 (nearestExponent numerator denominator)) := by
  have logarithm := Nat.lt_log2_self (n := numerator * stepsPerOne / denominator)
  have exponent : (numerator * stepsPerOne / denominator).log2 + 1 ≤
      53 + nearestExponent numerator denominator := by
    unfold nearestExponent
    omega
  have quotient := Nat.lt_of_lt_of_le logarithm (pow_two_le_pow_two exponent)
  rw [Nat.div_lt_iff_lt_mul positive, pow_two_add] at quotient
  calc numerator * stepsPerOne
      < Nat.pow 2 53 * Nat.pow 2 (nearestExponent numerator denominator) * denominator := quotient
    _ = Nat.pow 2 53 * (denominator * Nat.pow 2 (nearestExponent numerator denominator)) := by
        ring

/-- An exponent above zero is not larger than needed. -/
theorem significandStart_le (positive : 0 < denominator)
    (scaled : 0 < nearestExponent numerator denominator) :
    exponentWeight * (denominator * Nat.pow 2 (nearestExponent numerator denominator)) ≤
      numerator * stepsPerOne := by
  have exponent : (numerator * stepsPerOne / denominator).log2 =
      52 + nearestExponent numerator denominator := by
    unfold nearestExponent at scaled ⊢
    omega
  have some : numerator * stepsPerOne / denominator ≠ 0 := by
    intro zero
    rw [zero, Nat.log2_zero] at exponent
    omega
  have quotient := Nat.log2_self_le some
  rw [exponent, Nat.le_div_iff_mul_le positive, Nat.pow_add] at quotient
  calc exponentWeight * (denominator * Nat.pow 2 (nearestExponent numerator denominator))
      = Nat.pow 2 52 * Nat.pow 2 (nearestExponent numerator denominator) * denominator := by
        unfold exponentWeight
        ring
    _ ≤ numerator * stepsPerOne := quotient

theorem nearestSignificand_le (positive : 0 < denominator) :
    nearestSignificand numerator denominator ≤ Nat.pow 2 53 :=
  roundedQuotient_le (unit_pos positive _) (Nat.le_of_lt (lt_significandEnd positive))

theorem le_nearestSignificand (positive : 0 < denominator)
    (scaled : 0 < nearestExponent numerator denominator) :
    exponentWeight ≤ nearestSignificand numerator denominator :=
  le_roundedQuotient (unit_pos positive _) (significandStart_le positive scaled)

/-- No number with a significand of fifty-three bits is nearer to a fraction than the one that is
computed for it. -/
theorem dist_nearestSteps_le (positive : 0 < denominator) {significand : Nat}
    (short : significand < Nat.pow 2 53) (exponent : Nat) :
    Nat.dist (nearestSteps numerator denominator * denominator) (numerator * stepsPerOne) ≤
      Nat.dist (significand * Nat.pow 2 exponent * denominator) (numerator * stepsPerOne) := by
  have isMultiple : nearestSteps numerator denominator * denominator =
      nearestSignificand numerator denominator *
        (denominator * Nat.pow 2 (nearestExponent numerator denominator)) := by
    unfold nearestSteps
    ring
  have nearest (whole : Nat) :
      Nat.dist (nearestSignificand numerator denominator *
          (denominator * Nat.pow 2 (nearestExponent numerator denominator)))
          (numerator * stepsPerOne) ≤
        Nat.dist (whole * (denominator * Nat.pow 2 (nearestExponent numerator denominator)))
          (numerator * stepsPerOne) :=
    dist_roundedQuotient_le (unit_pos positive _) whole
  rw [isMultiple]
  rcases Nat.lt_or_ge exponent (nearestExponent numerator denominator) with finer | coarser
  · -- A smaller exponent leaves the number below the least significand of full length.
    have scaled : 0 < nearestExponent numerator denominator := by omega
    have start := significandStart_le positive scaled
    have below : significand * Nat.pow 2 exponent * denominator ≤
        exponentWeight * (denominator * Nat.pow 2 (nearestExponent numerator denominator)) := by
      have doubled : Nat.pow 2 (exponent + 1) ≤
          Nat.pow 2 (nearestExponent numerator denominator) := pow_two_le_pow_two finer
      calc significand * Nat.pow 2 exponent * denominator
          ≤ Nat.pow 2 53 * Nat.pow 2 exponent * denominator := by gcongr
        _ = exponentWeight * (denominator * Nat.pow 2 (exponent + 1)) := by
            rw [pow_two_add 52 1, pow_two_add exponent 1]
            unfold exponentWeight
            ring
        _ ≤ exponentWeight *
              (denominator * Nat.pow 2 (nearestExponent numerator denominator)) := by gcongr
    refine Nat.le_trans (nearest exponentWeight) ?_
    unfold Nat.dist
    omega
  · have isMultipleToo : significand * Nat.pow 2 exponent * denominator =
        significand * Nat.pow 2 (exponent - nearestExponent numerator denominator) *
          (denominator * Nat.pow 2 (nearestExponent numerator denominator)) := by
      have split : Nat.pow 2 exponent =
          Nat.pow 2 (exponent - nearestExponent numerator denominator) *
            Nat.pow 2 (nearestExponent numerator denominator) := by
        rw [← pow_two_add, Nat.sub_add_cancel coarser]
      rw [split]
      ring
    rw [isMultipleToo]
    exact nearest _

/-- The nearest machine number depends on the value of a fraction only. -/
theorem nearestMagnitude_mul_right {factor : Nat} (positive : 0 < denominator)
    (nonzero : 0 < factor) :
    nearestMagnitude (numerator * factor) (denominator * factor) =
      nearestMagnitude numerator denominator := by
  have steps : numerator * factor * stepsPerOne = numerator * stepsPerOne * factor := by ring
  have exponent : nearestExponent (numerator * factor) (denominator * factor) =
      nearestExponent numerator denominator := by
    unfold nearestExponent
    rw [steps, Nat.mul_div_mul_right _ _ nonzero]
  have unit : denominator * factor * Nat.pow 2 (nearestExponent numerator denominator) =
      denominator * Nat.pow 2 (nearestExponent numerator denominator) * factor := by ring
  have significand : nearestSignificand (numerator * factor) (denominator * factor) =
      nearestSignificand numerator denominator := by
    unfold nearestSignificand
    rw [exponent, steps, unit, roundedQuotient_mul_right (unit_pos positive _) nonzero]
  rw [nearestMagnitude_eq, exponent, significand, ← nearestMagnitude_eq]

theorem nearest_mul_right {factor : Nat} (negative : Bool) (positive : 0 < denominator)
    (nonzero : 0 < factor) :
    nearest negative (numerator * factor) (denominator * factor) =
      nearest negative numerator denominator := by
  simp only [nearest, nearestMagnitude_mul_right positive nonzero]

theorem nearestMagnitude_zero : nearestMagnitude 0 denominator = 0 := by
  simp [nearestMagnitude, roundedQuotient, Nat.log2_zero]

end Significand

/-! ## Thousandths -/

/-- The machine number nearest to the thousandths that a machine number rounds to is in range and
rounds to the same thousandths: it is not farther from them than the one they come from. -/
theorem thousandths_kept {significand exponent count : Nat} (short : significand < Nat.pow 2 53)
    (inRange : exponent + 2 ≤ topField)
    (isCount : roundedQuotient (significand * Nat.pow 2 exponent * 1000) stepsPerOne = count) :
    nearestSteps count 1000 < Nat.pow 2 53 * Nat.pow 2 (topField - 2) ∧
      roundedQuotient (nearestSteps count 1000 * 1000) stepsPerOne = count := by
  have nearer : Nat.dist (nearestSteps count 1000 * 1000) (count * stepsPerOne) ≤
      Nat.dist (significand * Nat.pow 2 exponent * 1000) (count * stepsPerOne) :=
    dist_nearestSteps_le (by decide) short exponent
  constructor
  · have bounds := roundedQuotient_bounds (significand * Nat.pow 2 exponent * 1000) stepsPerOne
      stepsPerOne_pos
    rw [isCount] at bounds
    have power : Nat.pow 2 exponent ≤ Nat.pow 2 (topField - 2) := pow_two_le_pow_two (by omega)
    have step : stepsPerOne ≤ Nat.pow 2 (topField - 2) := stepsPerOne_le (by decide)
    have scaled := Nat.mul_le_mul_left significand power
    have largest := Nat.mul_le_mul_right (Nat.pow 2 (topField - 2)) (Nat.succ_le_of_lt short)
    rw [Nat.succ_mul] at largest
    have positive := stepsPerOne_pos
    unfold Nat.dist at nearer
    omega
  · refine roundedQuotient_eq_of_dist_le stepsPerOne_pos isCount ?_
    rw [Nat.dist_comm, Nat.dist_comm (count * stepsPerOne)]
    exact nearer

/-! ## Decimals -/

/-- Decimal places divide by a power of ten. -/
theorem ofDecimal_places {significand places : Nat} (few : places ≤ 330)
    (inRange : significand < Nat.pow 10 310 * Nat.pow 10 places) (negative : Bool) :
    ofDecimal negative significand (0 - places) =
      nearest negative significand (Nat.pow 10 places) := by
  have some : 0 < 310 + places := by omega
  have length : (Nat.toDigits 10 significand).length ≤ 310 + places := by
    generalize 310 = exponent at inRange some ⊢
    apply Nat.toDigits_length 10 significand (exponent + places) some
    rw [Nat.pow_add]
    exact inRange
  unfold ofDecimal
  simp only
  by_cases zero : significand = 0
  · rw [if_pos (.inl zero), zero]
    simp only [nearest, nearestMagnitude_zero]
  · rw [if_neg (by omega), if_neg (by omega)]
    cases places with
    | zero => simp
    | succ places =>
        rw [if_neg (by omega)]
        have power : (-(0 - ((places + 1 : Nat) : Int))).toNat = places + 1 := by omega
        rw [power]

/-- A decimal with a few places is a number of thousandths. -/
theorem ofDecimal_thousandths {significand places scale count : Nat} (few : places ≤ 330)
    (scaled : Nat.pow 10 places * scale = 1000) (value : significand * scale = count)
    (inRange : count < Nat.pow 10 310 * 1000) (negative : Bool) :
    ofDecimal negative significand (0 - places) = nearest negative count 1000 := by
  have positive : 0 < scale := by
    apply Nat.pos_of_ne_zero
    rintro rfl
    exact absurd scaled (by simp)
  have short : significand < Nat.pow 10 310 * Nat.pow 10 places := by
    generalize Nat.pow 10 310 = bound at inRange ⊢
    by_contra long
    have scaledUp := Nat.mul_le_mul_right scale (Nat.le_of_not_lt long)
    rw [Nat.mul_assoc, scaled] at scaledUp
    omega
  have power : 0 < Nat.pow 10 places := Nat.pow_pos (by decide)
  rw [ofDecimal_places few short, ← scaled, ← value, nearest_mul_right negative power positive]

end Binary64

end NoteCalc
