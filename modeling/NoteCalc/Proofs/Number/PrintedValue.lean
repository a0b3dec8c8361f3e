import Mathlib
import NoteCalc.Proofs.Number.CanonicalDecimal

/-!
# The value of a printed number

A finite machine number is a rational number.  Its text is a canonical decimal for a number that is
at most half a thousandth away: whole numbers are printed exactly, and no text has another sign than
its number, unless it is the text of zero.
-/

namespace NoteCalc

namespace Binary64

open Float.Model (Format UnpackedFloat)
open Float.Model.UnpackedFloat (unpackExponent unpackExponent_def)

/-- The rational number that a finite machine number is. -/
def value? : Binary64 → Option ℚ
  | .finite negative significand exponent =>
      some (signed negative ((significand * Nat.pow 2 exponent : Nat) / (stepsPerOne : ℚ)))
  | .infinity _ => none
  | .notANumber => none

/-! ## Finite numbers -/

theorem isFinite_unpack_iff (bits : BitVec 64) :
    (UnpackedFloat.unpack Format.binary64 bits).isFinite = true ↔
      bits.toNat / exponentWeight % (topField + 1) ≠ topField := by
  have field : (@unpackExponent Format.binary64 bits).toNat =
      bits.toNat / exponentWeight % (topField + 1) := by
    rw [unpackExponent_def, BitVec.extractLsb'_toNat, Nat.shiftRight_eq_div_pow]
    rfl
  have isTop : @unpackExponent Format.binary64 bits = -1#11 ↔
      bits.toNat / exponentWeight % (topField + 1) = topField := by
    rw [← field, ← BitVec.toNat_inj]
    rfl
  rw [ne_eq, ← isTop]
  unfold UnpackedFloat.unpack
  simp only
  split
  · rename_i top
    split <;> exact iff_of_false Bool.false_ne_true (not_not_intro top)
  · rename_i below
    split
    · split <;> exact iff_of_true rfl below
    · exact iff_of_true rfl below

theorem exists_finite_of_isFinite {number : Float} (isFinite : number.isFinite = true) :
    ∃ negative significand exponent, ofFloat number = .finite negative significand exponent := by
  have below : number.toBits.toNat / exponentWeight % (topField + 1) ≠ topField :=
    (isFinite_unpack_iff number.toBits.toBitVec).mp isFinite
  unfold ofFloat
  simp only
  rw [if_neg below]
  split
  · exact ⟨_, _, _, rfl⟩
  · exact ⟨_, _, _, rfl⟩

end Binary64

/-! ## Magnitudes with a sign -/

theorem abs_signed_sub_signed (negative : Bool) (first second : ℚ) :
    |signed negative first - signed negative second| = |first - second| := by
  unfold signed
  split
  · rw [← neg_sub_neg, neg_neg, neg_neg, abs_sub_comm]
  · rfl

theorem sign_signed (negative : Bool) {magnitude : ℚ} (positive : 0 < magnitude) :
    SignType.sign (signed negative magnitude) = if negative then -1 else 1 := by
  unfold signed
  split
  · exact sign_neg (neg_neg_of_pos positive)
  · exact sign_pos positive

theorem exists_whole_of_signed {negative : Bool} {magnitude : ℚ}
    (isWhole : ∃ whole : ℤ, signed negative magnitude = whole) :
    ∃ whole : ℤ, magnitude = whole := by
  obtain ⟨whole, same⟩ := isWhole
  unfold signed at same
  split at same
  · refine ⟨-whole, ?_⟩
    rw [Int.cast_neg, ← same, neg_neg]
  · exact ⟨whole, same⟩

namespace Grouped

/-! ## Rounding to thousandths -/

variable {steps : Nat}

/-- The thousandths that a number of steps is rounded to. -/
def roundedThousandths (steps : Nat) : Nat :=
  roundedQuotient (steps * 1000) Binary64.stepsPerOne

theorem abs_thousandths_sub_le (steps : Nat) :
    |(roundedThousandths steps : ℚ) / 1000 - steps / Binary64.stepsPerOne| ≤ 1 / 2000 := by
  have positive := Binary64.stepsPerOne_pos
  obtain ⟨below, above⟩ := roundedQuotient_bounds (steps * 1000) Binary64.stepsPerOne positive
  unfold roundedThousandths
  generalize roundedQuotient (steps * 1000) Binary64.stepsPerOne = count at below above ⊢
  generalize Binary64.stepsPerOne = one at positive below above ⊢
  have onePositive : (0 : ℚ) < one := Nat.cast_pos.mpr positive
  have scalePositive : (0 : ℚ) < 1000 * one := by positivity
  have notBelow : (2 * (steps * 1000) : ℚ) ≤ 2 * (count * one) + one := by exact_mod_cast below
  have notAbove : (2 * (count * one) : ℚ) ≤ 2 * (steps * 1000) + one := by exact_mod_cast above
  rw [div_sub_div _ _ (by norm_num) onePositive.ne', abs_div, abs_of_pos scalePositive,
    div_le_iff₀ scalePositive, abs_le]
  constructor <;> linarith

/-- Whole numbers are not changed by rounding. -/
theorem thousandths_of_whole
    (isWhole : ∃ whole : ℤ, (steps : ℚ) / Binary64.stepsPerOne = whole) :
    (roundedThousandths steps : ℚ) / 1000 = steps / Binary64.stepsPerOne := by
  have positive := Binary64.stepsPerOne_pos
  have onePositive : (0 : ℚ) < Binary64.stepsPerOne := Nat.cast_pos.mpr positive
  obtain ⟨whole, same⟩ := isWhole
  rw [div_eq_iff onePositive.ne'] at same
  have multiple : Binary64.stepsPerOne ∣ steps := by
    apply Int.natCast_dvd_natCast.mp
    exact ⟨whole, by rw [mul_comm]; exact_mod_cast same⟩
  rw [roundedThousandths, roundedQuotient_of_steps (Nat.mod_eq_zero_of_dvd multiple),
    Nat.cast_mul, Nat.cast_div multiple onePositive.ne', Nat.cast_ofNat]
  exact mul_div_cancel_right₀ _ (by norm_num)

theorem steps_pos_of_thousandths_ne_zero (some : roundedThousandths steps ≠ 0) : 0 < steps := by
  apply Nat.pos_of_ne_zero
  rintro rfl
  exact some (roundedQuotient_of_small (by decide +kernel))

theorem sign_thousandths (negative : Bool) (some : roundedThousandths steps ≠ 0) :
    SignType.sign (signed negative ((roundedThousandths steps : ℚ) / 1000)) =
      SignType.sign (signed negative (steps / Binary64.stepsPerOne)) := by
  have count : (0 : ℚ) < roundedThousandths steps := Nat.cast_pos.mpr (Nat.pos_of_ne_zero some)
  have whole : (0 : ℚ) < steps := Nat.cast_pos.mpr (steps_pos_of_thousandths_ne_zero some)
  have one : (0 : ℚ) < Binary64.stepsPerOne := Nat.cast_pos.mpr Binary64.stepsPerOne_pos
  rw [sign_signed negative (div_pos count (by norm_num)), sign_signed negative (div_pos whole one)]

/-- The text of a finite number is that of its steps rounded to thousandths. -/
theorem exists_steps_of_isFinite {number : Float} (isFinite : number.isFinite = true) :
    ∃ negative steps,
      (formatNumber number).toList = thousandths negative (roundedThousandths steps) ∧
      (Binary64.ofFloat number).value? = some (signed negative (steps / Binary64.stepsPerOne)) := by
  obtain ⟨negative, significand, exponent, decoded⟩ := Binary64.exists_finite_of_isFinite isFinite
  refine ⟨negative, significand * Nat.pow 2 exponent, ?_, ?_⟩
  · rw [formatNumber, String.toList_ofList, decoded]
    exact characters_finite negative significand exponent
  · rw [decoded, Binary64.value?]

end Grouped

open Grouped

/-- The text of a finite number is a canonical decimal for a number that is at most half a thousandth
away.  It is exact for whole numbers, and keeps the sign of what is not rounded to zero. -/
theorem formatNumber_canonical {number : Float} (isFinite : number.isFinite = true) :
    ∃ exact : ℚ, (Binary64.ofFloat number).value? = some exact ∧
      IsCanonicalDecimal (formatNumber number).toList ∧
      |denoted (formatNumber number).toList - exact| ≤ 1 / 2000 ∧
      ((∃ whole : ℤ, exact = whole) → denoted (formatNumber number).toList = exact) ∧
      (denoted (formatNumber number).toList = 0 ∨
        SignType.sign (denoted (formatNumber number).toList) = SignType.sign exact) := by
  obtain ⟨negative, steps, isText, isExact⟩ := exists_steps_of_isFinite isFinite
  rw [isText, denoted_thousandths]
  refine ⟨_, isExact, isCanonicalDecimal_thousandths negative _, ?_, ?_, ?_⟩
  · rw [abs_signed_sub_signed]
    exact abs_thousandths_sub_le steps
  · intro isWhole
    have kept := thousandths_of_whole (exists_whole_of_signed isWhole)
    exact congrArg (signed negative) kept
  · by_cases zero : roundedThousandths steps = 0
    · left
      rw [zero]
      simp [signed]
    · right
      exact sign_thousandths negative zero

/-- A tie is rounded to the even thousandth. -/
theorem formatNumber_canonical_tie :
    (-1234.0625 : Float).isFinite = true ∧
      (Binary64.ofFloat (-1234.0625)).value? = some (-19745 / 16) ∧
      formatNumber (-1234.0625) = "-1,234.062" ∧
      IsCanonicalDecimal "-1,234.062".toList ∧
      |denoted "-1,234.062".toList - -19745 / 16| ≤ 1 / 2000 := by
  have isFinite : (-1234.0625 : Float).isFinite = true := by
    decide +kernel
  have isValue : (Binary64.ofFloat (-1234.0625)).value? = some (-19745 / 16) := by
    decide +kernel
  have isText : formatNumber (-1234.0625) = "-1,234.062" := by
    decide +kernel
  obtain ⟨exact, isExact, canonical, near, -⟩ := formatNumber_canonical isFinite
  rw [isValue, Option.some_inj] at isExact
  rw [isText] at canonical near
  rw [← isExact] at near
  exact ⟨isFinite, isValue, isText, canonical, near⟩

end NoteCalc
