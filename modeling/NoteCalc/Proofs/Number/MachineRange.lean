import Mathlib
import NoteCalc.Number.Scalar

/-!
# Machine numbers away from zero

A product or quotient of two numbers that are not zero can be zero, if it is smaller than the
smallest machine number.  How near to zero a number can be is measured by its scale, the exponent
that it has with a significand of full length.  The scale of a product or a quotient is known up to
two from those of its parts, as long as it is that of a machine number.  What is not negligible has
so large a scale that several products and quotients with moderate numbers leave it different from
zero.
-/

namespace NoteCalc

open Float.Model (Format UnpackedFloat totalExponent)
open Float.Model.UnpackedFloat

/-- A number is finite, has a sign, and its scale is between two bounds.  Zero has no scale. -/
inductive Within (sign : Sign) (low high : Int) : UnpackedFloat → Prop where
  | finite {mantissa : Nat} {exponent : Int} {positive : 0 < mantissa}
      (full : mantissa.log2 = 52) (le : low ≤ exponent) (le' : exponent ≤ high) :
      Within sign low high (.finite sign mantissa exponent positive)

/-- A number is not finite, or has at least a scale. -/
inductive Reaches (scale : Int) : UnpackedFloat → Prop where
  | infinity {sign : Sign} : Reaches scale (.infinity sign)
  | notANumber : Reaches scale .notANumber
  | finite {sign : Sign} {high : Int} {number : UnpackedFloat}
      (within : Within sign scale high number) : Reaches scale number

instance (low high : Int) : DecidablePred (Within .positive low high)
  | .finite .positive mantissa exponent _ =>
      decidable_of_iff (mantissa.log2 = 52 ∧ low ≤ exponent ∧ exponent ≤ high)
        ⟨fun ⟨full, le, le'⟩ => .finite full le le', fun ⟨full, le, le'⟩ => ⟨full, le, le'⟩⟩
  | .finite .negative .. | .zero _ | .infinity _ | .notANumber => .isFalse (by rintro ⟨⟩)

variable {sign otherSign : Sign} {mantissa : Nat} {exponent scale low high otherLow otherHigh : Int}

theorem Within.mono {less more : Int} {number : UnpackedFloat}
    (within : Within sign low high number) (lower : less ≤ low) (upper : high ≤ more) :
    Within sign less more number := by
  cases within with
  | finite full le le' => exact .finite full (lower.trans le) (le'.trans upper)

theorem Reaches.mono {less : Int} {number : UnpackedFloat} (reaches : Reaches scale number)
    (lower : less ≤ scale) : Reaches less number := by
  cases reaches with
  | infinity => exact .infinity
  | notANumber => exact .notANumber
  | finite within => exact .finite (within.mono lower (Int.le_refl _))

/-! ## Rounding -/

theorem mantissa_shiftRight (extended : ExtendedMantissa) (count : Nat) :
    (extended >>> count).mantissa = extended.mantissa / 2 ^ count := by
  induction count with
  | zero => simp [HShiftRight.hShiftRight, Nat.repeat]
  | succ count induction =>
      change (extended >>> count).shiftRightOne.mantissa = _
      rw [ExtendedMantissa.shiftRightOne, induction, Nat.div_div_eq_div_mul, Nat.pow_succ]

theorem mantissa_ofMantissaAndAccuracy (mantissa : Nat) (accuracy : Accuracy) :
    (ExtendedMantissa.ofMantissaAndAccuracy mantissa accuracy).mantissa = mantissa := by
  fun_cases ExtendedMantissa.ofMantissaAndAccuracy <;> rfl

theorem le_roundToNearestEven (mantissa : Nat) (accuracy : Accuracy) :
    mantissa ≤ accuracy.roundToNearestEven mantissa := by
  fun_cases Accuracy.roundToNearestEven <;> omega

theorem roundToNearestEven_le (mantissa : Nat) (accuracy : Accuracy) :
    accuracy.roundToNearestEven mantissa ≤ mantissa + 1 := by
  fun_cases Accuracy.roundToNearestEven <;> omega

theorem le_log2_iff : 52 ≤ mantissa.log2 ↔ 2 ^ 52 ≤ mantissa := by
  rcases Nat.eq_zero_or_pos mantissa with rfl | positive
  · decide
  · exact Nat.le_log2 (Nat.ne_of_gt positive)

theorem lt_of_log2_eq (full : mantissa.log2 = 52) : mantissa < 2 ^ 53 := by
  have bound := Nat.lt_log2_self (n := mantissa)
  rwa [full] at bound

theorem log2_div_two_pow (long : 52 ≤ mantissa.log2) :
    (mantissa / 2 ^ (mantissa.log2 - 52)).log2 = 52 := by
  have notZero : mantissa ≠ 0 := Nat.ne_of_gt ((Nat.two_pow_pos 52).trans_le (le_log2_iff.mp long))
  have lower : 2 ^ 52 ≤ mantissa / 2 ^ (mantissa.log2 - 52) := by
    rw [Nat.le_div_iff_mul_le (Nat.two_pow_pos _), ← Nat.pow_add, Nat.add_sub_cancel' long]
    exact Nat.log2_self_le notZero
  have upper : mantissa / 2 ^ (mantissa.log2 - 52) < 2 ^ (52 + 1) := by
    rw [Nat.div_lt_iff_lt_mul (Nat.two_pow_pos _), ← Nat.pow_add, Nat.add_right_comm,
      Nat.add_sub_cancel' long]
    exact Nat.lt_log2_self
  exact (Nat.log2_eq_iff (by omega)).mpr ⟨lower, upper⟩

theorem targetExponent_eq (inRange : -1074 ≤ exponent + (mantissa.log2 - 52 : Int)) :
    Format.binary64.targetExponent (totalExponent mantissa exponent) =
      exponent + (mantissa.log2 - 52 : Int) := by
  have least : Format.binary64.minExponent = -1074 := by decide
  have bits : (Format.binary64.mantissaBits : Int) = 53 := by decide
  rw [Format.targetExponent, totalExponent, least, bits]
  omega

/-- A significand of more than full length is cut to full length. -/
theorem shiftToTargetExponent_of_long (accuracy : Accuracy) (long : 52 ≤ mantissa.log2)
    (inRange : -1074 ≤ exponent + (mantissa.log2 - 52 : Int)) :
    (shiftToTargetExponent Format.binary64 mantissa exponent accuracy).1.mantissa.log2 = 52 ∧
      (shiftToTargetExponent Format.binary64 mantissa exponent accuracy).2 =
        exponent + (mantissa.log2 - 52 : Int) := by
  have amount : (exponent + (mantissa.log2 - 52 : Int) - exponent).toNat = mantissa.log2 - 52 := by
    omega
  rw [shiftToTargetExponent, targetExponent_eq inRange, shiftToExponent]
  simp only [amount, mantissa_shiftRight, mantissa_ofMantissaAndAccuracy]
  exact ⟨log2_div_two_pow long, by omega⟩

/-- Rounding gives the scale that the number has, or the next one: it may carry into one bit more,
so that the significand is cut a second time. -/
theorem within_roundWithAccuracy (sign : Sign) (accuracy : Accuracy) (long : 52 ≤ mantissa.log2)
    (inRange : -1074 ≤ exponent + (mantissa.log2 - 52 : Int)) :
    Within sign (exponent + (mantissa.log2 - 52 : Int)) (exponent + (mantissa.log2 - 51 : Int))
      (roundWithAccuracy Format.binary64 sign mantissa exponent accuracy) := by
  obtain ⟨full, cut⟩ := shiftToTargetExponent_of_long accuracy long inRange
  unfold roundWithAccuracy
  generalize shiftToTargetExponent Format.binary64 mantissa exponent accuracy = shifted at full cut
  obtain ⟨extended, shiftedExponent⟩ := shifted
  change extended.mantissa.log2 = 52 at full
  have lower : 52 ≤ extended.roundedMantissa.log2 :=
    le_log2_iff.mpr ((le_log2_iff.mp (Nat.le_of_eq full.symm)).trans (le_roundToNearestEven _ _))
  have upper : extended.roundedMantissa.log2 < 54 := by
    have short := lt_of_log2_eq full
    have rounded := roundToNearestEven_le extended.mantissa extended.accuracy
    exact (Nat.log2_lt (by rintro zero; simp [zero] at lower)).mpr (by
      rw [ExtendedMantissa.roundedMantissa]
      omega)
  change shiftedExponent = _ at cut
  have inRangeToo : -1074 ≤ shiftedExponent + (extended.roundedMantissa.log2 - 52 : Int) := by omega
  obtain ⟨fullToo, cutToo⟩ := shiftToTargetExponent_of_long .exact lower inRangeToo
  simp only
  split
  · rename_i vanishes
    rw [vanishes] at fullToo
    exact absurd fullToo (by decide)
  · refine .finite fullToo ?_ ?_ <;> rw [cutToo] <;> omega

/-! ## Packing -/

@[simp]
theorem unpack_packedInfinity :
    unpack Format.binary64 (packedInfinity Format.binary64 sign) = .infinity sign := by
  simp [unpack, packedInfinity]

theorem log2_append (fraction : BitVec 52) : (1#1 ++ fraction).toNat.log2 = 52 := by
  have short := fraction.isLt
  have leading : (1#1 ++ fraction).toNat = 2 ^ 52 + fraction.toNat := by
    rw [BitVec.toNat_append, Nat.shiftLeft_eq, Nat.mul_comm]
    exact (Nat.two_pow_add_eq_or_of_lt short 1).symm
  rw [leading]
  exact (Nat.log2_eq_iff (by omega)).mpr ⟨by omega, by omega⟩

/-- A number above the smallest ones keeps its sign and scale when it is packed, unless it is too
large and becomes infinite. -/
theorem Within.pack_cases {number : UnpackedFloat} (within : Within sign low high number)
    (inRange : -1074 ≤ low) :
    Within sign low high (unpack Format.binary64 (number.pack Format.binary64)) ∨
      (971 < high ∧ unpack Format.binary64 (number.pack Format.binary64) = .infinity sign) := by
  have bias : (Format.binary64.exponentBias : Int) = 1023 := by decide
  have bits : Format.binary64.mantissaBits = 53 := by decide
  cases within with
  | @finite mantissa exponent _ full le le' =>
      simp only [UnpackedFloat.pack, full, bits, bias]
      split
      · exact .inr ⟨by omega, unpack_packedInfinity⟩
      · rename_i small
        refine .inl ?_
        generalize isBiased : (exponent + 1023 + (52 : Nat)).toNat = biased at small
        have field : (BitVec.ofNat 11 biased).toNat = biased := Nat.mod_eq_of_lt (by omega)
        have notTop : BitVec.ofNat 11 biased ≠ -1#11 := by
          intro top
          rw [top] at field
          change 2047 = biased at field
          omega
        have notLeast : BitVec.ofNat 11 biased ≠ 0#11 := by
          intro least
          rw [least] at field
          change 0 = biased at field
          omega
        simp only [if_true, unpack, unpackExponent_packComponents, unpackMantissa_packComponents,
          unpackSign_packComponents, Sign.ofBitVec_toBitVec, notTop, notLeast, if_false, field,
          bias]
        exact .finite (log2_append _) (by omega) (by omega)

theorem Within.pack {number : UnpackedFloat} (within : Within sign low high number)
    (inRange : -1074 ≤ low) (small : high ≤ 971) :
    Within sign low high (unpack Format.binary64 (number.pack Format.binary64)) := by
  rcases within.pack_cases inRange with kept | ⟨large, -⟩
  · exact kept
  · omega

theorem Reaches.pack {number : UnpackedFloat} (reaches : Reaches scale number)
    (inRange : -1074 ≤ scale) :
    Reaches scale (unpack Format.binary64 (number.pack Format.binary64)) := by
  cases reaches with
  | infinity =>
      rw [UnpackedFloat.pack, unpack_packedInfinity]
      exact .infinity
  | notANumber =>
      rw [UnpackedFloat.pack, unpack_packedNaN]
      exact .notANumber
  | finite within =>
      rcases within.pack_cases inRange with kept | ⟨-, infinite⟩
      · exact .finite kept
      · rw [infinite]
        exact .infinity

/-! ## Products and quotients -/

theorem Within.mul {left right : UnpackedFloat} (within : Within sign low high left)
    (withinToo : Within otherSign otherLow otherHigh right)
    (inRange : -1074 ≤ low + otherLow + 52) :
    Within (sign * otherSign) (low + otherLow + 52) (high + otherHigh + 54)
      (left.mul Format.binary64 right) := by
  cases within with
  | @finite mantissa _ _ full le le' =>
      cases withinToo with
      | @finite otherMantissa _ _ otherFull otherLe otherLe' =>
          have lower : 104 ≤ (mantissa * otherMantissa).log2 := by
            have product := Nat.mul_le_mul (le_log2_iff.mp (Nat.le_of_eq full.symm))
              (le_log2_iff.mp (Nat.le_of_eq otherFull.symm))
            exact (Nat.le_log2 (by omega)).mpr product
          have upper : (mantissa * otherMantissa).log2 < 106 := by
            have product := Nat.mul_lt_mul'' (lt_of_log2_eq full) (lt_of_log2_eq otherFull)
            exact (Nat.log2_lt (by rintro zero; simp [zero] at lower)).mpr product
          exact (within_roundWithAccuracy _ _ (by omega) (by omega)).mono (by omega) (by omega)

theorem Within.div {left right : UnpackedFloat} (within : Within sign low high left)
    (withinToo : Within otherSign otherLow otherHigh right)
    (inRange : -1074 ≤ low - otherHigh - 53) :
    Within (sign / otherSign) (low - otherHigh - 53) (high - otherLow - 51)
      (left.div Format.binary64 right) := by
  cases within with
  | @finite mantissa exponent _ full le le' =>
      cases withinToo with
      | @finite divisor divisorExponent positive divisorFull divisorLe divisorLe' =>
          have target : Format.binary64.targetExponent (totalExponent mantissa exponent -
              totalExponent divisor divisorExponent) = exponent - divisorExponent - 53 := by
            have least : Format.binary64.minExponent = -1074 := by decide
            have bits : (Format.binary64.mantissaBits : Int) = 53 := by decide
            rw [Format.targetExponent, totalExponent, totalExponent, full, divisorFull, least, bits]
            omega
          have shift : (exponent - divisorExponent -
              min (exponent - divisorExponent) (exponent - divisorExponent - 53)).toNat = 53 := by
            omega
          have above := le_log2_iff.mp (Nat.le_of_eq full.symm)
          have below := lt_of_log2_eq full
          have divisorAbove := le_log2_iff.mp (Nat.le_of_eq divisorFull.symm)
          have divisorBelow := lt_of_log2_eq divisorFull
          have lower : 52 ≤ (mantissa <<< 53 / divisor).log2 := by
            rw [le_log2_iff, Nat.le_div_iff_mul_le positive, Nat.shiftLeft_eq]
            omega
          have upper : (mantissa <<< 53 / divisor).log2 < 54 := by
            refine (Nat.log2_lt (by rintro zero; simp [zero] at lower)).mpr ?_
            rw [Nat.div_lt_iff_lt_mul positive, Nat.shiftLeft_eq]
            omega
          simp only [UnpackedFloat.div, divCore, target, shift]
          exact (within_roundWithAccuracy _ _ lower (by omega)).mono (by omega) (by omega)

/-- A product with a finite number. -/
theorem Reaches.mul {left right : Float} (reaches : Reaches scale left.toModel.unpack)
    (within : Within otherSign otherLow otherHigh right.toModel.unpack)
    (inRange : -1074 ≤ scale + otherLow + 52) :
    Reaches (scale + otherLow + 52) (left * right).toModel.unpack := by
  change Reaches _ (unpack Format.binary64 (UnpackedFloat.pack Format.binary64
    (UnpackedFloat.mul Format.binary64 left.toModel.unpack right.toModel.unpack)))
  refine Reaches.pack ?_ inRange
  generalize left.toModel.unpack = unpacked at reaches
  generalize right.toModel.unpack = factor at within
  cases reaches with
  | infinity =>
      cases within
      exact .infinity
  | notANumber => exact .notANumber
  | finite finite => exact .finite (finite.mul within inRange)

/-- A quotient by a finite number. -/
theorem Reaches.div {left right : Float} (reaches : Reaches scale left.toModel.unpack)
    (within : Within otherSign otherLow otherHigh right.toModel.unpack)
    (inRange : -1074 ≤ scale - otherHigh - 53) :
    Reaches (scale - otherHigh - 53) (left / right).toModel.unpack := by
  change Reaches _ (unpack Format.binary64 (UnpackedFloat.pack Format.binary64
    (UnpackedFloat.div Format.binary64 left.toModel.unpack right.toModel.unpack)))
  refine Reaches.pack ?_ inRange
  generalize left.toModel.unpack = unpacked at reaches
  generalize right.toModel.unpack = divisor at within
  cases reaches with
  | infinity =>
      cases within
      exact .infinity
  | notANumber => exact .notANumber
  | finite finite => exact .finite (finite.div within inRange)

/-- A number that has a scale is not zero. -/
theorem Reaches.beq_zero {number : Float} (reaches : Reaches scale number.toModel.unpack) :
    (number == 0) = false := by
  change UnpackedFloat.beq number.toModel.unpack (.zero .positive) = false
  generalize number.toModel.unpack = unpacked at reaches
  cases reaches with
  | @infinity sign => cases sign <;> rfl
  | notANumber => rfl
  | @finite sign _ _ within =>
      cases within
      cases sign <;> rfl

/-! ## What is not negligible -/

theorem unpack_clearSign (bits : BitVec Format.binary64.numBits) :
    unpack Format.binary64
        (packComponents Format.binary64 .positive (unpackExponent bits) (unpackMantissa bits)) =
      (unpack Format.binary64 bits).abs := by
  simp only [unpack, unpackExponent_packComponents, unpackMantissa_packComponents,
    unpackSign_packComponents, Sign.ofBitVec_toBitVec]
  split
  · split <;> rfl
  · split
    · split <;> rfl
    · rfl

/-- The magnitude of a machine number is a machine number. -/
theorem unpack_abs (number : Float) : number.abs.toModel.unpack = number.toModel.unpack.abs := by
  change unpack Format.binary64 (UnpackedFloat.pack Format.binary64
    (unpack Format.binary64 number.toModel.toBits.toBitVec).abs) =
      (unpack Format.binary64 number.toModel.toBits.toBitVec).abs
  rw [← unpack_clearSign, pack_unpack]
  split
  · rename_i isNaN
    rw [isNaNBits, decide_eq_true_eq] at isNaN
    rw [unpack_packedNaN, unpack]
    simp only [isNaN, if_true]
    rfl
  · rfl

/-- Only the smallest machine numbers have a significand that is not full. -/
theorem full_of_unpack {number : Float} {positive : 0 < mantissa}
    (unpacked : number.toModel.unpack = .finite sign mantissa exponent positive)
    (above : -1074 < exponent) : mantissa.log2 = 52 := by
  have bias : (Format.binary64.exponentBias : Int) = 1023 := by decide
  rw [Float.Model.unpack, unpack] at unpacked
  split at unpacked
  · split at unpacked <;> cases unpacked
  · split at unpacked
    · rename_i least
      split at unpacked
      · cases unpacked
      · injection unpacked with _ _ isExponent
        rw [least, bias] at isExponent
        change (0 : Int) - (1023 + 52) + 1 = exponent at isExponent
        omega
    · injection unpacked with _ isMantissa
      rw [← isMantissa]
      exact log2_append _

theorem within_machineEpsilon :
    Within .positive (-104) (-104) machineEpsilon.toModel.unpack := by
  decide +kernel

/-- A number that is not negligible has at least the scale of the machine epsilon. -/
theorem reaches_of_not_negligible {number : Float}
    (notNegligible : Scalar.isNegligible number = false) :
    Reaches (-104) number.toModel.unpack := by
  have notLess : UnpackedFloat.lt number.abs.toModel.unpack machineEpsilon.toModel.unpack =
      false := by
    refine Bool.eq_false_iff.mpr fun less => of_decide_eq_false notNegligible ?_
    exact decide_eq_true less
  rw [unpack_abs] at notLess
  have isEpsilon := within_machineEpsilon
  generalize machineEpsilon.toModel.unpack = epsilon at isEpsilon notLess
  cases isEpsilon with
  | @finite epsilonMantissa epsilonExponent _ _ ge le =>
      cases unpacked : number.toModel.unpack with
      | infinity sign => exact .infinity
      | notANumber => exact .notANumber
      | zero sign =>
          rw [unpacked] at notLess
          cases notLess
      | finite sign mantissa exponent positive =>
          have reached : -104 ≤ exponent := by
            by_contra below
            have less : compare exponent epsilonExponent = .lt :=
              Int.compare_eq_lt.mpr (by omega)
            rw [unpacked] at notLess
            simp [UnpackedFloat.lt, UnpackedFloat.abs, UnpackedFloat.compare, less] at notLess
          have full := full_of_unpack unpacked (by omega)
          exact .finite (.finite full reached (Int.le_refl _))

end NoteCalc
