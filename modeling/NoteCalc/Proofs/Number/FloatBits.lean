import Mathlib
import NoteCalc.Proofs.Number.NearestFloat

/-!
# The bits of a machine number

A machine number keeps the bits it is made of, as long as they are not those of something that is no
number.  What is computed for a fraction is therefore read back as the steps it was computed with,
unless it exceeds all machine numbers.
-/

namespace NoteCalc

namespace Binary64

open Float.Model (Format)
open Float.Model.UnpackedFloat (unpackExponent_def unpackMantissa_def pack_unpack_of_valid)

/-- The bits of the infinities and of all finite numbers are kept. -/
theorem toNat_toBits_ofBits {bits : Nat} (small : bits < Nat.pow 2 64)
    (isNumber : bits / exponentWeight % (topField + 1) = topField → bits % exponentWeight = 0) :
    (Float.ofBits (UInt64.ofNat bits)).toBits.toNat = bits := by
  have same : (UInt64.ofNat bits).toBitVec.toNat = bits := Nat.mod_eq_of_lt small
  have valid : Format.binary64.Valid (UInt64.ofNat bits).toBitVec := by
    constructor
    intro isTop hasFraction
    have field : bits / exponentWeight % (topField + 1) = topField := by
      have exponent := congrArg BitVec.toNat isTop
      rw [unpackExponent_def, BitVec.extractLsb'_toNat, same, Nat.shiftRight_eq_div_pow] at exponent
      exact exponent
    have fraction : bits % exponentWeight ≠ 0 := by
      have mantissa := mt BitVec.eq_of_toNat_eq hasFraction
      rw [unpackMantissa_def, BitVec.extractLsb'_toNat, same, Nat.shiftRight_zero] at mantissa
      exact mantissa
    exact absurd (isNumber field) fraction
  have kept : (Float.ofBits (UInt64.ofNat bits)).toBits = UInt64.ofNat bits :=
    UInt64.toBitVec_inj.mp (pack_unpack_of_valid valid)
  rw [kept]
  exact same

/-- A sign and a magnitude that is not too large are read off the bits that they make. -/
theorem ofFloat_ofBits (negative : Bool) {magnitude : Nat}
    (small : magnitude < topField * exponentWeight) :
    ofFloat (Float.ofBits
        (UInt64.ofNat (if negative then signWeight + magnitude else magnitude))) =
      if magnitude / exponentWeight = 0 then .finite negative (magnitude % exponentWeight) 0
      else .finite negative (exponentWeight + magnitude % exponentWeight)
        (magnitude / exponentWeight - 1) := by
  have weight : 0 < exponentWeight := by decide
  have sign : signWeight = exponentWeight * (topField + 1) := by decide
  have field : magnitude / exponentWeight < topField := (Nat.div_lt_iff_lt_mul weight).mpr small
  have bound : topField * exponentWeight < signWeight := by decide
  have double : signWeight + signWeight = Nat.pow 2 64 := by decide
  generalize isBits : (if negative then signWeight + magnitude else magnitude) = bits
  have fits : bits < Nat.pow 2 64 := by
    cases negative <;> simp only [Bool.false_eq_true, if_true, if_false] at isBits <;> omega
  have bitsField : bits / exponentWeight % (topField + 1) = magnitude / exponentWeight := by
    have short : magnitude / exponentWeight % (topField + 1) = magnitude / exponentWeight :=
      Nat.mod_eq_of_lt (by omega)
    cases negative with
    | false => rw [← isBits]; exact short
    | true =>
        rw [← isBits, if_pos rfl, sign, Nat.mul_add_div weight, Nat.add_mod_left]
        exact short
  have bitsFraction : bits % exponentWeight = magnitude % exponentWeight := by
    cases negative with
    | false => rw [← isBits]; rfl
    | true => rw [← isBits, if_pos rfl, sign, Nat.mul_add_mod]
  have bitsSign : decide (signWeight ≤ bits) = negative := by
    cases negative <;> simp only [Bool.false_eq_true, if_true, if_false] at isBits <;>
      simp only [decide_eq_true_eq, decide_eq_false_iff_not] <;> omega
  have kept := toNat_toBits_ofBits fits (by omega)
  unfold ofFloat
  simp only [kept, bitsField, bitsFraction, bitsSign]
  rw [if_neg (Nat.ne_of_lt field)]

/-- A finite machine number has fifty-three bits of significand and leaves the top exponent to the
infinities. -/
theorem bounds_of_ofFloat {number : Float} {negative : Bool} {significand exponent : Nat}
    (isFinite : ofFloat number = .finite negative significand exponent) :
    significand < Nat.pow 2 53 ∧ exponent + 2 ≤ topField := by
  have fraction := Nat.mod_lt number.toBits.toNat (show 0 < exponentWeight by decide)
  have field :=
    Nat.mod_lt (number.toBits.toNat / exponentWeight) (show 0 < topField + 1 by decide)
  have weight : Nat.pow 2 53 = exponentWeight + exponentWeight := by decide
  have top : topField = 2047 := rfl
  rw [weight]
  unfold ofFloat at isFinite
  simp only at isFinite
  split at isFinite
  · split at isFinite <;> exact absurd isFinite (by simp)
  · split at isFinite
    · injection isFinite with _ isSignificand isExponent
      omega
    · injection isFinite with _ isSignificand isExponent
      omega

/-- A carry out of the significand is a carry into the exponent. -/
theorem exists_decoded (negative : Bool) {exponent significand : Nat}
    (short : significand ≤ exponentWeight + exponentWeight)
    (full : 0 < exponent → exponentWeight ≤ significand) :
    ∃ decoded scale,
      (if (exponent * exponentWeight + significand) / exponentWeight = 0 then
        Binary64.finite negative ((exponent * exponentWeight + significand) % exponentWeight) 0
      else .finite negative
        (exponentWeight + (exponent * exponentWeight + significand) % exponentWeight)
        ((exponent * exponentWeight + significand) / exponentWeight - 1)) =
        .finite negative decoded scale ∧
      decoded * Nat.pow 2 scale = significand * Nat.pow 2 exponent := by
  have weight : 0 < exponentWeight := by decide
  rcases Nat.lt_or_ge significand exponentWeight with subnormal | normal
  · have unscaled : exponent = 0 := Nat.eq_zero_of_not_pos fun scaled =>
      Nat.not_le_of_lt subnormal (full scaled)
    subst unscaled
    rw [Nat.zero_mul, Nat.zero_add, Nat.div_eq_of_lt subnormal, Nat.mod_eq_of_lt subnormal]
    exact ⟨significand, 0, rfl, rfl⟩
  · obtain ⟨fraction, rfl⟩ := Nat.exists_eq_add_of_le normal
    have carried : exponent * exponentWeight + (exponentWeight + fraction) =
        exponentWeight * (exponent + 1) + fraction := by ring
    rw [carried, Nat.mul_add_div weight, Nat.mul_add_mod]
    rcases Nat.lt_or_ge fraction exponentWeight with within | carry
    · rw [Nat.div_eq_of_lt within, Nat.mod_eq_of_lt within]
      exact ⟨exponentWeight + fraction, exponent, rfl, rfl⟩
    · have even : fraction = exponentWeight := by omega
      rw [even, Nat.div_self weight, Nat.mod_self]
      refine ⟨exponentWeight, exponent + 1, rfl, ?_⟩
      simp only [Nat.pow_eq]
      ring

/-- Steps below a power of two have a magnitude below that of the power. -/
theorem magnitude_lt {exponent significand top : Nat}
    (short : significand ≤ exponentWeight + exponentWeight)
    (full : 0 < exponent → exponentWeight ≤ significand)
    (small : significand * Nat.pow 2 exponent <
      (exponentWeight + exponentWeight) * Nat.pow 2 top) :
    exponent * exponentWeight + significand < (top + 2) * exponentWeight := by
  have weight : 0 < exponentWeight := by decide
  have room : (top + 2) * exponentWeight =
      top * exponentWeight + exponentWeight + exponentWeight := by ring
  have notLarger : exponent ≤ top := by
    by_contra larger
    have doubled : Nat.pow 2 top + Nat.pow 2 top ≤ Nat.pow 2 exponent := by
      have power : Nat.pow 2 (top + 1) ≤ Nat.pow 2 exponent :=
        pow_two_le_pow_two (by omega)
      rwa [Nat.pow_eq, Nat.pow_succ, Nat.mul_two] at power
    have scaled := Nat.mul_le_mul (full (by omega)) doubled
    rw [Nat.mul_add] at scaled
    rw [Nat.add_mul] at small
    omega
  rcases Nat.lt_or_eq_of_le notLarger with smaller | rfl
  · have below : (exponent + 1) * exponentWeight ≤ top * exponentWeight :=
      Nat.mul_le_mul_right exponentWeight smaller
    rw [Nat.succ_mul] at below
    omega
  · have shorter := Nat.lt_of_mul_lt_mul_right small
    omega

/-- The machine number computed for a fraction stands for the steps that were computed, if these do
not exceed the machine numbers. -/
theorem ofFloat_nearest (negative : Bool) {numerator denominator : Nat}
    (positive : 0 < denominator)
    (small : nearestSteps numerator denominator < Nat.pow 2 53 * Nat.pow 2 (topField - 2)) :
    ∃ significand exponent,
      ofFloat (nearest negative numerator denominator) =
        .finite negative significand exponent ∧
      significand * Nat.pow 2 exponent = nearestSteps numerator denominator := by
  have weight : Nat.pow 2 53 = exponentWeight + exponentWeight := by decide
  have short : nearestSignificand numerator denominator ≤ Nat.pow 2 53 :=
    nearestSignificand_le positive
  have full : 0 < nearestExponent numerator denominator →
      exponentWeight ≤ nearestSignificand numerator denominator :=
    le_nearestSignificand positive
  unfold nearestSteps at small ⊢
  rw [weight] at short small
  generalize isExponent : nearestExponent numerator denominator = exponent at short full small ⊢
  generalize isSignificand : nearestSignificand numerator denominator = significand
    at short full small ⊢
  have inRange := magnitude_lt short full small
  have magnitude : nearestMagnitude numerator denominator =
      exponent * exponentWeight + significand := by
    rw [nearestMagnitude_eq, isExponent, isSignificand]
    exact Nat.min_eq_left (Nat.le_of_lt inRange)
  unfold nearest
  rw [magnitude, ofFloat_ofBits negative inRange]
  exact exists_decoded negative short full

end Binary64

end NoteCalc
