/-!
# Machine numbers as exact fractions

A finite machine number is a whole number of *steps*, where one step is `2⁻¹⁰⁷⁴`, the distance
between the smallest ones.  This module reads a machine number as such a fraction, and finds the
machine number nearest to a given fraction, a tie going to the even significand.
-/

namespace NoteCalc

/-- Divide and round to the nearest whole number, a tie going to the even one. -/
def roundedQuotient (numerator denominator : Nat) : Nat :=
  let whole := numerator / denominator
  let remainder := numerator % denominator
  if 2 * remainder < denominator then whole
  else if denominator < 2 * remainder then whole + 1
  else whole + whole % 2

/-- Rounding a quotient changes it by at most one half. -/
theorem roundedQuotient_bounds (numerator denominator : Nat) (positive : 0 < denominator) :
    2 * numerator ≤ 2 * (roundedQuotient numerator denominator * denominator) + denominator ∧
      2 * (roundedQuotient numerator denominator * denominator) ≤ 2 * numerator + denominator := by
  have split := Nat.div_add_mod numerator denominator
  have small := Nat.mod_lt numerator positive
  have succ : (numerator / denominator + 1) * denominator =
      denominator * (numerator / denominator) + denominator := by
    rw [Nat.add_mul, Nat.mul_comm, Nat.one_mul]
  have same : numerator / denominator * denominator = denominator * (numerator / denominator) :=
    Nat.mul_comm _ _
  unfold roundedQuotient
  simp only
  split
  · rw [same]; omega
  · split
    · rw [succ]; omega
    · rcases Nat.mod_two_eq_zero_or_one (numerator / denominator) with even | odd
      · rw [even, Nat.add_zero, same]; omega
      · rw [odd, succ]; omega

/-- What a machine number stands for. -/
inductive Binary64 where
  /-- As many steps as `± significand · 2 ^ exponent`. -/
  | finite (negative : Bool) (significand exponent : Nat)
  | infinity (negative : Bool)
  | notANumber
deriving Repr, DecidableEq

namespace Binary64

/-- The number of steps in one. -/
def stepsPerOne : Nat := Nat.pow 2 1074

/-- The weight of the sign among the bits of a machine number. -/
def signWeight : Nat := Nat.pow 2 63

/-- The weight of the lowest bit of the exponent among the bits of a machine number, which is also
the leading bit of a significand of full length. -/
def exponentWeight : Nat := Nat.pow 2 52

/-- The exponent field of the infinities and of what is not a number. -/
def topField : Nat := 2047

/-- What a machine number stands for, read off its bits: a sign, eleven bits of exponent and
fifty-two bits of significand.  A significand of full length leaves out its leading bit; the
exponent field zero marks a shorter one. -/
def ofFloat (number : Float) : Binary64 :=
  let bits := number.toBits.toNat
  let negative := decide (signWeight ≤ bits)
  let field := bits / exponentWeight % (topField + 1)
  let fraction := bits % exponentWeight
  if field = topField then
    if fraction = 0 then .infinity negative else .notANumber
  else if field = 0 then .finite negative fraction 0
  else .finite negative (exponentWeight + fraction) (field - 1)

/-- The bits of the magnitude nearest to a fraction.

The exponent leaves fifty-three bits of significand, or as many as there are above one step.  A
significand that rounds up to one bit more carries into the exponent, and whatever exceeds the
largest finite magnitude becomes infinite. -/
def nearestMagnitude (numerator denominator : Nat) : Nat :=
  let steps := numerator * stepsPerOne
  let exponent := (steps / denominator).log2 - 52
  let significand := roundedQuotient steps (denominator * Nat.pow 2 exponent)
  min (exponent * exponentWeight + significand) (topField * exponentWeight)

/-- The machine number with a given sign and the magnitude nearest to a fraction. -/
def nearest (negative : Bool) (numerator denominator : Nat) : Float :=
  let magnitude := nearestMagnitude numerator denominator
  Float.ofBits (UInt64.ofNat (if negative then signWeight + magnitude else magnitude))

/-- The machine number nearest to `± significand · 10 ^ exponent`.

A power of ten beyond the range of machine numbers is not computed: from `10 ^ 310` on every
decimal is infinite, and below `10 ^ -330` every one is zero. -/
def ofDecimal (negative : Bool) (significand : Nat) (exponent : Int) : Float :=
  let magnitude := (Nat.toDigits 10 significand).length + exponent
  if significand = 0 ∨ magnitude < -330 then nearest negative 0 1
  else if 310 < magnitude then nearest negative (Nat.pow 10 310) 1
  else if 0 ≤ exponent then nearest negative (significand * Nat.pow 10 exponent.toNat) 1
  else nearest negative significand (Nat.pow 10 (-exponent).toNat)

end Binary64

end NoteCalc
