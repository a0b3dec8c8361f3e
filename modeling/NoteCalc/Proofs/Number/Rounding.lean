import Mathlib.Data.Nat.Dist
import Mathlib.Tactic.Ring
import NoteCalc.Number.Binary64

/-!
# Rounding a quotient

How far a whole number is from a fraction is counted in parts of the denominator, so that nothing
has to be divided.  The rounded quotient is the whole number that is nearer than one half, or
just one half away and even; everything else about rounding follows from that.
-/

namespace NoteCalc

/-- The rounded quotient is the nearest whole number, and of two equally near ones the even one. -/
theorem roundedQuotient_eq_iff {numerator denominator whole : Nat} (positive : 0 < denominator) :
    roundedQuotient numerator denominator = whole ↔
      2 * Nat.dist (whole * denominator) numerator < denominator ∨
        2 * Nat.dist (whole * denominator) numerator = denominator ∧ whole % 2 = 0 := by
  have split := Nat.div_add_mod numerator denominator
  have small := Nat.mod_lt numerator positive
  have floor : numerator / denominator * denominator = denominator * (numerator / denominator) :=
    Nat.mul_comm _ _
  have next : (numerator / denominator + 1) * denominator =
      denominator * (numerator / denominator) + denominator := by ring
  unfold roundedQuotient Nat.dist
  constructor
  · rintro rfl
    simp only
    split
    · rw [floor]; omega
    · split
      · rw [next]; omega
      · rcases Nat.mod_two_eq_zero_or_one (numerator / denominator) with even | odd
        · rw [even, Nat.add_zero, floor]; omega
        · rw [odd, next]; omega
  · intro near
    -- No whole number but the two around the fraction is as near as one half.
    have around : whole = numerator / denominator ∨ whole = numerator / denominator + 1 := by
      rcases Nat.lt_or_ge whole (numerator / denominator) with below | fromFloor
      · have apart := Nat.mul_le_mul_right denominator (Nat.succ_le_of_lt below)
        rw [Nat.succ_mul, floor] at apart
        omega
      · rcases Nat.lt_or_ge (numerator / denominator + 1) whole with above | toNext
        · have apart := Nat.mul_le_mul_right denominator (Nat.succ_le_of_lt above)
          rw [Nat.succ_mul, next] at apart
          omega
        · omega
    simp only
    rcases around with rfl | rfl
    · rw [floor] at near
      split
      · rfl
      · split <;> omega
    · rw [next] at near
      split
      · omega
      · split <;> omega

/-- No whole number is nearer to a fraction than the rounded quotient. -/
theorem dist_roundedQuotient_le {numerator denominator : Nat} (positive : 0 < denominator)
    (whole : Nat) :
    Nat.dist (roundedQuotient numerator denominator * denominator) numerator ≤
      Nat.dist (whole * denominator) numerator := by
  by_contra nearer
  have close := (roundedQuotient_eq_iff positive).mp
    (rfl : roundedQuotient numerator denominator = _)
  have same : roundedQuotient numerator denominator = whole :=
    (roundedQuotient_eq_iff positive).mpr (.inl (by omega))
  exact nearer (by rw [same])

/-- A fraction that is moved nearer to its rounded quotient, or just as far to its other side, still
has that rounded quotient. -/
theorem roundedQuotient_eq_of_dist_le {numerator moved denominator whole : Nat}
    (positive : 0 < denominator) (rounded : roundedQuotient numerator denominator = whole)
    (nearer : Nat.dist (whole * denominator) moved ≤ Nat.dist (whole * denominator) numerator) :
    roundedQuotient moved denominator = whole := by
  have close := (roundedQuotient_eq_iff positive).mp rounded
  refine (roundedQuotient_eq_iff positive).mpr ?_
  omega

/-- Rounding does not cross a whole number downwards. -/
theorem le_roundedQuotient {numerator denominator whole : Nat} (positive : 0 < denominator)
    (above : whole * denominator ≤ numerator) : whole ≤ roundedQuotient numerator denominator := by
  by_contra crossed
  have apart := Nat.mul_le_mul_right denominator (Nat.succ_le_of_lt (Nat.lt_of_not_le crossed))
  rw [Nat.succ_mul] at apart
  have bounds := (roundedQuotient_bounds numerator denominator positive).1
  omega

/-- Rounding does not cross a whole number upwards. -/
theorem roundedQuotient_le {numerator denominator whole : Nat} (positive : 0 < denominator)
    (below : numerator ≤ whole * denominator) : roundedQuotient numerator denominator ≤ whole := by
  by_contra crossed
  have apart := Nat.mul_le_mul_right denominator (Nat.succ_le_of_lt (Nat.lt_of_not_le crossed))
  rw [Nat.succ_mul] at apart
  have bounds := (roundedQuotient_bounds numerator denominator positive).2
  omega

/-- Rounding depends on the value of a fraction only. -/
theorem roundedQuotient_mul_right {numerator denominator factor : Nat}
    (positive : 0 < denominator) (nonzero : 0 < factor) :
    roundedQuotient (numerator * factor) (denominator * factor) =
      roundedQuotient numerator denominator := by
  have close := (roundedQuotient_eq_iff positive).mp
    (rfl : roundedQuotient numerator denominator = _)
  refine (roundedQuotient_eq_iff (Nat.mul_pos positive nonzero)).mpr ?_
  rw [← Nat.mul_assoc, Nat.dist_mul_right, ← Nat.mul_assoc]
  rcases close with nearer | ⟨halfway, even⟩
  · exact .inl (Nat.mul_lt_mul_of_pos_right nearer nonzero)
  · exact .inr ⟨by rw [halfway], even⟩

end NoteCalc
