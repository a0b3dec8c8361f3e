import NoteCalc.Quantity.Arithmetic

/-!
# Measures that can be added

Whether two measures can be added is decided branch by branch.  Every branch compares the same few
properties of the two sides, so the decision is whether these properties agree, and it is an
equivalence.  A sum is expressed in one of its two measures, so it stays in their class.
-/

namespace NoteCalc

/-- What measures that can be added to each other have in common. -/
structure SumClass where
  /-- The family of a named unit, or of the numerator of a rate. -/
  counted : Family
  /-- The family of the denominator, for a rate. -/
  per : Option Family
  /-- The currency, for money and prices. -/
  money : Option NamedUnit
  /-- Whether the multiples are powers of 1024, for rates of data. -/
  binary : Bool
deriving Repr, DecidableEq

namespace NamedUnit

/-- The unit, if it is a currency. -/
def currency? (unit : NamedUnit) : Option NamedUnit :=
  if unit.family = .currency then some unit else none

theorem currency?_eq_iff {left right : NamedUnit} (sameFamily : left.family = right.family) :
    left.currency? = right.currency? ↔ (left.family = .currency → left = right) := by
  unfold currency?
  rw [← sameFamily]
  split
  · rename_i isMoney
    simp [isMoney]
  · rename_i notMoney
    simp [notMoney]

end NamedUnit

namespace Rate

theorem isPerTime_of_ne_currency {rate : Rate} (notMoney : rate.numerator.family ≠ .currency) :
    rate.isPerTime = true := by
  have forms := rate.forms
  unfold formsRate at forms
  unfold isPerTime
  split at forms <;> simp_all

end Rate

namespace Measure

/-- The class of measures that can be added to this one. -/
def sumClass : Measure → SumClass
  | .single unit => ⟨unit.family, none, unit.currency?, false⟩
  | .ratio rate =>
      ⟨rate.numerator.family, some rate.denominator.family, rate.numerator.currency?,
        if rate.numerator.family = .data then rate.numerator.isBinary else false⟩

theorem addable_single_iff {left right : NamedUnit} :
    (single left).addable (single right) = true ↔
      (single left).sumClass = (single right).sumClass := by
  by_cases sameFamily : left.family = right.family
  · simp [addable, sumClass, sameFamily, NamedUnit.currency?_eq_iff sameFamily,
      Decidable.imp_iff_not_or]
  · simp [addable, sumClass, sameFamily]

theorem addable_ratio_iff {left right : Rate} :
    (ratio left).addable (ratio right) = true ↔
      (ratio left).sumClass = (ratio right).sumClass := by
  by_cases sameFamily : left.numerator.family = right.numerator.family
  · have perTime (notMoney : right.numerator.family ≠ .currency) : left.isPerTime = true :=
      Rate.isPerTime_of_ne_currency (sameFamily ▸ notMoney)
    have money := NamedUnit.currency?_eq_iff sameFamily
    cases isFamily : right.numerator.family <;>
      simp_all [addable, sumClass]
  · simp [addable, sumClass, sameFamily]

/-- Two measures can be added exactly if they are in one class. -/
theorem addable_iff {left right : Measure} :
    left.addable right = true ↔ left.sumClass = right.sumClass := by
  cases left with
  | single leftUnit =>
      cases right with
      | single rightUnit => exact addable_single_iff
      | ratio rightRate => simp [addable, sumClass]
  | ratio leftRate =>
      cases right with
      | single rightUnit => simp [addable, sumClass]
      | ratio rightRate => exact addable_ratio_iff

theorem addable_refl (measure : Measure) : measure.addable measure = true :=
  addable_iff.mpr rfl

theorem addable_comm (left right : Measure) : left.addable right = right.addable left := by
  rw [Bool.eq_iff_iff, addable_iff, addable_iff]
  exact eq_comm

theorem addable_trans {left middle right : Measure} (first : left.addable middle = true)
    (second : middle.addable right = true) : left.addable right = true :=
  addable_iff.mpr ((addable_iff.mp first).trans (addable_iff.mp second))

theorem finer_eq_or (α : Type) [Scalar α] (left right : Measure) :
    finer α left right = left ∨ finer α left right = right := by
  unfold finer
  split
  · exact .inl rfl
  · exact .inr rfl

/-- The finer of two measures of one class is in that class. -/
theorem sumClass_finer (α : Type) [Scalar α] {left right : Measure}
    (addable : left.addable right = true) :
    (finer α left right).sumClass = left.sumClass := by
  rcases finer_eq_or α left right with isLeft | isRight
  · rw [isLeft]
  · rw [isRight, addable_iff.mp addable]

end Measure

end NoteCalc
