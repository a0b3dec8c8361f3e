import NoteCalc.Measure.Basic

/-!
# Quantities

An amount together with what it is measured in.  A quantity without a measure is a plain number.
-/

namespace NoteCalc

/-- An amount and its measure, which a plain number does not have. -/
structure Quantity (α : Type) where
  amount : α
  measure : Option Measure := none

namespace Quantity

/-- A quantity with a measure. -/
def of {α : Type} (amount : α) (measure : Measure) : Quantity α :=
  ⟨amount, some measure⟩

/-- The quantity of the opposite sign. -/
def negate {α : Type} [Neg α] (quantity : Quantity α) : Quantity α :=
  ⟨-quantity.amount, quantity.measure⟩

end Quantity

end NoteCalc
