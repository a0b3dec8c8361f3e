/-!
# Scalars

The amounts of quantities are machine numbers when the calculator runs and exact numbers when its
laws are studied.  Unit conversion and unit arithmetic are therefore written once over the
operations of this class.
-/

namespace NoteCalc

/-- The operations that unit conversion and unit arithmetic need of an amount. -/
class Scalar (α : Type) extends Add α, Sub α, Mul α, Div α, Neg α where
  /-- The amount that a count denotes. -/
  ofNat : Nat → α
  /-- Whether the first amount is strictly smaller. -/
  precedes : α → α → Bool
  /-- Whether an amount is so near to zero that dividing by it is refused: its magnitude is below
  `2⁻⁵²`. -/
  isNegligible : α → Bool
  /-- Whether an amount is zero. -/
  isZero : α → Bool

/-- The distance from one to the next machine number. -/
def machineEpsilon : Float := 1 / 4503599627370496

instance : Scalar Float where
  ofNat := Float.ofNat
  precedes left right := left < right
  isNegligible amount := amount.abs < machineEpsilon
  isZero amount := amount == 0

end NoteCalc
