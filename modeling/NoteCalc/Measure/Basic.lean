import NoteCalc.Measure.NamedUnit

/-!
# Measures

What an amount can be measured in: a named unit, or a rate of one named unit per another.  Only
some pairs of units make a rate, and a rate carries the proof that its pair is one of them.
-/

namespace NoteCalc

/-- Whether a pair of units makes a rate: bits, data, requests or money per time, or money per
amount of data. -/
def formsRate (numerator denominator : NamedUnit) : Bool :=
  match numerator.family, denominator.family with
  | .bit, .time | .data, .time | .request, .time | .currency, .time | .currency, .data => true
  | _, _ => false

/-- Requests make a rate with the second. -/
theorem formsRate_second {unit : NamedUnit} (counted : unit.family = .request) :
    formsRate unit (.time .second) = true := by
  unfold formsRate
  rw [counted]
  rfl

/-- One named unit per another. -/
structure Rate where
  numerator : NamedUnit
  denominator : NamedUnit
  forms : formsRate numerator denominator = true
deriving DecidableEq

/-- A named unit or a rate. -/
inductive Measure where
  | single (unit : NamedUnit)
  | ratio (rate : Rate)
deriving DecidableEq

/-- The sorts of measures that conversion and division tell apart. -/
inductive Kind where
  | time
  | bit
  | data
  | request
  | currency
  | percentage
  | bitRate
  | dataRate
  | requestRate
  /-- Money per time or per data. -/
  | price
deriving Repr, DecidableEq

namespace Rate

/-- Whether the rate is per time. -/
def isPerTime (rate : Rate) : Bool :=
  rate.denominator.family == .time

/-- The sort of a rate, which its numerator decides. -/
def kind (rate : Rate) : Kind :=
  match rate.numerator.family with
  | .bit => .bitRate
  | .data => .dataRate
  | .request => .requestRate
  | _ => .price

/-- The short name of a rate of bits per second, or of queries per second, minute or hour. -/
def shorthand? (rate : Rate) : Option String :=
  match rate.numerator, rate.denominator with
  | .bit none, .time .second => some "bps"
  | .bit (some multiple), .time .second => some (multiple.symbol ++ "bps")
  | .query, .time .second => some "QPS"
  | .query, .time .minute => some "QPM"
  | .query, .time .hour => some "QPH"
  | _, _ => none

/-- The text that results are printed with: the short name, or the two symbols around a slash. -/
def symbol (rate : Rate) : String :=
  rate.shorthand?.getD (rate.numerator.symbol ++ "/" ++ rate.denominator.symbol)

/-- How much of the base one of the denominator holds. -/
def period {α : Type} [Scalar α] (rate : Rate) : α :=
  rate.denominator.toBase (Scalar.ofNat 1)

/-- Express an amount of the rate in bases per base. -/
def toBase {α : Type} [Scalar α] (rate : Rate) (amount : α) : α :=
  rate.numerator.toBase amount / rate.period

/-- Express an amount of bases per base in the rate. -/
def fromBase {α : Type} [Scalar α] (rate : Rate) (amount : α) : α :=
  rate.numerator.fromBase (amount * rate.period)

end Rate

namespace Measure

/-- The rate of one measure per another, if both are named units and make a rate. -/
def per? : Measure → Measure → Option Rate
  | .single numerator, .single denominator =>
      if forms : formsRate numerator denominator = true then
        some ⟨numerator, denominator, forms⟩
      else none
  | _, _ => none

/-- The family of a named unit; a rate has none. -/
def family? : Measure → Option Family
  | .single unit => some unit.family
  | .ratio _ => none

/-- The sort of a measure. -/
def kind : Measure → Kind
  | .single unit =>
      match unit.family with
      | .time => .time
      | .bit => .bit
      | .data => .data
      | .request => .request
      | .currency => .currency
      | .percent => .percentage
  | .ratio rate => rate.kind

/-- The full name. -/
def name : Measure → String
  | .single unit => unit.name
  | .ratio rate => rate.numerator.name ++ "/" ++ rate.denominator.name

/-- The text that results are printed with. -/
def symbol : Measure → String
  | .single unit => unit.symbol
  | .ratio rate => rate.symbol

/-- Express an amount of the measure in bases. -/
def toBase {α : Type} [Scalar α] : Measure → α → α
  | .single unit, amount => unit.toBase amount
  | .ratio rate, amount => rate.toBase amount

/-- Express an amount of bases in the measure. -/
def fromBase {α : Type} [Scalar α] : Measure → α → α
  | .single unit, amount => unit.fromBase amount
  | .ratio rate, amount => rate.fromBase amount

/-- Two named units make a rate exactly when their families allow it. -/
theorem per?_single_isSome (numerator denominator : NamedUnit) :
    (per? (.single numerator) (.single denominator)).isSome = formsRate numerator denominator := by
  by_cases forms : formsRate numerator denominator = true <;> simp [per?, forms]

end Measure

end NoteCalc
