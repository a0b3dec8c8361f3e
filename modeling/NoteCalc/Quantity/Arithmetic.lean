import NoteCalc.Quantity.Conversion

/-!
# Arithmetic of quantities

Sums need compatible measures and come out in the finer one.  Products and quotients follow a
short list of rules, of which the first that fits is used: time against a rate, data against a
price per data, money or data per time, an amount against the rate it moves at, and ratios of like
quantities.  Whatever no rule covers is refused.
-/

namespace NoteCalc

namespace Measure

/-- Whether amounts of two measures can be added.  Named units have to be of one kind and, for
money, of one currency.  Rates need numerators of one family, and denominators of one family;
for money the same currency, and for data the same radix. -/
def addable : Measure → Measure → Bool
  | .single left, .single right =>
      left.family == right.family && (left.family != .currency || left == right)
  | .ratio left, .ratio right =>
      left.numerator.family == right.numerator.family &&
        left.denominator.family == right.denominator.family &&
        match left.numerator.family with
        | .currency => left.numerator == right.numerator
        | .data => left.isPerTime && left.numerator.isBinary == right.numerator.isBinary
        | _ => left.isPerTime
  | _, _ => false

/-- The finer of two measures, the one that holds less of the base; of two equal ones the
second. -/
def finer (α : Type) [Scalar α] (left right : Measure) : Measure :=
  if Scalar.precedes (left.toBase (Scalar.ofNat 1 : α)) (right.toBase (Scalar.ofNat 1)) then left
  else right

end Measure

/-- Divide, and refuse a divisor that scaling has made zero. -/
def quotient {α : Type} [Scalar α] (dividend divisor : α) : Except UnitError α :=
  if Scalar.isZero divisor then .error .vanishingDivisor else .ok (dividend / divisor)

namespace Quantity

variable {α : Type} [Scalar α]

/-- Combine two quantities whose measures can be added, in bases, and express the outcome in the
finer measure. -/
def combine (operation : α → α → α) (refusal : Option Measure → Option Measure → UnitError)
    (left right : Quantity α) : Except UnitError (Quantity α) :=
  match left.measure, right.measure with
  | none, none => .ok ⟨operation left.amount right.amount, none⟩
  | some leftMeasure, some rightMeasure =>
      if leftMeasure.addable rightMeasure then
        let measure := Measure.finer α leftMeasure rightMeasure
        let base :=
          operation (leftMeasure.toBase left.amount) (rightMeasure.toBase right.amount)
        .ok (of (measure.fromBase base) measure)
      else .error (refusal left.measure right.measure)
  | _, _ => .error (refusal left.measure right.measure)

/-- The sum of two quantities. -/
def add (left right : Quantity α) : Except UnitError (Quantity α) :=
  combine (· + ·) .noSum left right

/-- The difference of two quantities. -/
def subtract (left right : Quantity α) : Except UnitError (Quantity α) :=
  combine (· - ·) .noDifference left right

/-- What a duration yields at a rate per time: the rate times the number of its periods. -/
def overTime? (duration rate : Quantity α) : Option (Quantity α) :=
  match duration.measure, rate.measure with
  | some (.single unit), some (.ratio per) =>
      if unit.family = .time ∧ per.isPerTime = true then
        let periods := unit.toBase duration.amount / per.period
        some (of (rate.amount * periods) (.single per.numerator))
      else none
  | _, _ => none

/-- What an amount of data costs at a price per data. -/
def cost? (data price : Quantity α) : Option (Quantity α) :=
  match data.measure, price.measure with
  | some (.single unit), some (.ratio per) =>
      if unit.family = .data ∧ per.numerator.family = .currency ∧
          per.denominator.family = .data then
        let portions := unit.toBase data.amount / per.period
        some (of (price.amount * portions) (.single per.numerator))
      else none
  | _, _ => none

/-- Data times a duration is data, whichever of them comes first. -/
def dataOverTime? (left right : Quantity α) : Option (Quantity α) :=
  match left.measure, right.measure with
  | some (.single leftUnit), some (.single rightUnit) =>
      if leftUnit.family = .data ∧ rightUnit.family = .time then
        some (of (left.amount * right.amount) (.single leftUnit))
      else if rightUnit.family = .data ∧ leftUnit.family = .time then
        some (of (left.amount * right.amount) (.single rightUnit))
      else none
  | _, _ => none

/-- The product of two quantities.  A plain number leaves the measure of the other side as it
is. -/
def multiply (left right : Quantity α) : Except UnitError (Quantity α) :=
  match left.measure, right.measure with
  | none, measure => .ok ⟨left.amount * right.amount, measure⟩
  | measure, none => .ok ⟨left.amount * right.amount, measure⟩
  | some _, some _ =>
      let product :=
        (overTime? left right).or <| (overTime? right left).or <|
          (cost? left right).or <| (cost? right left).or <| dataOverTime? left right
      match product with
      | some product => .ok product
      | none => .error (.noProduct left.measure right.measure)

/-- The rate that an amount of bits, data or money per time, an amount of requests per time, or
money per data makes.  Requests are counted per second whatever the unit of time. -/
def rateOf? (left right : α) (unit per : NamedUnit) : Option (Except UnitError (Quantity α)) :=
  if forms : formsRate unit per = true then
    if counted : unit.family = .request then
      let rate : Rate := ⟨unit, .time .second, formsRate_second counted⟩
      some do return of (← quotient left (per.toBase right)) (.ratio rate)
    else some do return of (← quotient left right) (.ratio ⟨unit, per, forms⟩)
  else none

/-- The time that an amount of bits or data takes at a rate per time.  Where one side counts bits
and the other bytes, both are expressed in bits. -/
def timeAt? (left right : α) (unit : NamedUnit) (rate : Rate) :
    Option (Except UnitError (Quantity α)) :=
  let countable (family : Family) : Bool := family == .data || family == .bit
  if !(countable unit.family && rate.isPerTime) then none
  else if rate.numerator.family = unit.family then
    some do
      let periods ← quotient (unit.toBase left) (rate.numerator.toBase right)
      return of periods (.single rate.denominator)
  else if !countable rate.numerator.family then none
  else
    let amount := unit.toBase left
    let amountBits := if unit.family = .data then amount * bitsPerByte else amount
    let speed := rate.toBase right
    let bitsPerSecond :=
      if rate.numerator.family = .data then speed * bitsPerByte else speed
    some do return of (← quotient amountBits bitsPerSecond) (.single (.time .second))

/-- The plain number that the quotient of two like quantities is. -/
def ratio? (left right : α) (leftMeasure rightMeasure : Measure) :
    Option (Except UnitError (Quantity α)) :=
  let plain (dividend divisor : α) : Except UnitError (Quantity α) := do
    return ⟨← quotient dividend divisor, none⟩
  let dividend := leftMeasure.toBase left
  let divisor := rightMeasure.toBase right
  match leftMeasure.kind, rightMeasure.kind with
  | .data, .bit => some (plain (dividend * bitsPerByte) divisor)
  | .bit, .data => some (plain dividend (divisor * bitsPerByte))
  | leftKind, rightKind =>
      if leftKind ≠ rightKind then none
      else if (leftKind = .currency ∨ leftKind = .price) ∧
          leftMeasure.addable rightMeasure = false then none
      else some (plain dividend divisor)

/-- The quotient of two measured quantities, by the first rule that fits. -/
def divideMeasured? (left right : α) (leftMeasure rightMeasure : Measure) :
    Option (Except UnitError (Quantity α)) :=
  let special :=
    match leftMeasure, rightMeasure with
    | .single unit, .single per => rateOf? left right unit per
    | .single unit, .ratio rate => timeAt? left right unit rate
    | _, _ => none
  special.or (ratio? left right leftMeasure rightMeasure)

/-- The quotient of two quantities.  A plain divisor leaves the measure of the dividend as it is;
a plain number cannot be divided by a measured one. -/
def divide (left right : Quantity α) : Except UnitError (Quantity α) :=
  if Scalar.isNegligible right.amount then .error .divisionByZero
  else
    match left.measure, right.measure with
    | _, none => do return ⟨← quotient left.amount right.amount, left.measure⟩
    | none, some _ => .error (.noQuotient left.measure right.measure)
    | some leftMeasure, some rightMeasure =>
        (divideMeasured? left.amount right.amount leftMeasure rightMeasure).getD
          (.error (.noQuotient left.measure right.measure))

/-- A power of plain numbers. -/
def raise (base exponent : Quantity Float) : Except UnitError (Quantity Float) :=
  match base.measure, exponent.measure with
  | none, none =>
      match power base.amount exponent.amount with
      | .ok result => .ok ⟨result, none⟩
      | .error fault => .error (.uncomputablePower base.amount exponent.amount fault)
  | _, _ => .error (.measuredPower base.measure exponent.measure)

/-- Add to a running total.  Unlike in a sum, a plain number on either side takes the measure of
the other side; incompatible quantities have no total. -/
def accumulate? (total addend : Quantity α) : Option (Quantity α) :=
  match total.measure, addend.measure with
  | some _, some _ => (add total addend).toOption
  | _, _ => some ⟨total.amount + addend.amount, total.measure.or addend.measure⟩

end Quantity

end NoteCalc
