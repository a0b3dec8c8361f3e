import NoteCalc.Proofs.Measure.UnitWords
import NoteCalc.Proofs.Number.MachineRange
import NoteCalc.Quantity.Arithmetic

/-!
# Arithmetic that faults on a zero divisor

Division of machine numbers is total, and what a division by zero gives could pass unnoticed.  Here
the arithmetic of quantities runs on amounts whose division by zero is a fault, which no operation
recovers from and which quotients do not refuse.  It comes to the same as on machine numbers.  So no
division anywhere in it is by zero.  A divisor that is not negligible stays different from zero when
it is expressed in bases, since this takes few divisions, by moderate numbers.
-/

namespace NoteCalc

/-- A machine number, or that a division by zero came before. -/
inductive Checked where
  | value (amount : Float)
  | fault

namespace Checked

/-- An operation that cannot fault by itself. -/
def lift (operation : Float → Float → Float) : Checked → Checked → Checked
  | .value left, .value right => .value (operation left right)
  | _, _ => .fault

/-- A quotient, which faults if the divisor is zero. -/
def divide : Checked → Checked → Checked
  | .value left, .value right => if right == 0 then .fault else .value (left / right)
  | _, _ => .fault

/-- The opposite amount. -/
def negate : Checked → Checked
  | .value amount => .value (-amount)
  | .fault => .fault

/-- No divisor counts as zero, so that every quotient is taken. -/
instance : Scalar Checked where
  add := lift (· + ·)
  sub := lift (· - ·)
  mul := lift (· * ·)
  div := divide
  neg := negate
  ofNat count := .value (Scalar.ofNat count)
  precedes
    | .value left, .value right => Scalar.precedes left right
    | _, _ => false
  isNegligible
    | .value amount => Scalar.isNegligible amount
    | .fault => false
  isZero _ := false

theorem ofNat_eq (count : Nat) : (Scalar.ofNat count : Checked) = .value (Scalar.ofNat count) := rfl

theorem value_add (left right : Float) :
    value left + value right = value (left + right) := rfl

theorem value_sub (left right : Float) :
    value left - value right = value (left - right) := rfl

theorem value_mul (left right : Float) :
    value left * value right = value (left * right) := rfl

theorem value_div {left right : Float} (notZero : (right == 0) = false) :
    value left / value right = value (left / right) := by
  change divide (value left) (value right) = _
  rw [divide, notZero]
  rfl

end Checked

/-! ## Units -/

namespace NamedUnit

/-- The factor of a unit is a number from one on and below `2⁶¹`. -/
theorem within_factor : ∀ unit : NamedUnit,
    Within .positive (-52) 8 (Scalar.ofNat unit.factor : Float).toModel.unpack := by
  decide +kernel

theorem factor_ne_zero (unit : NamedUnit) : ((Scalar.ofNat unit.factor : Float) == 0) = false :=
  (Reaches.finite (within_factor unit)).beq_zero

theorem toBase_value (unit : NamedUnit) (amount : Float) :
    unit.toBase (Checked.value amount) = .value (unit.toBase amount) := by
  unfold toBase
  split
  · rw [Checked.ofNat_eq, Checked.value_div (factor_ne_zero unit)]
  · rw [Checked.ofNat_eq, Checked.value_mul]

theorem fromBase_value (unit : NamedUnit) (amount : Float) :
    unit.fromBase (Checked.value amount) = .value (unit.fromBase amount) := by
  unfold fromBase
  split
  · rw [Checked.ofNat_eq, Checked.value_mul]
  · rw [Checked.ofNat_eq, Checked.value_div (factor_ne_zero unit)]

/-- Expressing an amount in bases takes at most sixty-one from its scale. -/
theorem reaches_toBase {scale : Int} (unit : NamedUnit) {amount : Float}
    (reaches : Reaches scale amount.toModel.unpack) (inRange : -1074 ≤ scale - 61) :
    Reaches (scale - 61) (unit.toBase amount).toModel.unpack := by
  unfold toBase
  split
  · exact (reaches.div (within_factor unit) (by omega)).mono (by omega)
  · exact (reaches.mul (within_factor unit) (by omega)).mono (by omega)

theorem within_one : Within .positive (-52) (-52) (Scalar.ofNat 1 : Float).toModel.unpack := by
  decide +kernel

/-- One of a unit is neither a small nor a large number of its base. -/
theorem within_toBase_one (unit : NamedUnit) :
    Within .positive (-113) 10 (unit.toBase (Scalar.ofNat 1 : Float)).toModel.unpack := by
  unfold toBase
  split
  · exact ((within_one.div (within_factor unit) (by decide)).pack (by decide) (by decide)).mono
      (by decide) (by decide)
  · exact ((within_one.mul (within_factor unit) (by decide)).pack (by decide) (by decide)).mono
      (by decide) (by decide)

end NamedUnit

namespace Rate

theorem period_ne_zero (rate : Rate) : ((rate.period : Float) == 0) = false :=
  (Reaches.finite (NamedUnit.within_toBase_one rate.denominator)).beq_zero

theorem period_value (rate : Rate) : (rate.period : Checked) = .value rate.period := by
  rw [period, Checked.ofNat_eq, NamedUnit.toBase_value, period]

theorem toBase_value (rate : Rate) (amount : Float) :
    rate.toBase (Checked.value amount) = .value (rate.toBase amount) := by
  rw [toBase, NamedUnit.toBase_value, period_value, Checked.value_div rate.period_ne_zero, toBase]

theorem fromBase_value (rate : Rate) (amount : Float) :
    rate.fromBase (Checked.value amount) = .value (rate.fromBase amount) := by
  rw [fromBase, period_value, Checked.value_mul, NamedUnit.fromBase_value, fromBase]

/-- Expressing an amount of a rate in bases converts its numerator and divides by its period. -/
theorem reaches_toBase {scale : Int} (rate : Rate) {amount : Float}
    (reaches : Reaches scale amount.toModel.unpack) (inRange : -1074 ≤ scale - 124) :
    Reaches (scale - 124) (rate.toBase amount).toModel.unpack := by
  have numerator := rate.numerator.reaches_toBase reaches (by omega)
  have divided := numerator.div (NamedUnit.within_toBase_one rate.denominator) (by omega)
  exact divided.mono (by omega)

end Rate

namespace Measure

theorem toBase_value (measure : Measure) (amount : Float) :
    measure.toBase (Checked.value amount) = .value (measure.toBase amount) := by
  cases measure with
  | single unit => exact unit.toBase_value amount
  | ratio rate => exact rate.toBase_value amount

theorem fromBase_value (measure : Measure) (amount : Float) :
    measure.fromBase (Checked.value amount) = .value (measure.fromBase amount) := by
  cases measure with
  | single unit => exact unit.fromBase_value amount
  | ratio rate => exact rate.fromBase_value amount

theorem reaches_toBase {scale : Int} (measure : Measure) {amount : Float}
    (reaches : Reaches scale amount.toModel.unpack) (inRange : -1074 ≤ scale - 124) :
    Reaches (scale - 124) (measure.toBase amount).toModel.unpack := by
  cases measure with
  | single unit => exact (unit.reaches_toBase reaches (by omega)).mono (by omega)
  | ratio rate => exact rate.reaches_toBase reaches inRange

theorem finer_checked (left right : Measure) :
    finer Checked left right = finer Float left right := by
  rw [finer, Checked.ofNat_eq, toBase_value, toBase_value, finer]
  rfl

end Measure

theorem within_bitsPerByte : Within .positive (-52) 8 (bitsPerByte : Float).toModel.unpack := by
  decide +kernel

theorem bitsPerByte_value : (bitsPerByte : Checked) = .value bitsPerByte := rfl

namespace Quantity

/-- A quantity whose amount is checked. -/
def checked (quantity : Quantity Float) : Quantity Checked :=
  ⟨.value quantity.amount, quantity.measure⟩

/-! ## Sums and products -/

theorem combine_checked {operation : Float → Float → Float}
    {operationToo : Checked → Checked → Checked}
    (agrees : ∀ left right,
      operationToo (.value left) (.value right) = .value (operation left right))
    (refusal : Option Measure → Option Measure → UnitError) (left right : Quantity Float) :
    combine operationToo refusal left.checked right.checked =
      (combine operation refusal left right).map checked := by
  obtain ⟨leftAmount, leftMeasure⟩ := left
  obtain ⟨rightAmount, rightMeasure⟩ := right
  cases leftMeasure with
  | none =>
      cases rightMeasure with
      | none => simp [combine, checked, agrees, Except.map]
      | some measure => rfl
  | some leftMeasure =>
      cases rightMeasure with
      | none => rfl
      | some rightMeasure =>
          simp only [combine, checked, Measure.finer_checked, Measure.toBase_value, agrees,
            Measure.fromBase_value]
          split <;> rfl

theorem add_checked (left right : Quantity Float) :
    left.checked.add right.checked = (left.add right).map checked :=
  combine_checked Checked.value_add .noSum left right

theorem subtract_checked (left right : Quantity Float) :
    left.checked.subtract right.checked = (left.subtract right).map checked :=
  combine_checked Checked.value_sub .noDifference left right

theorem accumulate?_checked (total addend : Quantity Float) :
    total.checked.accumulate? addend.checked = (total.accumulate? addend).map checked := by
  cases isTotal : total.measure with
  | none => simp [accumulate?, checked, isTotal, Checked.value_add]
  | some measure =>
      cases isAddend : addend.measure with
      | none => simp [accumulate?, checked, isTotal, isAddend, Checked.value_add]
      | some other =>
          have added : total.checked.accumulate? addend.checked =
              (total.checked.add addend.checked).toOption := by
            simp [accumulate?, checked, isTotal, isAddend]
          rw [added, add_checked]
          simp only [accumulate?, isTotal, isAddend]
          cases total.add addend <;> rfl

theorem toBase_div_period (unit : NamedUnit) (per : Rate) (amount : Float) :
    unit.toBase (Checked.value amount) / per.period = .value (unit.toBase amount / per.period) := by
  rw [NamedUnit.toBase_value, Rate.period_value, Checked.value_div per.period_ne_zero]

theorem overTime?_checked (duration rate : Quantity Float) :
    overTime? duration.checked rate.checked = (overTime? duration rate).map checked := by
  obtain ⟨durationAmount, durationMeasure⟩ := duration
  obtain ⟨rateAmount, rateMeasure⟩ := rate
  rcases durationMeasure with _ | (unit | _) <;> rcases rateMeasure with _ | (_ | per) <;> try rfl
  simp only [overTime?, checked, toBase_div_period, Checked.value_mul]
  split <;> rfl

theorem cost?_checked (data price : Quantity Float) :
    cost? data.checked price.checked = (cost? data price).map checked := by
  obtain ⟨dataAmount, dataMeasure⟩ := data
  obtain ⟨priceAmount, priceMeasure⟩ := price
  rcases dataMeasure with _ | (unit | _) <;> rcases priceMeasure with _ | (_ | per) <;> try rfl
  simp only [cost?, checked, toBase_div_period, Checked.value_mul]
  split <;> rfl

theorem dataOverTime?_checked (left right : Quantity Float) :
    dataOverTime? left.checked right.checked = (dataOverTime? left right).map checked := by
  obtain ⟨leftAmount, leftMeasure⟩ := left
  obtain ⟨rightAmount, rightMeasure⟩ := right
  rcases leftMeasure with _ | (leftUnit | _) <;> rcases rightMeasure with _ | (rightUnit | _) <;>
    try rfl
  simp only [dataOverTime?, checked, Checked.value_mul]
  split
  · rfl
  · split <;> rfl

theorem multiply_checked (left right : Quantity Float) :
    left.checked.multiply right.checked = (left.multiply right).map checked := by
  have rules : (overTime? left.checked right.checked).or
      ((overTime? right.checked left.checked).or ((cost? left.checked right.checked).or
        ((cost? right.checked left.checked).or (dataOverTime? left.checked right.checked)))) =
      ((overTime? left right).or ((overTime? right left).or ((cost? left right).or
        ((cost? right left).or (dataOverTime? left right))))).map checked := by
    simp only [overTime?_checked, cost?_checked, dataOverTime?_checked, Option.map_or]
  cases leftMeasured : left.measure with
  | none => simp [multiply, checked, leftMeasured, Checked.value_mul, Except.map]
  | some leftMeasure =>
      cases rightMeasured : right.measure with
      | none => simp [multiply, checked, leftMeasured, rightMeasured, Checked.value_mul, Except.map]
      | some rightMeasure =>
          have measured : left.checked.measure = some leftMeasure := leftMeasured
          have measuredToo : right.checked.measure = some rightMeasure := rightMeasured
          simp only [multiply, measured, measuredToo, leftMeasured, rightMeasured, rules]
          cases (overTime? left right).or ((overTime? right left).or ((cost? left right).or
            ((cost? right left).or (dataOverTime? left right)))) <;> rfl

/-! ## Conversion -/

theorem convertByBase_checked (amount : Float) (source target : Measure) :
    convertByBase (Checked.value amount) source target =
      (convertByBase amount source target).map checked := by
  have eight : ((bitsPerByte : Float) == 0) = false := (Reaches.finite within_bitsPerByte).beq_zero
  unfold convertByBase
  simp only [bitsPerByte_value, Measure.toBase_value, Checked.value_mul, Checked.value_div eight]
  split
  · rw [Measure.fromBase_value]; rfl
  · split
    · split <;> rw [Measure.fromBase_value] <;> rfl
    · rfl

theorem convertRate_checked (amount : Float) (source target : Rate) :
    convertRate (Checked.value amount) source target =
      (convertRate amount source target).map checked := by
  unfold convertRate
  simp only [Rate.period_value, Checked.value_mul, Checked.value_div source.period_ne_zero,
    convertByBase_checked]
  split
  · split <;> rfl
  · split <;> rfl

theorem convert_checked (quantity : Quantity Float) (target : Measure) :
    quantity.checked.convert target = (quantity.convert target).map checked := by
  obtain ⟨amount, measure⟩ := quantity
  unfold convert
  rcases measure with _ | (unit | rate)
  · simp only [checked, Measure.fromBase_value]
    split <;> rfl
  · exact convertByBase_checked amount (.single unit) target
  · cases target with
    | single unit => exact convertByBase_checked amount (.ratio rate) (.single unit)
    | ratio target => exact convertRate_checked amount rate target

/-! ## Quotients -/

/-- A rule for quotients does not fit, on checked amounts and on machine numbers, or gives the same
quotient on both. -/
inductive SameQuotient :
    Option (Except UnitError (Quantity Checked)) → Option (Except UnitError (Quantity Float)) →
      Prop where
  | unfit : SameQuotient none none
  | taken (quotient : Quantity Float) :
      SameQuotient (some (.ok quotient.checked)) (some (.ok quotient))

theorem SameQuotient.or {first second : Option (Except UnitError (Quantity Checked))}
    {firstToo secondToo : Option (Except UnitError (Quantity Float))}
    (same : SameQuotient first firstToo) (later : SameQuotient second secondToo) :
    SameQuotient (first.or second) (firstToo.or secondToo) := by
  cases same with
  | unfit => exact later
  | taken quotient => exact .taken quotient

theorem SameQuotient.getD {result : Option (Except UnitError (Quantity Checked))}
    {resultToo : Option (Except UnitError (Quantity Float))}
    (same : SameQuotient result resultToo) (refusal : UnitError)
    (other : refusal ≠ .vanishingDivisor) :
    result.getD (.error refusal) = (resultToo.getD (.error refusal)).map checked ∧
      resultToo.getD (.error refusal) ≠ .error .vanishingDivisor := by
  cases same with
  | unfit => exact ⟨rfl, by simpa using other⟩
  | taken quotient => exact ⟨rfl, by simp⟩

/-- A divisor that reaches a scale is divided by. -/
theorem sameQuotient_of_reaches (dividend : Float) {scale : Int} {divisor : Float}
    (reaches : Reaches scale divisor.toModel.unpack) (measure : Option Measure) :
    SameQuotient (some do return ⟨← quotient (Checked.value dividend) (.value divisor), measure⟩)
      (some do return ⟨← quotient dividend divisor, measure⟩) := by
  have notZero : (divisor == 0) = false := reaches.beq_zero
  have divided : quotient dividend divisor = .ok (dividend / divisor) := by
    change (if (divisor == 0) = true then _ else _) = _
    rw [notZero]
    rfl
  have dividedToo : quotient (Checked.value dividend) (.value divisor) =
      .ok (.value (dividend / divisor)) :=
    congrArg Except.ok (Checked.value_div notZero)
  rw [divided, dividedToo]
  exact .taken ⟨dividend / divisor, measure⟩

section

variable (left : Float) {right : Float} (reaches : Reaches (-104) right.toModel.unpack)

include reaches

theorem sameQuotient_rateOf? (unit per : NamedUnit) :
    SameQuotient (rateOf? (Checked.value left) (.value right) unit per)
      (rateOf? left right unit per) := by
  have base : Reaches (-165) (per.toBase right).toModel.unpack :=
    per.reaches_toBase reaches (by decide)
  unfold rateOf?
  split
  · split
    · rw [NamedUnit.toBase_value]
      exact sameQuotient_of_reaches _ base _
    · exact sameQuotient_of_reaches _ reaches _
  · exact .unfit

theorem sameQuotient_timeAt? (unit : NamedUnit) (rate : Rate) :
    SameQuotient (timeAt? (Checked.value left) (.value right) unit rate)
      (timeAt? left right unit rate) := by
  have base : Reaches (-165) (rate.numerator.toBase right).toModel.unpack :=
    rate.numerator.reaches_toBase reaches (by decide)
  have speed : Reaches (-228) (rate.toBase right).toModel.unpack :=
    rate.reaches_toBase reaches (by decide)
  have bits : Reaches (-228) (rate.toBase right * bitsPerByte).toModel.unpack :=
    speed.mul within_bitsPerByte (by decide)
  unfold timeAt?
  simp only [NamedUnit.toBase_value, Rate.toBase_value, bitsPerByte_value, Checked.value_mul]
  split
  · exact .unfit
  · split
    · exact sameQuotient_of_reaches _ base _
    · split
      · exact .unfit
      · split <;> split
        · exact sameQuotient_of_reaches _ bits _
        · exact sameQuotient_of_reaches _ speed _
        · exact sameQuotient_of_reaches _ bits _
        · exact sameQuotient_of_reaches _ speed _

theorem sameQuotient_ratio? (leftMeasure rightMeasure : Measure) :
    SameQuotient (ratio? (Checked.value left) (.value right) leftMeasure rightMeasure)
      (ratio? left right leftMeasure rightMeasure) := by
  have base : Reaches (-228) (rightMeasure.toBase right).toModel.unpack :=
    rightMeasure.reaches_toBase reaches (by decide)
  have bits : Reaches (-228) (rightMeasure.toBase right * bitsPerByte).toModel.unpack :=
    base.mul within_bitsPerByte (by decide)
  unfold ratio?
  simp only [Measure.toBase_value, bitsPerByte_value, Checked.value_mul]
  split
  · exact sameQuotient_of_reaches _ base _
  · exact sameQuotient_of_reaches _ bits _
  · split
    · exact .unfit
    · split
      · exact .unfit
      · exact sameQuotient_of_reaches _ base _

theorem sameQuotient_divideMeasured? (leftMeasure rightMeasure : Measure) :
    SameQuotient (divideMeasured? (Checked.value left) (.value right) leftMeasure rightMeasure)
      (divideMeasured? left right leftMeasure rightMeasure) := by
  have ratio := sameQuotient_ratio? left reaches leftMeasure rightMeasure
  cases leftMeasure with
  | ratio rate => exact ratio
  | single unit =>
      cases rightMeasure with
      | single per => exact (sameQuotient_rateOf? left reaches unit per).or ratio
      | ratio rate => exact (sameQuotient_timeAt? left reaches unit rate).or ratio

end

/-- A divisor that is not negligible is divided by, with no fault and no refusal. -/
theorem divide_checked (left right : Quantity Float) :
    left.checked.divide right.checked = (left.divide right).map checked ∧
      left.divide right ≠ .error .vanishingDivisor := by
  obtain ⟨leftAmount, leftMeasure⟩ := left
  obtain ⟨rightAmount, rightMeasure⟩ := right
  have guard : Scalar.isNegligible (Checked.value rightAmount) = Scalar.isNegligible rightAmount :=
    rfl
  unfold divide
  simp only [checked, guard]
  cases negligible : Scalar.isNegligible rightAmount with
  | true => exact ⟨rfl, by simp⟩
  | false =>
      have reaches := reaches_of_not_negligible negligible
      cases rightMeasure with
      | none =>
          exact (sameQuotient_of_reaches leftAmount reaches leftMeasure).getD .divisionByZero
            (by simp)
      | some rightMeasure =>
          cases leftMeasure with
          | none => exact ⟨rfl, by simp⟩
          | some leftMeasure =>
              exact (sameQuotient_divideMeasured? leftAmount reaches leftMeasure rightMeasure).getD
                (.noQuotient (some leftMeasure) (some rightMeasure)) (by simp)

/-! ## Every operation -/

/-- No operation on two quantities divides by zero, neither does the conversion of one. -/
structure Unfaulted (left right : Quantity Float) (target : Measure) : Prop where
  add : left.checked.add right.checked = (left.add right).map checked
  subtract : left.checked.subtract right.checked = (left.subtract right).map checked
  multiply : left.checked.multiply right.checked = (left.multiply right).map checked
  divide : left.checked.divide right.checked = (left.divide right).map checked
  accumulate : left.checked.accumulate? right.checked = (left.accumulate? right).map checked
  convert : left.checked.convert target = (left.convert target).map checked
  toBase : target.toBase (Checked.value left.amount) = .value (target.toBase left.amount)

theorem unfaulted (left right : Quantity Float) (target : Measure) :
    Unfaulted left right target where
  add := add_checked left right
  subtract := subtract_checked left right
  multiply := multiply_checked left right
  divide := (divide_checked left right).1
  accumulate := accumulate?_checked left right
  convert := convert_checked left target
  toBase := target.toBase_value left.amount

end Quantity

end NoteCalc
