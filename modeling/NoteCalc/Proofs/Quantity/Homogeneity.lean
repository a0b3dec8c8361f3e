import Mathlib.Algebra.Group.Pi.Basic
import Mathlib.Algebra.Group.Int.Defs
import Mathlib.Tactic.Abel
import NoteCalc.Proofs.Quantity.Convertibility
import NoteCalc.Quantity.Text

/-!
# Dimensional homogeneity

A measure has a dimension: an exponent for time, for information, for requests and for each
currency.  Conversion, sums and differences stay in the dimension of their operands, products add
dimensions and quotients subtract them.  One product does not: data times a duration stays data.
-/

namespace NoteCalc

/-- What amounts are amounts of.  Bits and bytes are both amounts of information, and nothing is
exchanged between currencies. -/
inductive BaseDimension where
  | time
  | information
  | requests
  | money (currency : Currency)
deriving Repr, DecidableEq

/-- An exponent for each base dimension. -/
abbrev Dimension := BaseDimension → Int

namespace NamedUnit

/-- The dimension of a unit.  A percentage has none. -/
def dimension : NamedUnit → Dimension
  | .time _ => Pi.single .time 1
  | .bit _ | .byte _ => Pi.single .information 1
  | .request | .query => Pi.single .requests 1
  | .percent => 0
  | .currency money => Pi.single (.money money) 1

theorem dimension_of_time {unit : NamedUnit} (isTime : unit.family = .time) :
    unit.dimension = Pi.single .time 1 := by
  cases unit <;> first | rfl | exact absurd isTime (by simp [family])

theorem dimension_of_information {unit : NamedUnit}
    (counted : unit.family = .data ∨ unit.family = .bit) :
    unit.dimension = Pi.single .information 1 := by
  cases unit <;> first | rfl | exact absurd counted (by simp [family])

/-- Units of one family have one dimension, if it is not that of money. -/
theorem dimension_congr {left right : NamedUnit}
    (sameCounted : left.family.bridged = right.family.bridged)
    (sameMoney : left.currency? = right.currency?) : left.dimension = right.dimension := by
  cases left <;> cases right <;>
    simp_all [family, Family.bridged, currency?, dimension]

end NamedUnit

/-- Something per time, or money per data. -/
def Rate.IsSupported (rate : Rate) : Prop :=
  (rate.denominator.family = .time ∧
    rate.numerator.family ∈ [.bit, .data, .request, .currency]) ∨
  (rate.denominator.family = .data ∧ rate.numerator.family = .currency)

theorem Rate.denominator_ne_currency (rate : Rate) : rate.denominator.family ≠ .currency := by
  rcases rate.family_cases with ⟨perTime, -⟩ | ⟨-, perTime | perData⟩ <;> simp [*]

theorem Rate.isSupported (rate : Rate) : rate.IsSupported := by
  rcases rate.family_cases with ⟨perTime, isCounted | isCounted | isCounted⟩ |
    ⟨isMoney, perTime | perData⟩ <;> simp [IsSupported, *]

namespace Measure

/-- The dimension of a measure. -/
def dimension : Measure → Dimension
  | .single unit => unit.dimension
  | .ratio rate => rate.numerator.dimension - rate.denominator.dimension

/-- Measures that convert to each other have one dimension. -/
theorem dimension_of_sameClass {left right : Measure}
    (sameClass : left.conversionClass = right.conversionClass) :
    left.dimension = right.dimension := by
  rcases sameClass_cases sameClass with ⟨unit, other, rfl, rfl, sameCounted, sameMoney⟩ |
    ⟨rate, other, rfl, rfl, sameCounted, samePer, sameMoney⟩
  · exact NamedUnit.dimension_congr sameCounted sameMoney
  · have samePeriod : rate.denominator.dimension = other.denominator.dimension := by
      apply NamedUnit.dimension_congr (congrArg Family.bridged samePer)
      rw [NamedUnit.currency?_eq_iff samePer]
      exact fun isMoney => absurd isMoney rate.denominator_ne_currency
    simp only [dimension, NamedUnit.dimension_congr sameCounted sameMoney, samePeriod]

/-- Information over information per time is time. -/
theorem dimension_of_flow {unit : NamedUnit} {rate : Rate}
    (counted : unit.family = .data ∨ unit.family = .bit)
    (countedRate : rate.numerator.family = .data ∨ rate.numerator.family = .bit) :
    (single unit).dimension - (ratio rate).dimension = Pi.single .time 1 := by
  have perTime : rate.denominator.family = .time := by
    rcases rate.family_cases with ⟨perTime, -⟩ | ⟨isMoney, -⟩
    · exact perTime
    · exact absurd countedRate (by simp [isMoney])
  simp only [dimension, NamedUnit.dimension_of_information counted,
    NamedUnit.dimension_of_information countedRate, NamedUnit.dimension_of_time perTime]
  exact sub_sub_cancel _ _

theorem dimension_of_percentage {measure : Measure} (isPercentage : measure.kind = .percentage) :
    measure.dimension = 0 := by
  cases measure with
  | single unit => cases unit <;> first | rfl | simp [kind, NamedUnit.family] at isPercentage
  | ratio rate => cases isCounted : rate.numerator.family <;>
      simp [kind, Rate.kind, isCounted] at isPercentage

end Measure

namespace Quantity

section Dimensions

variable {α : Type} {left right first second : Quantity α}

/-- The dimension of a quantity.  A plain number has none. -/
def dimension (quantity : Quantity α) : Dimension :=
  quantity.measure.elim 0 Measure.dimension

/-- A quantity has a given dimension, and its measure is a named unit or a supported rate. -/
structure HasDimension (quantity : Quantity α) (dimension : Dimension) : Prop where
  dimension_eq : quantity.dimension = dimension
  isSupported : ∀ rate, quantity.measure = some (.ratio rate) → rate.IsSupported

theorem hasDimension_iff {dimension : Dimension} :
    left.HasDimension dimension ↔ left.dimension = dimension :=
  ⟨HasDimension.dimension_eq, fun same => ⟨same, fun rate _ => rate.isSupported⟩⟩

theorem dimension_of (amount : α) (measure : Measure) :
    (of amount measure).dimension = measure.dimension := rfl

theorem dimension_of_plain (plain : left.measure = none) : left.dimension = 0 := by
  simp [dimension, plain]

theorem dimension_of_measured {measure : Measure} (measured : left.measure = some measure) :
    left.dimension = measure.dimension := by
  simp [dimension, measured]

theorem dimension_of_ratio {source target : Measure} {amount : α}
    (isLeft : left.measure = some source) (isRight : right.measure = some target)
    (sameClass : source.conversionClass = target.conversionClass) :
    dimension ⟨amount, none⟩ = left.dimension - right.dimension := by
  rw [dimension_of_measured isLeft, dimension_of_measured isRight,
    Measure.dimension_of_sameClass sameClass, sub_self]
  rfl

theorem Sides.dimension_add (sides : Sides left right first second) :
    left.dimension + right.dimension = first.dimension + second.dimension := by
  rcases sides with ⟨rfl, rfl⟩ | ⟨rfl, rfl⟩
  · rfl
  · exact add_comm _ _

end Dimensions

variable {α : Type} [Scalar α] {left right result : Quantity α}

theorem dimension_of_convert {target : Measure} (isOk : left.convert target = .ok result) :
    result.dimension = left.dimension := by
  rcases convert_cases isOk with
    ⟨plain, isPercentage, rfl⟩ | ⟨source, converted, measured, rfl, converts⟩
  · rw [dimension_of_plain plain]
    exact Measure.dimension_of_percentage isPercentage
  · rw [dimension_of_measured measured]
    exact (Measure.dimension_of_sameClass converts.sameClass).symm

theorem Combined.dimension_eq {operation : α → α → α}
    (combined : Combined operation left right result) :
    result.dimension = left.dimension ∧ result.dimension = right.dimension := by
  cases combined with
  | plain isLeft isRight =>
      rw [dimension_of_plain isLeft, dimension_of_plain isRight]
      exact ⟨rfl, rfl⟩
  | @measured first second isLeft isRight addable =>
      have sameDimension := Measure.dimension_of_sameClass
        (Measure.conversionClass_of_addable addable)
      rw [dimension_of_measured isLeft, dimension_of_measured isRight, ← sameDimension, and_self]
      rcases Measure.finer_eq_or α first second with isFirst | isSecond
      · rw [isFirst]
        rfl
      · rw [isSecond, sameDimension]
        rfl

theorem Multiplied.dimension_eq (multiplied : Multiplied left right result)
    (noData : ¬ ∃ unit, DataAndDuration left right unit) :
    result.dimension = left.dimension + right.dimension := by
  cases multiplied with
  | plainLeft isLeft =>
      rw [dimension_of_plain isLeft, zero_add]
      rfl
  | plainRight isRight =>
      rw [dimension_of_plain isRight, add_zero]
      rfl
  | @yield duration rate unit per sides isDuration isRate isTime perTime =>
      rw [sides.dimension_add, dimension_of_measured isDuration, dimension_of_measured isRate]
      simp only [Measure.dimension, NamedUnit.dimension_of_time isTime,
        NamedUnit.dimension_of_time perTime]
      exact (add_sub_cancel _ _).symm
  | @cost data price unit per sides isData isPrice ofData isMoney perData =>
      rw [sides.dimension_add, dimension_of_measured isData, dimension_of_measured isPrice]
      simp only [Measure.dimension, NamedUnit.dimension_of_information (.inl ofData),
        NamedUnit.dimension_of_information (.inl perData)]
      exact (add_sub_cancel _ _).symm
  | dataOverTime sides isData isDuration ofData isTime =>
      exact absurd ⟨_, _, _, _, sides, isData, isDuration, ofData, isTime⟩ noData

/-- Data times a duration is data. -/
theorem multiply_of_dataAndDuration {unit : NamedUnit} (isData : DataAndDuration left right unit) :
    left.multiply right = .ok (of (left.amount * right.amount) (.single unit)) := by
  obtain ⟨data, duration, period, ⟨rfl, rfl⟩ | ⟨rfl, rfl⟩, isAmount, isDuration, ofData, isTime⟩ :=
    isData
  · simp [multiply, overTime?, cost?, dataOverTime?, isAmount, isDuration, ofData, isTime]
  · simp [multiply, overTime?, cost?, dataOverTime?, isAmount, isDuration, ofData, isTime]

theorem Divided.dimension_eq (divided : Divided left right result) :
    result.dimension = left.dimension - right.dimension := by
  cases divided with
  | byPlain isRight =>
      rw [dimension_of_plain isRight, sub_zero]
      rfl
  | rate isLeft isRight forms =>
      rw [dimension_of_measured isLeft, dimension_of_measured isRight]
      rfl
  | @requestRate unit per isLeft isRight counted perTime =>
      rw [dimension_of_measured isLeft, dimension_of_measured isRight]
      simp only [dimension_of, Measure.dimension, NamedUnit.dimension_of_time perTime]
      rfl
  | time isLeft isRight counted perTime sameFamily =>
      rw [dimension_of_measured isLeft, dimension_of_measured isRight,
        Measure.dimension_of_flow counted (sameFamily ▸ counted), dimension_of,
        Measure.dimension, NamedUnit.dimension_of_time perTime]
  | timeOfBytes isLeft isRight ofData ofBits =>
      rw [dimension_of_measured isLeft, dimension_of_measured isRight,
        Measure.dimension_of_flow (.inl ofData) (.inr ofBits)]
      rfl
  | timeOfBits isLeft isRight ofBits ofData =>
      rw [dimension_of_measured isLeft, dimension_of_measured isRight,
        Measure.dimension_of_flow (.inr ofBits) (.inl ofData)]
      rfl
  | like isLeft isRight sameKind sameMoney =>
      exact dimension_of_ratio isLeft isRight (Measure.conversionClass_of_like sameKind sameMoney)
  | bytesPerBits isLeft isRight ofData ofBits =>
      exact dimension_of_ratio isLeft isRight (Measure.conversionClass_of_bridges
        (by simp [Measure.bridgesBitsAndBytes, ofData, ofBits]))
  | bitsPerBytes isLeft isRight ofBits ofData =>
      exact dimension_of_ratio isLeft isRight (Measure.conversionClass_of_bridges
        (by simp [Measure.bridgesBitsAndBytes, ofBits, ofData]))

/-- Conversion, sums and differences keep the dimension of the operands, products add the dimensions
and quotients subtract them, and every rate that comes out is a supported one.  Only data times a
duration keep the unit of the data. -/
theorem arithmetic_homogeneous (left right result : Quantity α) :
    (∀ target, left.convert target = .ok result → result.HasDimension left.dimension) ∧
    (left.add right = .ok result ∨ left.subtract right = .ok result →
      result.HasDimension left.dimension ∧ result.HasDimension right.dimension) ∧
    (left.multiply right = .ok result →
      (∀ unit, DataAndDuration left right unit → result.measure = some (.single unit)) ∧
      ((¬ ∃ unit, DataAndDuration left right unit) →
        result.HasDimension (left.dimension + right.dimension))) ∧
    (left.divide right = .ok result →
      result.HasDimension (left.dimension - right.dimension)) := by
  simp only [hasDimension_iff]
  refine ⟨fun target => dimension_of_convert, ?_, ?_, ?_⟩
  · rintro (isSum | isDifference)
    · exact (combine_eq_ok_iff.mp isSum).dimension_eq
    · exact (combine_eq_ok_iff.mp isDifference).dimension_eq
  · intro isProduct
    constructor
    · intro unit isData
      rw [multiply_of_dataAndDuration isData] at isProduct
      rw [← Except.ok.inj isProduct]
      rfl
    · exact (multiplied_of_multiply isProduct).dimension_eq
  · exact fun isQuotient => (divided_of_divide isQuotient).dimension_eq

/-- Half a gibibyte at three dollars for a gibibyte. -/
theorem homogeneous_cost :
    let data : Quantity Float := of 512 (.single (.byte (some ⟨.binary, .mega⟩)))
    let price : Quantity Float :=
      of 3 (.ratio ⟨.currency .usd, .byte (some ⟨.binary, .giga⟩), rfl⟩)
    ∃ cost, data.multiply price = .ok cost ∧ cost.text = "1.5 $" ∧
      (¬ ∃ unit, DataAndDuration data price unit) ∧
      cost.HasDimension (data.dimension + price.dimension) := by
  intro data price
  obtain ⟨cost, isOk, isText⟩ : ∃ cost, data.multiply price = .ok cost ∧ cost.text = "1.5 $" :=
    exists_ok_of_toOption_map (by decide +kernel)
  have noDuration : ¬ ∃ unit, DataAndDuration data price unit := by
    rintro ⟨unit, first, second, period, ⟨rfl, rfl⟩ | ⟨rfl, rfl⟩, isData, isDuration, -⟩
    · exact absurd isDuration (by simp [price, of])
    · exact absurd isData (by simp [price, of])
  exact ⟨cost, isOk, isText, noDuration,
    ((arithmetic_homogeneous data price cost).2.2.1 isOk).2 noDuration⟩

end Quantity

end NoteCalc
