import Mathlib.Tactic.SplitIfs
import NoteCalc.Proofs.Success
import NoteCalc.Quantity.Arithmetic

/-!
# The rules of arithmetic

Each operation on quantities follows a list of rules of which the first that fits is used.  For each
operation, a relation has one constructor for each rule, with what the rule asks of the two measures
and what it gives; whenever the operation succeeds, one of its rules was used.  What is kept by
every rule is thus shown without looking into the search for the rule.
-/

namespace NoteCalc

namespace Quantity

variable {α : Type} [Scalar α] {left right result : Quantity α}

/-! ## Conversion -/

/-- The amounts that conversion gives. -/
inductive Converted (amount : α) : Measure → Measure → α → Prop where
  /-- Rates of one numerator have their period rescaled. -/
  | rescaled {source target : Rate} (sameNumerator : source.numerator = target.numerator)
      (samePeriods : source.denominator.family = target.denominator.family) :
      Converted amount (.ratio source) (.ratio target) (amount * target.period / source.period)
  /-- Measures of one kind share their base. -/
  | throughBase {source target : Measure} (sameKind : source.kind = target.kind)
      (alike : source.sameShape target = true) :
      Converted amount source target (target.fromBase (source.toBase amount))
  | toBytes {source target : Measure} (bridges : source.bridgesBitsAndBytes target = true)
      (ofBits : source.countsBits = true) :
      Converted amount source target (target.fromBase (source.toBase amount / bitsPerByte))
  | toBits {source target : Measure} (bridges : source.bridgesBitsAndBytes target = true)
      (ofBytes : source.countsBits = false) :
      Converted amount source target (target.fromBase (source.toBase amount * bitsPerByte))

theorem converted_of_convertByBase {amount : α} {source target : Measure}
    (isOk : convertByBase amount source target = .ok result) :
    ∃ converted, result = of converted target ∧ Converted amount source target converted := by
  unfold convertByBase at isOk
  split_ifs at isOk with sameBase bridges ofBits
  · exact ⟨_, (Except.ok.inj isOk).symm, .throughBase sameBase.1 sameBase.2⟩
  · exact ⟨_, (Except.ok.inj isOk).symm, .toBytes bridges ofBits⟩
  · exact ⟨_, (Except.ok.inj isOk).symm, .toBits bridges (by simpa using ofBits)⟩

theorem converted_of_convert {amount : α} {source target : Measure}
    (isOk : (of amount source).convert target = .ok result) :
    ∃ converted, result = of converted target ∧ Converted amount source target converted := by
  cases source with
  | single unit => exact converted_of_convertByBase isOk
  | ratio source =>
      cases target with
      | single unit => exact converted_of_convertByBase isOk
      | ratio target =>
          change convertRate amount source target = .ok result at isOk
          unfold convertRate at isOk
          split_ifs at isOk with sameNumerator samePeriods
          · exact ⟨_, (Except.ok.inj isOk).symm, .rescaled sameNumerator samePeriods⟩
          · exact converted_of_convertByBase isOk

/-- A plain number becomes a percentage, and a measured quantity is converted by one of the
rules. -/
theorem convert_cases {target : Measure} (isOk : left.convert target = .ok result) :
    (left.measure = none ∧ target.kind = .percentage ∧
      result = of (target.fromBase left.amount) target) ∨
    ∃ source converted, left.measure = some source ∧ result = of converted target ∧
      Converted left.amount source target converted := by
  obtain ⟨amount, measure⟩ := left
  cases measure with
  | none =>
      unfold convert at isOk
      simp only at isOk
      split_ifs at isOk with isPercentage
      exact .inl ⟨rfl, isPercentage, (Except.ok.inj isOk).symm⟩
  | some source =>
      obtain ⟨converted, isResult, converts⟩ := converted_of_convert isOk
      exact .inr ⟨source, converted, rfl, isResult, converts⟩

theorem measure_of_convert {target : Measure} (isOk : left.convert target = .ok result) :
    result.measure = some target := by
  rcases convert_cases isOk with ⟨-, -, rfl⟩ | ⟨source, converted, -, rfl, -⟩
  · rfl
  · rfl

/-! ## Sums and differences -/

/-- What combining two quantities gives. -/
inductive Combined (operation : α → α → α) (left right : Quantity α) : Quantity α → Prop where
  | plain (isLeft : left.measure = none) (isRight : right.measure = none) :
      Combined operation left right ⟨operation left.amount right.amount, none⟩
  | measured {first second : Measure} (isLeft : left.measure = some first)
      (isRight : right.measure = some second) (addable : first.addable second = true) :
      Combined operation left right (of ((Measure.finer α first second).fromBase
        (operation (first.toBase left.amount) (second.toBase right.amount)))
          (Measure.finer α first second))

theorem combine_eq_ok_iff {operation : α → α → α}
    {refusal : Option Measure → Option Measure → UnitError} :
    combine operation refusal left right = .ok result ↔ Combined operation left right result := by
  constructor
  · intro isOk
    unfold combine at isOk
    split at isOk
    · rename_i isLeft isRight
      obtain rfl := Except.ok.inj isOk
      exact .plain isLeft isRight
    · rename_i first second isLeft isRight
      split_ifs at isOk with addable
      obtain rfl := Except.ok.inj isOk
      exact .measured isLeft isRight addable
    · exact absurd isOk (by simp)
  · intro combined
    cases combined with
    | plain isLeft isRight => simp [combine, isLeft, isRight]
    | measured isLeft isRight addable => simp [combine, isLeft, isRight, addable]

/-! ## Products -/

/-- The two sides of an operation, in one order or the other. -/
def Sides (left right first second : Quantity α) : Prop :=
  (first = left ∧ second = right) ∨ (first = right ∧ second = left)

/-- One side is an amount of data in a given unit, and the other side is a duration. -/
def DataAndDuration (left right : Quantity α) (unit : NamedUnit) : Prop :=
  ∃ data duration period, Sides left right data duration ∧
    data.measure = some (.single unit) ∧ duration.measure = some (.single period) ∧
    unit.family = .data ∧ period.family = .time

/-- What multiplying two quantities gives. -/
inductive Multiplied (left right : Quantity α) : Quantity α → Prop where
  | plainLeft (isLeft : left.measure = none) :
      Multiplied left right ⟨left.amount * right.amount, right.measure⟩
  | plainRight (isRight : right.measure = none) :
      Multiplied left right ⟨left.amount * right.amount, left.measure⟩
  /-- A duration yields the rate times the number of its periods. -/
  | yield {duration rate : Quantity α} {unit : NamedUnit} {per : Rate}
      (sides : Sides left right duration rate) (isDuration : duration.measure = some (.single unit))
      (isRate : rate.measure = some (.ratio per)) (isTime : unit.family = .time)
      (perTime : per.denominator.family = .time) :
      Multiplied left right
        (of (rate.amount * (unit.toBase duration.amount / per.period)) (.single per.numerator))
  /-- Data cost the price times the number of portions. -/
  | cost {data price : Quantity α} {unit : NamedUnit} {per : Rate}
      (sides : Sides left right data price) (isData : data.measure = some (.single unit))
      (isPrice : price.measure = some (.ratio per)) (ofData : unit.family = .data)
      (isMoney : per.numerator.family = .currency) (perData : per.denominator.family = .data) :
      Multiplied left right
        (of (price.amount * (unit.toBase data.amount / per.period)) (.single per.numerator))
  | dataOverTime {data duration : Quantity α} {unit period : NamedUnit}
      (sides : Sides left right data duration) (isData : data.measure = some (.single unit))
      (isDuration : duration.measure = some (.single period)) (ofData : unit.family = .data)
      (isTime : period.family = .time) :
      Multiplied left right (of (left.amount * right.amount) (.single unit))

theorem multiplied_of_overTime {duration rate : Quantity α}
    (sides : Sides left right duration rate) (isYield : overTime? duration rate = some result) :
    Multiplied left right result := by
  unfold overTime? at isYield
  split at isYield
  · rename_i isDuration isRate
    split_ifs at isYield with fits
    obtain rfl := Option.some.inj isYield
    exact .yield sides isDuration isRate fits.1 (beq_iff_eq.mp fits.2)
  · exact absurd isYield (by simp)

theorem multiplied_of_cost {data price : Quantity α} (sides : Sides left right data price)
    (isCost : cost? data price = some result) : Multiplied left right result := by
  unfold cost? at isCost
  split at isCost
  · rename_i isData isPrice
    split_ifs at isCost with fits
    obtain rfl := Option.some.inj isCost
    exact .cost sides isData isPrice fits.1 fits.2.1 fits.2.2
  · exact absurd isCost (by simp)

theorem multiplied_of_dataOverTime (isData : dataOverTime? left right = some result) :
    Multiplied left right result := by
  unfold dataOverTime? at isData
  split at isData
  · rename_i isLeft isRight
    split_ifs at isData with dataFirst dataSecond
    · obtain rfl := Option.some.inj isData
      exact .dataOverTime (.inl ⟨rfl, rfl⟩) isLeft isRight dataFirst.1 dataFirst.2
    · obtain rfl := Option.some.inj isData
      exact .dataOverTime (.inr ⟨rfl, rfl⟩) isRight isLeft dataSecond.1 dataSecond.2
  · exact absurd isData (by simp)

/-- Whatever a product is, one of the rules gave it. -/
theorem multiplied_of_multiply (isOk : left.multiply right = .ok result) :
    Multiplied left right result := by
  unfold multiply at isOk
  split at isOk
  · rename_i isLeft
    obtain rfl := Except.ok.inj isOk
    exact .plainLeft isLeft
  · rename_i isRight _
    obtain rfl := Except.ok.inj isOk
    exact .plainRight isRight
  · simp only at isOk
    split at isOk
    · rename_i found
      obtain rfl := Except.ok.inj isOk
      simp only [Option.or_eq_some_iff] at found
      rcases found with found | ⟨-, found | ⟨-, found | ⟨-, found | ⟨-, found⟩⟩⟩⟩
      · exact multiplied_of_overTime (.inl ⟨rfl, rfl⟩) found
      · exact multiplied_of_overTime (.inr ⟨rfl, rfl⟩) found
      · exact multiplied_of_cost (.inl ⟨rfl, rfl⟩) found
      · exact multiplied_of_cost (.inr ⟨rfl, rfl⟩) found
      · exact multiplied_of_dataOverTime found
    · exact absurd isOk (by simp)

/-! ## Quotients -/

/-- What dividing two quantities gives. -/
inductive Divided (left right : Quantity α) : Quantity α → Prop where
  | byPlain (isRight : right.measure = none) :
      Divided left right ⟨left.amount / right.amount, left.measure⟩
  | rate {unit per : NamedUnit} (isLeft : left.measure = some (.single unit))
      (isRight : right.measure = some (.single per)) (forms : formsRate unit per = true) :
      Divided left right (of (left.amount / right.amount) (.ratio ⟨unit, per, forms⟩))
  /-- Requests are counted per second. -/
  | requestRate {unit per : NamedUnit} (isLeft : left.measure = some (.single unit))
      (isRight : right.measure = some (.single per)) (counted : unit.family = .request)
      (perTime : per.family = .time) :
      Divided left right (of (left.amount / per.toBase right.amount)
        (.ratio ⟨unit, .time .second, formsRate_second counted⟩))
  /-- The time that bits or data take at a rate of their family. -/
  | time {unit : NamedUnit} {rate : Rate} (isLeft : left.measure = some (.single unit))
      (isRight : right.measure = some (.ratio rate))
      (counted : unit.family = .data ∨ unit.family = .bit)
      (perTime : rate.denominator.family = .time)
      (sameFamily : rate.numerator.family = unit.family) :
      Divided left right (of (unit.toBase left.amount / rate.numerator.toBase right.amount)
        (.single rate.denominator))
  | timeOfBytes {unit : NamedUnit} {rate : Rate} (isLeft : left.measure = some (.single unit))
      (isRight : right.measure = some (.ratio rate)) (ofData : unit.family = .data)
      (ofBits : rate.numerator.family = .bit) :
      Divided left right (of (unit.toBase left.amount * bitsPerByte / rate.toBase right.amount)
        (.single (.time .second)))
  | timeOfBits {unit : NamedUnit} {rate : Rate} (isLeft : left.measure = some (.single unit))
      (isRight : right.measure = some (.ratio rate)) (ofBits : unit.family = .bit)
      (ofData : rate.numerator.family = .data) :
      Divided left right (of (unit.toBase left.amount / (rate.toBase right.amount * bitsPerByte))
        (.single (.time .second)))
  | like {first second : Measure} (isLeft : left.measure = some first)
      (isRight : right.measure = some second) (sameKind : first.kind = second.kind)
      (sameMoney : first.kind = .currency ∨ first.kind = .price → first.addable second = true) :
      Divided left right ⟨first.toBase left.amount / second.toBase right.amount, none⟩
  | bytesPerBits {first second : Measure} (isLeft : left.measure = some first)
      (isRight : right.measure = some second) (ofData : first.kind = .data)
      (ofBits : second.kind = .bit) :
      Divided left right
        ⟨first.toBase left.amount * bitsPerByte / second.toBase right.amount, none⟩
  | bitsPerBytes {first second : Measure} (isLeft : left.measure = some first)
      (isRight : right.measure = some second) (ofBits : first.kind = .bit)
      (ofData : second.kind = .data) :
      Divided left right
        ⟨first.toBase left.amount / (second.toBase right.amount * bitsPerByte), none⟩

theorem quotient_eq_ok {dividend divisor found : α} (isOk : quotient dividend divisor = .ok found) :
    found = dividend / divisor := by
  unfold quotient at isOk
  split_ifs at isOk
  exact (Except.ok.inj isOk).symm

/-- A quotient that is put into a quantity. -/
theorem quotient_bind_eq_ok {dividend divisor : α} {measured : α → Quantity α}
    (isOk : (do return measured (← quotient dividend divisor) : Except UnitError (Quantity α)) =
      .ok result) :
    result = measured (dividend / divisor) := by
  obtain ⟨found, isQuotient, same⟩ := bind_eq_ok_iff.mp isOk
  rw [← quotient_eq_ok isQuotient]
  exact (Except.ok.inj same).symm

theorem divided_of_rateOf {unit per : NamedUnit} (isLeft : left.measure = some (.single unit))
    (isRight : right.measure = some (.single per))
    (isRate : rateOf? left.amount right.amount unit per = some (.ok result)) :
    Divided left right result := by
  unfold rateOf? at isRate
  split_ifs at isRate with forms counted
  · obtain rfl := quotient_bind_eq_ok (Option.some.inj isRate)
    have perTime : per.family = .time := by
      unfold formsRate at forms
      split at forms <;> simp_all
    exact .requestRate isLeft isRight counted perTime
  · obtain rfl := quotient_bind_eq_ok (Option.some.inj isRate)
    exact .rate isLeft isRight forms

theorem divided_of_timeAt {unit : NamedUnit} {rate : Rate}
    (isLeft : left.measure = some (.single unit)) (isRight : right.measure = some (.ratio rate))
    (isTime : timeAt? left.amount right.amount unit rate = some (.ok result)) :
    Divided left right result := by
  unfold timeAt? at isTime
  simp only at isTime
  split_ifs at isTime with uncounted sameFamily uncountedRate ofData rateOfData rateOfData
  all_goals
    have isResult := quotient_bind_eq_ok (Option.some.inj isTime)
    simp only [Bool.not_eq_true, Bool.not_eq_false', Bool.and_eq_true, Bool.or_eq_true,
      beq_iff_eq] at uncounted
    obtain ⟨counted, perTime⟩ := uncounted
  · exact isResult ▸ .time isLeft isRight counted (beq_iff_eq.mp perTime) sameFamily
  all_goals
    simp only [Bool.not_eq_true, Bool.not_eq_false', Bool.or_eq_true, beq_iff_eq] at uncountedRate
  · exact absurd (rateOfData.trans ofData.symm) sameFamily
  · exact isResult ▸ .timeOfBytes isLeft isRight ofData (uncountedRate.resolve_left rateOfData)
  · exact isResult ▸ .timeOfBits isLeft isRight (counted.resolve_left ofData) rateOfData
  · have bothBits := (uncountedRate.resolve_left rateOfData).trans
      (counted.resolve_left ofData).symm
    exact absurd bothBits sameFamily

theorem divided_of_ratio {first second : Measure} (isLeft : left.measure = some first)
    (isRight : right.measure = some second)
    (isRatio : ratio? left.amount right.amount first second = some (.ok result)) :
    Divided left right result := by
  unfold ratio? at isRatio
  simp only at isRatio
  split at isRatio
  · obtain rfl := quotient_bind_eq_ok (Option.some.inj isRatio)
    exact .bytesPerBits isLeft isRight ‹_› ‹_›
  · obtain rfl := quotient_bind_eq_ok (Option.some.inj isRatio)
    exact .bitsPerBytes isLeft isRight ‹_› ‹_›
  · split_ifs at isRatio with otherKind otherMoney
    obtain rfl := quotient_bind_eq_ok (Option.some.inj isRatio)
    refine .like isLeft isRight (by simpa using otherKind) fun money => ?_
    simpa using fun other => otherMoney ⟨money, other⟩

/-- Whatever a quotient is, one of the rules gave it. -/
theorem divided_of_divide (isOk : left.divide right = .ok result) :
    Divided left right result := by
  unfold divide at isOk
  split_ifs at isOk
  split at isOk
  · rename_i isRight
    obtain rfl := quotient_bind_eq_ok isOk
    exact .byPlain isRight
  · exact absurd isOk (by simp)
  · rename_i first second isLeft isRight
    have found : divideMeasured? left.amount right.amount first second = some (.ok result) := by
      cases isFound : divideMeasured? left.amount right.amount first second with
      | none => exact absurd (isFound ▸ isOk) (by simp)
      | some found => rw [isFound, Option.getD_some] at isOk; rw [isOk]
    unfold divideMeasured? at found
    rcases Option.or_eq_some_iff.mp found with special | ⟨-, isRatio⟩
    · split at special
      · exact divided_of_rateOf isLeft isRight special
      · exact divided_of_timeAt isLeft isRight special
      · exact absurd special (by simp)
    · exact divided_of_ratio isLeft isRight isRatio

end Quantity

end NoteCalc
