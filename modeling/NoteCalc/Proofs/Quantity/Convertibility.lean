import NoteCalc.Proofs.Measure.ConversionClass
import NoteCalc.Proofs.Quantity.ArithmeticRules

/-!
# Which quantities convert and add up

Conversion succeeds within the classes of an equivalence, and sums and differences within those of a
finer one.  Neither looks at the amounts.
-/

namespace NoteCalc

namespace Quantity

/-- A quantity can be expressed in a measure. -/
def ConvertsTo {α : Type} [Scalar α] (quantity : Quantity α) (target : Measure) : Prop :=
  ∃ result, quantity.convert target = .ok result

section Success

variable {α : Type} [Scalar α] {left right result : Quantity α} {first second : Measure}

theorem Converted.sameClass {amount converted : α} {source target : Measure}
    (converts : Converted amount source target converted) :
    source.conversionClass = target.conversionClass := by
  cases converts with
  | rescaled sameNumerator samePeriods =>
      simp [Measure.conversionClass, sameNumerator, samePeriods]
  | throughBase sameKind alike => exact Measure.conversionClass_of_sameKind sameKind alike
  | toBytes bridges ofBits => exact Measure.conversionClass_of_bridges bridges
  | toBits bridges ofBytes => exact Measure.conversionClass_of_bridges bridges

theorem exists_convertByBase {amount : α} {source target : Measure}
    (sameClass : source.conversionClass = target.conversionClass) :
    ∃ result, convertByBase amount source target = .ok result := by
  have sharesBase := Measure.sharesBase_iff.mpr sameClass
  unfold convertByBase
  by_cases sameBase : source.kind = target.kind ∧ source.sameShape target = true
  · exact ⟨_, if_pos sameBase⟩
  · rw [if_neg sameBase, if_pos (sharesBase.resolve_left sameBase)]
    exact ⟨_, rfl⟩

theorem exists_convertRate {amount : α} {source target : Rate}
    (sameClass : (Measure.ratio source).conversionClass = (Measure.ratio target).conversionClass) :
    ∃ result, convertRate amount source target = .ok result := by
  obtain ⟨-, samePer, sameMoney⟩ := ConversionClass.mk.inj sameClass
  unfold convertRate
  split_ifs with sameNumerator samePeriods bothMoney
  · exact ⟨_, rfl⟩
  · exact absurd (Option.some.inj samePer) samePeriods
  · rw [NamedUnit.currency?_eq_iff (bothMoney.1.trans bothMoney.2.symm)] at sameMoney
    exact absurd (sameMoney bothMoney.1) sameNumerator
  · exact exists_convertByBase sameClass

/-- Conversion succeeds exactly within a class. -/
theorem convertsTo_iff {amount : α} {source target : Measure} :
    (of amount source).ConvertsTo target ↔ source.conversionClass = target.conversionClass := by
  constructor
  · rintro ⟨result, isOk⟩
    obtain ⟨converted, -, converts⟩ := converted_of_convert isOk
    exact converts.sameClass
  · intro sameClass
    cases source with
    | single unit => exact exists_convertByBase sameClass
    | ratio rate =>
        cases target with
        | single unit => exact exists_convertByBase sameClass
        | ratio other => exact exists_convertRate sameClass

theorem exists_combine_iff {operation : α → α → α}
    {refusal : Option Measure → Option Measure → UnitError} (isLeft : left.measure = some first)
    (isRight : right.measure = some second) :
    (∃ result, combine operation refusal left right = .ok result) ↔
      first.addable second = true := by
  simp only [combine_eq_ok_iff]
  constructor
  · rintro ⟨result, combined⟩
    cases combined with
    | plain noLeft noRight => exact absurd (isLeft.symm.trans noLeft) (by simp)
    | measured isFirst isSecond addable =>
        obtain rfl := Option.some.inj (isLeft.symm.trans isFirst)
        obtain rfl := Option.some.inj (isRight.symm.trans isSecond)
        exact addable
  · exact fun addable => ⟨_, .measured isLeft isRight addable⟩

/-- What two quantities are combined to is measured as one of them is. -/
theorem Combined.measure_eq_or {operation : α → α → α}
    (combined : Combined operation left right result) :
    result.measure = left.measure ∨ result.measure = right.measure := by
  cases combined with
  | plain isLeft isRight => exact .inl isLeft.symm
  | @measured first second isLeft isRight addable =>
      rw [isLeft, isRight]
      exact (Measure.finer_eq_or α first second).imp (congrArg some) (congrArg some)

theorem convertibility_equivalence (amount : α) :
    Equivalence fun source target => (of amount source).ConvertsTo target := by
  simp only [convertsTo_iff]
  constructor
  · intro measure
    rfl
  · intro source target sameClass
    exact sameClass.symm
  · intro source middle target firstSame secondSame
    exact firstSame.trans secondSame

end Success

theorem addability_equivalence :
    Equivalence fun first second : Measure => first.addable second = true := by
  constructor
  · exact Measure.addable_refl
  · intro first second addable
    rw [Measure.addable_comm]
    exact addable
  · intro first second third
    exact Measure.addable_trans

/-- Whether a measured quantity converts depends on its measure alone, and convertibility is an
equivalence of measures.  So is the possibility of a sum, which implies it: measured quantities have
a sum and a difference, in either order, exactly if their measures can be added, and both are
measured as one of the two sides is. -/
theorem convertible_and_addable (α : Type) [Scalar α] :
    (∀ (source target : Measure) (amount other : α),
      (of amount source).ConvertsTo target ↔ (of other source).ConvertsTo target) ∧
    (∀ amount : α, Equivalence fun source target => (of amount source).ConvertsTo target) ∧
    (Equivalence fun first second : Measure => first.addable second = true) ∧
    (∀ (first second : Measure) (amount : α), first.addable second = true →
      (of amount first).ConvertsTo second ∧ (of amount second).ConvertsTo first) ∧
    ∀ (first second : Measure) (amount other : α),
      let left := of amount first
      let right := of other second
      ((∃ sum, left.add right = .ok sum) ↔ first.addable second = true) ∧
      ((∃ difference, left.subtract right = .ok difference) ↔ first.addable second = true) ∧
      ((∃ sum, right.add left = .ok sum) ↔ first.addable second = true) ∧
      ∀ result, left.add right = .ok result ∨ left.subtract right = .ok result ∨
          right.add left = .ok result →
        result.measure = some first ∨ result.measure = some second := by
  refine ⟨?_, convertibility_equivalence, addability_equivalence, ?_, ?_⟩
  · intro source target amount other
    exact convertsTo_iff.trans convertsTo_iff.symm
  · intro first second amount addable
    have sameClass := Measure.conversionClass_of_addable addable
    exact ⟨convertsTo_iff.mpr sameClass, convertsTo_iff.mpr sameClass.symm⟩
  · intro first second amount other left right
    have swapped : (∃ sum, right.add left = .ok sum) ↔ first.addable second = true := by
      rw [Measure.addable_comm]
      exact exists_combine_iff rfl rfl
    refine ⟨exists_combine_iff rfl rfl, exists_combine_iff rfl rfl, swapped, ?_⟩
    rintro result (isSum | isDifference | isSum)
    · exact (combine_eq_ok_iff.mp isSum).measure_eq_or
    · exact (combine_eq_ok_iff.mp isDifference).measure_eq_or
    · exact (combine_eq_ok_iff.mp isSum).measure_eq_or.symm

/-- Rates of data whose multiples are powers of 1024. -/
theorem convertible_and_addable_rates :
    let fast := Measure.ratio ⟨.byte (some ⟨.binary, .giga⟩), .time .second, rfl⟩
    let slow := Measure.ratio ⟨.byte (some ⟨.binary, .mega⟩), .time .minute, rfl⟩
    fast.addable slow = true ∧ (of (3 : Float) fast).ConvertsTo slow ∧
      ∃ sum, (of (3 : Float) fast).add (of 5 slow) = .ok sum ∧
        (sum.measure = some fast ∨ sum.measure = some slow) := by
  intro fast slow
  obtain ⟨-, -, -, converts, sums⟩ := convertible_and_addable Float
  have addable : fast.addable slow = true := by decide
  obtain ⟨hasSum, -, -, measured⟩ := sums fast slow 3 5
  obtain ⟨sum, isSum⟩ := hasSum.mpr addable
  exact ⟨addable, (converts fast slow 3 addable).1, sum, isSum, measured sum (.inl isSum)⟩

end Quantity

end NoteCalc
