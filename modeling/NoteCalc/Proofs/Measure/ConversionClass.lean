import NoteCalc.Proofs.Measure.Addability

/-!
# Measures that convert to each other

Measures that convert to each other agree in what they count and per what, where bits and bytes
count as one and each currency on its own.  Measures of one kind and shape agree in this, and so do
measures of bits and of bytes; the other way round, measures that agree in this share a base, rates
of one numerator apart.  Measures that can be added are a part of this.
-/

namespace NoteCalc

/-- The family, with bits and bytes taken as one. -/
def Family.bridged : Family → Family
  | .bit => .data
  | family => family

theorem Family.bridged_eq_iff {left right : Family} :
    left.bridged = right.bridged ↔
      left = right ∨ (left = .bit ∧ right = .data) ∨ (left = .data ∧ right = .bit) := by
  cases left <;> cases right <;> decide

/-- What measures that convert to each other have in common. -/
structure ConversionClass where
  /-- The family of a named unit, or of the numerator of a rate. -/
  counted : Family
  /-- The family of the denominator, for a rate. -/
  per : Option Family
  /-- The currency, for money and prices. -/
  money : Option NamedUnit
deriving Repr, DecidableEq

/-- What a rate counts is bits, data or requests per time, or money per time or per data. -/
theorem Rate.family_cases (rate : Rate) :
    (rate.denominator.family = .time ∧
      (rate.numerator.family = .bit ∨ rate.numerator.family = .data ∨
        rate.numerator.family = .request)) ∨
    (rate.numerator.family = .currency ∧
      (rate.denominator.family = .time ∨ rate.denominator.family = .data)) := by
  have forms := rate.forms
  unfold formsRate at forms
  split at forms <;> simp_all

namespace Measure

/-- The class of measures that this one converts to. -/
def conversionClass : Measure → ConversionClass
  | .single unit => ⟨unit.family.bridged, none, unit.currency?⟩
  | .ratio rate =>
      ⟨rate.numerator.family.bridged, some rate.denominator.family, rate.numerator.currency?⟩

/-- Measures that can be added convert to each other. -/
theorem conversionClass_of_addable {left right : Measure} (addable : left.addable right = true) :
    left.conversionClass = right.conversionClass := by
  have sameClass := addable_iff.mp addable
  cases left <;> cases right <;> simp_all [sumClass, conversionClass]

theorem kind_single_eq_iff {left right : NamedUnit} :
    (single left).kind = (single right).kind ↔ left.family = right.family := by
  cases isLeft : left.family <;> cases isRight : right.family <;> simp [kind, isLeft, isRight]

theorem kind_single_ne_ratio (unit : NamedUnit) (rate : Rate) :
    (single unit).kind ≠ (ratio rate).kind := by
  cases isUnit : unit.family <;> cases isCounted : rate.numerator.family <;>
    simp [kind, Rate.kind, isUnit, isCounted]

theorem kind_ratio_eq_iff {left right : Rate} :
    (ratio left).kind = (ratio right).kind ↔ left.numerator.family = right.numerator.family := by
  rcases left.family_cases with ⟨-, isLeft | isLeft | isLeft⟩ | ⟨isLeft, -⟩ <;>
    rcases right.family_cases with ⟨-, isRight | isRight | isRight⟩ | ⟨isRight, -⟩ <;>
      simp [kind, Rate.kind, isLeft, isRight]

/-- Measures of one kind are both named units or both rates, and count things of one family. -/
theorem sameKind_cases {first second : Measure} (sameKind : first.kind = second.kind) :
    (∃ unit other, first = single unit ∧ second = single other ∧ unit.family = other.family) ∨
    ∃ rate other, first = ratio rate ∧ second = ratio other ∧
      rate.numerator.family = other.numerator.family := by
  cases first with
  | single unit =>
      cases second with
      | single other => exact .inl ⟨unit, other, rfl, rfl, kind_single_eq_iff.mp sameKind⟩
      | ratio rate => exact absurd sameKind (kind_single_ne_ratio unit rate)
  | ratio rate =>
      cases second with
      | single unit => exact absurd sameKind.symm (kind_single_ne_ratio unit rate)
      | ratio other => exact .inr ⟨rate, other, rfl, rfl, kind_ratio_eq_iff.mp sameKind⟩

/-- Measures of one class are both named units or both rates. -/
theorem sameClass_cases {first second : Measure}
    (sameClass : first.conversionClass = second.conversionClass) :
    (∃ unit other, first = single unit ∧ second = single other ∧
      unit.family.bridged = other.family.bridged ∧ unit.currency? = other.currency?) ∨
    ∃ rate other, first = ratio rate ∧ second = ratio other ∧
      rate.numerator.family.bridged = other.numerator.family.bridged ∧
      rate.denominator.family = other.denominator.family ∧
      rate.numerator.currency? = other.numerator.currency? := by
  obtain ⟨sameCounted, samePer, sameMoney⟩ := ConversionClass.mk.inj sameClass
  cases first with
  | single unit =>
      cases second with
      | single other => exact .inl ⟨unit, other, rfl, rfl, sameCounted, sameMoney⟩
      | ratio rate => exact absurd samePer (Option.some_ne_none _).symm
  | ratio rate =>
      cases second with
      | single unit => exact absurd samePer (Option.some_ne_none _)
      | ratio other =>
          exact .inr ⟨rate, other, rfl, rfl, sameCounted, Option.some.inj samePer, sameMoney⟩

theorem conversionClass_of_sameKind {source target : Measure}
    (sameKind : source.kind = target.kind) (alike : source.sameShape target = true) :
    source.conversionClass = target.conversionClass := by
  rcases sameKind_cases sameKind with ⟨unit, other, rfl, rfl, sameFamily⟩ |
    ⟨rate, other, rfl, rfl, sameFamily⟩
  · have sameMoney : unit.currency? = other.currency? := by
      rw [NamedUnit.currency?_eq_iff sameFamily]
      simpa [sameShape, Decidable.imp_iff_not_or] using alike
    simp [conversionClass, sameFamily, sameMoney]
  · simp only [sameShape, Bool.and_eq_true, Bool.or_eq_true, bne_iff_ne, beq_iff_eq] at alike
    have sameMoney : rate.numerator.currency? = other.numerator.currency? := by
      rw [NamedUnit.currency?_eq_iff sameFamily, Decidable.imp_iff_not_or]
      exact alike.1
    simp [conversionClass, sameFamily, sameMoney, alike.2]

/-- Amounts of bits and of bytes are in one class. -/
theorem conversionClass_of_amount {measure : Measure}
    (isAmount : measure.kind = .bit ∨ measure.kind = .data) :
    measure.conversionClass = ⟨.data, none, none⟩ := by
  cases measure with
  | single unit =>
      cases family : unit.family <;>
        simp_all [kind, conversionClass, Family.bridged, NamedUnit.currency?]
  | ratio rate =>
      cases family : rate.numerator.family <;> simp [kind, Rate.kind, family] at isAmount

/-- Rates of bits and of bytes are in one class. -/
theorem conversionClass_of_flow {measure : Measure}
    (isFlow : measure.kind = .bitRate ∨ measure.kind = .dataRate) :
    measure.conversionClass = ⟨.data, some .time, none⟩ := by
  cases measure with
  | single unit => cases family : unit.family <;> simp [kind, family] at isFlow
  | ratio rate =>
      rcases rate.family_cases with ⟨perTime, family | family | family⟩ | ⟨family, -⟩ <;>
        simp_all [kind, Rate.kind, conversionClass, Family.bridged, NamedUnit.currency?]

theorem conversionClass_of_bridges {source target : Measure}
    (bridges : source.bridgesBitsAndBytes target = true) :
    source.conversionClass = target.conversionClass := by
  unfold bridgesBitsAndBytes at bridges
  split at bridges
  · rw [conversionClass_of_amount (.inl ‹_›), conversionClass_of_amount (.inr ‹_›)]
  · rw [conversionClass_of_amount (.inr ‹_›), conversionClass_of_amount (.inl ‹_›)]
  · rw [conversionClass_of_flow (.inl ‹_›), conversionClass_of_flow (.inr ‹_›)]
  · rw [conversionClass_of_flow (.inr ‹_›), conversionClass_of_flow (.inl ‹_›)]
  · exact absurd bridges (by simp)

/-- An amount of one measure can be expressed in the other by way of bases. -/
def SharesBase (source target : Measure) : Prop :=
  (source.kind = target.kind ∧ source.sameShape target = true) ∨
    source.bridgesBitsAndBytes target = true

theorem sharesBase_single {source target : NamedUnit}
    (sameCounted : source.family.bridged = target.family.bridged)
    (sameMoney : source.currency? = target.currency?) :
    (single source).SharesBase (single target) := by
  rcases Family.bridged_eq_iff.mp sameCounted with sameFamily | bridged
  · rw [NamedUnit.currency?_eq_iff sameFamily, Decidable.imp_iff_not_or] at sameMoney
    exact .inl ⟨kind_single_eq_iff.mpr sameFamily, by simpa [sameShape] using sameMoney⟩
  · apply Or.inr
    rcases bridged with ⟨isLeft, isRight⟩ | ⟨isLeft, isRight⟩ <;>
      simp [bridgesBitsAndBytes, kind, isLeft, isRight]

theorem sharesBase_ratio {source target : Rate}
    (sameCounted : source.numerator.family.bridged = target.numerator.family.bridged)
    (samePer : source.denominator.family = target.denominator.family)
    (sameMoney : source.numerator.currency? = target.numerator.currency?) :
    (ratio source).SharesBase (ratio target) := by
  rcases Family.bridged_eq_iff.mp sameCounted with sameFamily | bridged
  · rw [NamedUnit.currency?_eq_iff sameFamily, Decidable.imp_iff_not_or] at sameMoney
    refine .inl ⟨kind_ratio_eq_iff.mpr sameFamily, ?_⟩
    simpa [sameShape, samePer] using sameMoney
  · apply Or.inr
    rcases bridged with ⟨isLeft, isRight⟩ | ⟨isLeft, isRight⟩ <;>
      simp [bridgesBitsAndBytes, kind, Rate.kind, isLeft, isRight]

theorem kind_eq_percentage_iff {measure : Measure} :
    measure.kind = .percentage ↔ measure.conversionClass.counted = .percent := by
  cases measure with
  | single unit =>
      cases family : unit.family <;> simp [kind, conversionClass, Family.bridged, family]
  | ratio rate =>
      rcases rate.family_cases with ⟨-, family | family | family⟩ | ⟨family, -⟩ <;>
        simp [kind, Rate.kind, conversionClass, Family.bridged, family]

/-- Measures share a base exactly within a class. -/
theorem sharesBase_iff {source target : Measure} :
    source.SharesBase target ↔ source.conversionClass = target.conversionClass := by
  constructor
  · rintro (⟨sameKind, alike⟩ | bridges)
    · exact conversionClass_of_sameKind sameKind alike
    · exact conversionClass_of_bridges bridges
  · intro sameClass
    rcases sameClass_cases sameClass with ⟨unit, other, rfl, rfl, sameCounted, sameMoney⟩ |
      ⟨rate, other, rfl, rfl, sameCounted, samePer, sameMoney⟩
    · exact sharesBase_single sameCounted sameMoney
    · exact sharesBase_ratio sameCounted samePer sameMoney

/-- Measures of one kind other than money share a shape. -/
theorem sameShape_of_sameKind {source target : Measure} (sameKind : source.kind = target.kind)
    (noMoney : source.kind ≠ .currency ∧ source.kind ≠ .price) :
    source.sameShape target = true := by
  rcases sameKind_cases sameKind with ⟨unit, other, rfl, rfl, sameFamily⟩ |
    ⟨rate, other, rfl, rfl, sameFamily⟩
  · have notCurrency : unit.family ≠ .currency := fun isCurrency =>
      noMoney.1 (by simp [kind, isCurrency])
    simp [sameShape, notCurrency]
  · have notCurrency : rate.numerator.family ≠ .currency := fun isCurrency =>
      noMoney.2 (by simp [kind, Rate.kind, isCurrency])
    have perTime := Rate.isPerTime_of_ne_currency notCurrency
    have otherPerTime := Rate.isPerTime_of_ne_currency (sameFamily ▸ notCurrency)
    simp_all [sameShape, Rate.isPerTime]

/-- Measures of one kind, and of one currency if they count money, are in one class. -/
theorem conversionClass_of_like {source target : Measure} (sameKind : source.kind = target.kind)
    (sameMoney : source.kind = .currency ∨ source.kind = .price → source.addable target = true) :
    source.conversionClass = target.conversionClass := by
  by_cases money : source.kind = .currency ∨ source.kind = .price
  · exact conversionClass_of_addable (sameMoney money)
  · exact conversionClass_of_sameKind sameKind
      (sameShape_of_sameKind sameKind (not_or.mp money))

end Measure

end NoteCalc
