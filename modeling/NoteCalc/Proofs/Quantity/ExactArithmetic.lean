import Mathlib.Algebra.Order.Field.Rat
import Mathlib.Tactic.FieldSimp
import Mathlib.Tactic.Ring
import NoteCalc.Proofs.Quantity.Convertibility

/-!
# Arithmetic on exact amounts

On rational amounts the arithmetic of quantities is studied without rounding.  Every quantity stands
for a number of seconds, bits, requests or units of a currency, or a quotient of these, and this
number does not depend on how the quantity is expressed.  It is the same after a conversion, and it
is the sum, difference, product or quotient of the two numbers after an operation, data times a
duration apart.
-/

namespace NoteCalc

/-- Exact amounts. -/
instance : Scalar ℚ where
  ofNat count := count
  precedes left right := left < right
  isNegligible amount := |amount| < 1 / 4503599627370496
  isZero amount := amount == 0

/-- How many bits the base of a family is, if it is an amount of information, and else one. -/
def Family.bits : Family → ℚ
  | .data => 8
  | _ => 1

theorem Family.bits_ne_zero (family : Family) : family.bits ≠ 0 := by
  cases family <;> norm_num [bits]

/-- How many bits the base of a kind is.  For prices this depends on what they are per. -/
def Kind.bits : Kind → ℚ
  | .data | .dataRate => 8
  | _ => 1

namespace NamedUnit

/-- How much of the base of its family a unit holds. -/
def size (unit : NamedUnit) : ℚ :=
  if unit.dividesBase then 1 / unit.factor else unit.factor

theorem size_ne_zero (unit : NamedUnit) : unit.size ≠ 0 := by
  have notZero : (unit.factor : ℚ) ≠ 0 := Nat.cast_ne_zero.mpr unit.factor_pos.ne'
  unfold size
  split
  · exact one_div_ne_zero notZero
  · exact notZero

theorem toBase_rat (unit : NamedUnit) (amount : ℚ) : unit.toBase amount = amount * unit.size := by
  unfold toBase size
  split
  · exact div_eq_mul_one_div _ _
  · rfl

theorem fromBase_rat (unit : NamedUnit) (amount : ℚ) :
    unit.fromBase amount = amount / unit.size := by
  unfold fromBase size
  split
  · rw [div_div_eq_mul_div, div_one]
    rfl
  · rfl

/-- How many bits, seconds, requests or units of a currency a unit holds. -/
def worth (unit : NamedUnit) : ℚ :=
  unit.size * unit.family.bits

theorem worth_ne_zero (unit : NamedUnit) : unit.worth ≠ 0 :=
  mul_ne_zero unit.size_ne_zero unit.family.bits_ne_zero

theorem worth_of_data {unit : NamedUnit} (ofData : unit.family = .data) :
    unit.worth = unit.size * 8 := by
  rw [worth, ofData]
  rfl

theorem worth_of_time {unit : NamedUnit} (isTime : unit.family = .time) :
    unit.worth = unit.size := by
  rw [worth, isTime]
  exact mul_one _

theorem worth_second : (time .second).worth = 1 := by
  norm_num [worth, size, dividesBase, TimeUnit.dividesSecond, factor, TimeUnit.factor, family,
    Family.bits]

end NamedUnit

namespace Rate

theorem period_rat (rate : Rate) : (rate.period : ℚ) = rate.denominator.size := by
  rw [period, NamedUnit.toBase_rat]
  exact one_mul _

end Rate

namespace Measure

/-- How much of its base a measure holds. -/
def size : Measure → ℚ
  | .single unit => unit.size
  | .ratio rate => rate.numerator.size / rate.denominator.size

/-- How many bits the base of a measure is, or how many bits its base is per, and else one. -/
def bits : Measure → ℚ
  | .single unit => unit.family.bits
  | .ratio rate => rate.numerator.family.bits / rate.denominator.family.bits

/-- Express an amount of bases with bits in place of bytes. -/
def inBits : Measure → ℚ → ℚ
  | .single unit, base => if unit.family = .data then base * 8 else base
  | .ratio rate, base =>
      if rate.numerator.family = .data then base * 8
      else if rate.denominator.family = .data then base / 8 else base

/-- What one of a measure is worth. -/
def worth : Measure → ℚ
  | .single unit => unit.worth
  | .ratio rate => rate.numerator.worth / rate.denominator.worth

theorem worth_ne_zero (measure : Measure) : measure.worth ≠ 0 := by
  cases measure with
  | single unit => exact unit.worth_ne_zero
  | ratio rate => exact div_ne_zero rate.numerator.worth_ne_zero rate.denominator.worth_ne_zero

theorem size_ne_zero (measure : Measure) : measure.size ≠ 0 := by
  cases measure with
  | single unit => exact unit.size_ne_zero
  | ratio rate => exact div_ne_zero rate.numerator.size_ne_zero rate.denominator.size_ne_zero

theorem bits_ne_zero (measure : Measure) : measure.bits ≠ 0 := by
  cases measure with
  | single unit => exact unit.family.bits_ne_zero
  | ratio rate =>
      exact div_ne_zero rate.numerator.family.bits_ne_zero rate.denominator.family.bits_ne_zero

theorem worth_eq (measure : Measure) : measure.worth = measure.size * measure.bits := by
  cases measure with
  | single unit => rfl
  | ratio rate => exact mul_div_mul_comm _ _ _ _

theorem toBase_rat (measure : Measure) (amount : ℚ) :
    measure.toBase amount = amount * measure.size := by
  cases measure with
  | single unit => exact unit.toBase_rat amount
  | ratio rate =>
      simp only [toBase, Rate.toBase, NamedUnit.toBase_rat, Rate.period_rat]
      exact mul_div_assoc _ _ _

theorem fromBase_rat (measure : Measure) (amount : ℚ) :
    measure.fromBase amount = amount / measure.size := by
  cases measure with
  | single unit => exact unit.fromBase_rat amount
  | ratio rate =>
      simp only [fromBase, Rate.fromBase, NamedUnit.fromBase_rat, Rate.period_rat]
      exact (div_div_eq_mul_div _ _ _).symm

theorem inBits_eq (measure : Measure) (base : ℚ) : measure.inBits base = base * measure.bits := by
  cases measure with
  | single unit => cases family : unit.family <;> simp [inBits, bits, Family.bits, family]
  | ratio rate =>
      rcases rate.family_cases with ⟨per, counted | counted | counted⟩ | ⟨counted, per | per⟩ <;>
        simp [inBits, bits, Family.bits, counted, per, div_eq_mul_inv]

theorem bits_of_like {left right : Measure} (sameKind : left.kind = right.kind)
    (sameClass : left.conversionClass = right.conversionClass) : left.bits = right.bits := by
  rcases sameKind_cases sameKind with ⟨unit, other, rfl, rfl, sameFamily⟩ |
    ⟨rate, other, rfl, rfl, sameFamily⟩
  · rw [bits, bits, sameFamily]
  · obtain ⟨-, samePer, -⟩ := ConversionClass.mk.inj sameClass
    rw [bits, bits, sameFamily, Option.some.inj samePer]

theorem bits_of_addable {left right : Measure} (addable : left.addable right = true) :
    left.bits = right.bits := by
  have sameClass := addable_iff.mp addable
  cases left <;> cases right <;> simp_all [sumClass, bits]

/-- The kind decides how many bits the base is, except for prices, which may be per data. -/
theorem bits_of_kind {measure : Measure} {kind : Kind} (isKind : measure.kind = kind)
    (noPrice : kind ≠ .price) : measure.bits = kind.bits := by
  cases measure with
  | single unit =>
      cases family : unit.family <;>
        simp_all [Measure.kind, bits, Family.bits, ← isKind, Kind.bits]
  | ratio rate =>
      rcases rate.family_cases with ⟨per, counted | counted | counted⟩ | ⟨counted, per | per⟩ <;>
        simp_all [Measure.kind, Rate.kind, bits, Family.bits, ← isKind, Kind.bits]

/-- Where bits and bytes meet, one side is expressed in bits and the other in bytes. -/
theorem bits_of_bridges {source target : Measure}
    (bridges : source.bridgesBitsAndBytes target = true) :
    (source.countsBits = true → source.bits = 1 ∧ target.bits = 8) ∧
      (source.countsBits = false → source.bits = 8 ∧ target.bits = 1) := by
  unfold bridgesBitsAndBytes at bridges
  split at bridges
  case h_5 => exact absurd bridges (by simp)
  all_goals
    rename_i isSource isTarget
    have sourceBits := bits_of_kind isSource (by decide)
    have targetBits := bits_of_kind isTarget (by decide)
    simp [countsBits, isSource, sourceBits, targetBits, Kind.bits]

end Measure

theorem bitsPerByte_rat : (bitsPerByte : ℚ) = 8 := rfl

namespace Quantity

/-- The number of seconds, bits, requests or units of a currency, or the quotient of these, that a
quantity stands for. -/
def canonical (quantity : Quantity ℚ) : ℚ :=
  match quantity.measure with
  | none => quantity.amount
  | some measure => measure.inBits (measure.toBase quantity.amount)

theorem canonical_of (amount : ℚ) (measure : Measure) :
    (of amount measure).canonical = amount * measure.worth := by
  rw [Measure.worth_eq, ← mul_assoc, ← Measure.toBase_rat, ← Measure.inBits_eq]
  rfl

variable {left right result : Quantity ℚ}

theorem canonical_eq (quantity : Quantity ℚ) :
    quantity.canonical = quantity.amount * quantity.measure.elim 1 Measure.worth := by
  obtain ⟨amount, measure⟩ := quantity
  cases measure with
  | none => exact (mul_one amount).symm
  | some measure => exact canonical_of amount measure

theorem canonical_of_plain (plain : left.measure = none) : left.canonical = left.amount := by
  rw [canonical_eq, plain, Option.elim_none, mul_one]

theorem canonical_of_measured {measure : Measure} (measured : left.measure = some measure) :
    left.canonical = left.amount * measure.worth := by
  rw [canonical_eq, measured, Option.elim_some]

theorem canonical_of_base {measure : Measure} (measured : left.measure = some measure) :
    left.canonical = measure.toBase left.amount * measure.bits := by
  rw [canonical_of_measured measured, Measure.worth_eq, Measure.toBase_rat, mul_assoc]

/-- An amount of bases stands for so many times the bits of a base, whatever it is expressed in. -/
theorem canonical_of_fromBase (base : ℚ) (measure : Measure) :
    (of (measure.fromBase base) measure).canonical = base * measure.bits := by
  rw [canonical_of, Measure.fromBase_rat, Measure.worth_eq, ← mul_assoc,
    div_mul_cancel₀ _ measure.size_ne_zero]

theorem canonical_of_kind {measure : Measure} {kind : Kind} (measured : left.measure = some measure)
    (isKind : measure.kind = kind) (noPrice : kind ≠ .price) :
    left.canonical = measure.toBase left.amount * kind.bits := by
  rw [canonical_of_base measured, Measure.bits_of_kind isKind noPrice]

/-- Two quantities of one measure that stand for one number are equal. -/
theorem eq_of_canonical (sameMeasure : left.measure = right.measure)
    (same : left.canonical = right.canonical) : left = right := by
  obtain ⟨amount, measure⟩ := left
  obtain ⟨other, _⟩ := right
  obtain rfl := sameMeasure
  have sameAmount : amount = other := by
    cases measure with
    | none => exact same
    | some measure =>
        rw [canonical_of_measured rfl, canonical_of_measured rfl] at same
        exact mul_right_cancel₀ measure.worth_ne_zero same
  rw [sameAmount]

/-! ## Conversion -/

theorem Converted.canonical_eq {amount converted : ℚ} {source target : Measure}
    (converts : Converted amount source target converted) :
    (of converted target).canonical = (of amount source).canonical := by
  have sameClass := converts.sameClass
  cases converts with
  | @rescaled source target sameNumerator samePeriods =>
      have notZero := source.denominator.size_ne_zero
      have targetNotZero := target.denominator.size_ne_zero
      have bitsNotZero := target.denominator.family.bits_ne_zero
      rw [canonical_of, canonical_of, Rate.period_rat, Rate.period_rat]
      simp only [Measure.worth, NamedUnit.worth, sameNumerator, samePeriods]
      field_simp
  | throughBase sameKind alike =>
      rw [canonical_of_fromBase, canonical_of_base rfl, Measure.bits_of_like sameKind sameClass]
      rfl
  | toBytes bridges ofBits =>
      obtain ⟨sourceBits, targetBits⟩ := (Measure.bits_of_bridges bridges).1 ofBits
      rw [canonical_of_fromBase, canonical_of_base rfl, sourceBits, targetBits, mul_one,
        bitsPerByte_rat]
      exact div_mul_cancel₀ _ (by norm_num)
  | toBits bridges ofBytes =>
      obtain ⟨sourceBits, targetBits⟩ := (Measure.bits_of_bridges bridges).2 ofBytes
      rw [canonical_of_fromBase, canonical_of_base rfl, sourceBits, targetBits, mul_one]
      rfl

theorem canonical_of_convert {target : Measure} (isOk : left.convert target = .ok result) :
    result.canonical = left.canonical := by
  rcases convert_cases isOk with
    ⟨plain, isPercentage, rfl⟩ | ⟨source, converted, measured, rfl, converts⟩
  · have noBits : target.bits = 1 := Measure.bits_of_kind isPercentage (by decide)
    rw [canonical_of_plain plain, canonical_of_fromBase, noBits, mul_one]
  · rw [converts.canonical_eq, canonical_of, canonical_of_measured measured]

/-- Where quantities that stand for one number convert to one measure, they convert to one
quantity. -/
theorem convert_congr {other there : Quantity ℚ} {target : Measure}
    (same : left.canonical = other.canonical) (isOk : left.convert target = .ok result)
    (isThere : other.convert target = .ok there) : result = there := by
  apply eq_of_canonical
  · rw [measure_of_convert isOk, measure_of_convert isThere]
  · rw [canonical_of_convert isOk, canonical_of_convert isThere, same]

theorem convertsTo_of_plain {target : Measure} (plain : left.measure = none)
    (isPercentage : target.kind = .percentage) : left.ConvertsTo target := by
  simp [ConvertsTo, convert, plain, isPercentage]

theorem convertsTo_of_measured {source target : Measure} (measured : left.measure = some source)
    (sameClass : source.conversionClass = target.conversionClass) : left.ConvertsTo target := by
  obtain ⟨amount, measure⟩ := left
  obtain rfl := measured
  exact convertsTo_iff.mpr sameClass

/-- Converting there and back gives the quantity one started from. -/
theorem convert_back {source target : Measure} (isSource : left.measure = some source)
    (isOk : left.convert target = .ok result) : result.convert source = .ok left := by
  rcases convert_cases isOk with ⟨plain, -⟩ | ⟨known, converted, measured, rfl, converts⟩
  · exact absurd (isSource.symm.trans plain) (by simp)
  · obtain rfl := Option.some.inj (isSource.symm.trans measured)
    obtain ⟨back, isBack⟩ : (of converted target).ConvertsTo source :=
      convertsTo_iff.mpr converts.sameClass.symm
    have same : back = left := by
      apply eq_of_canonical
      · rw [measure_of_convert isBack, isSource]
      · rw [canonical_of_convert isBack, canonical_of_convert isOk]
    rw [isBack, same]

/-- Converting by way of another measure is the same as converting directly. -/
theorem convert_through {between target : Measure} {there : Quantity ℚ}
    (isThere : left.convert between = .ok there) (isOk : there.convert target = .ok result) :
    left.convert target = .ok result := by
  have directly : left.ConvertsTo target := by
    rcases convert_cases isOk with ⟨plain, -⟩ | ⟨known, converted, measured, rfl, converts⟩
    · exact absurd ((measure_of_convert isThere).symm.trans plain) (by simp)
    · obtain rfl := Option.some.inj ((measure_of_convert isThere).symm.trans measured)
      rcases convert_cases isThere with ⟨plain, isPercentage, -⟩ | ⟨source, _, isSource, -, first⟩
      · refine convertsTo_of_plain plain ?_
        rw [Measure.kind_eq_percentage_iff] at isPercentage ⊢
        rw [← converts.sameClass, isPercentage]
      · exact convertsTo_of_measured isSource (first.sameClass.trans converts.sameClass)
  obtain ⟨direct, isDirect⟩ := directly
  rw [isDirect, convert_congr (canonical_of_convert isThere).symm isDirect isOk]

/-! ## Sums and differences -/

theorem Combined.canonical_eq {operation : ℚ → ℚ → ℚ}
    (distributes : ∀ first second factor : ℚ,
      operation first second * factor = operation (first * factor) (second * factor))
    (combined : Combined operation left right result) :
    result.canonical = operation left.canonical right.canonical := by
  cases combined with
  | plain isLeft isRight =>
      rw [canonical_of_plain isLeft, canonical_of_plain isRight]
      rfl
  | @measured first second isLeft isRight addable =>
      have sameBits := Measure.bits_of_addable addable
      have finerBits : (Measure.finer ℚ first second).bits = second.bits := by
        rcases Measure.finer_eq_or ℚ first second with isFirst | isSecond
        · rw [isFirst, sameBits]
        · rw [isSecond]
      calc
        _ = operation (first.toBase left.amount) (second.toBase right.amount) * second.bits := by
            rw [canonical_of_fromBase, finerBits]
        _ = operation (first.toBase left.amount * first.bits)
              (second.toBase right.amount * second.bits) := by rw [distributes, sameBits]
        _ = operation left.canonical right.canonical := by
            rw [canonical_of_base isLeft, canonical_of_base isRight]

/-! ## Products -/

theorem Sides.canonical_mul {first second : Quantity ℚ} (sides : Sides left right first second) :
    left.canonical * right.canonical = first.canonical * second.canonical := by
  rcases sides with ⟨rfl, rfl⟩ | ⟨rfl, rfl⟩
  · rfl
  · exact mul_comm _ _

theorem Multiplied.canonical_eq (multiplied : Multiplied left right result)
    (noData : ¬ ∃ unit, DataAndDuration left right unit) :
    result.canonical = left.canonical * right.canonical := by
  cases multiplied with
  | plainLeft isLeft =>
      simp only [canonical_eq, isLeft, Option.elim_none]
      ring
  | plainRight isRight =>
      simp only [canonical_eq, isRight, Option.elim_none]
      ring
  | @yield duration rate unit per sides isDuration isRate isTime perTime =>
      rw [sides.canonical_mul, canonical_of_measured isDuration, canonical_of_measured isRate,
        canonical_of, NamedUnit.toBase_rat, Rate.period_rat]
      simp only [Measure.worth, NamedUnit.worth_of_time isTime, NamedUnit.worth_of_time perTime]
      ring
  | @cost data price unit per sides isData isPrice ofData isMoney perData =>
      rw [sides.canonical_mul, canonical_of_measured isData, canonical_of_measured isPrice,
        canonical_of, NamedUnit.toBase_rat, Rate.period_rat]
      simp only [Measure.worth, NamedUnit.worth_of_data, ofData, perData]
      ring
  | dataOverTime sides isData isDuration ofData isTime =>
      exact absurd ⟨_, _, _, _, sides, isData, isDuration, ofData, isTime⟩ noData

/-! ## Quotients -/

theorem Divided.canonical_eq (divided : Divided left right result) :
    result.canonical = left.canonical / right.canonical := by
  cases divided with
  | byPlain isRight =>
      simp only [canonical_eq, isRight, Option.elim_none]
      ring
  | rate isLeft isRight forms =>
      rw [canonical_of_measured isLeft, canonical_of_measured isRight, canonical_of]
      simp only [Measure.worth]
      ring
  | @requestRate unit per isLeft isRight counted perTime =>
      rw [canonical_of_measured isLeft, canonical_of_measured isRight, canonical_of,
        NamedUnit.toBase_rat]
      simp only [Measure.worth, NamedUnit.worth_of_time perTime, NamedUnit.worth_second]
      ring
  | @time unit rate isLeft isRight counted perTime sameFamily =>
      have bitsNotZero := unit.family.bits_ne_zero
      rw [canonical_of_measured isLeft, canonical_of_measured isRight, canonical_of,
        NamedUnit.toBase_rat, NamedUnit.toBase_rat]
      simp only [Measure.worth, NamedUnit.worth, sameFamily]
      field_simp
  | @timeOfBytes unit rate isLeft isRight ofData ofBits =>
      have isAmount : (Measure.single unit).kind = .data := by simp [Measure.kind, ofData]
      have isFlow : (Measure.ratio rate).kind = .bitRate := by
        simp [Measure.kind, Rate.kind, ofBits]
      rw [canonical_of_kind isLeft isAmount (by decide),
        canonical_of_kind isRight isFlow (by decide), canonical_of, Measure.worth,
        NamedUnit.worth_second]
      simp only [Kind.bits, mul_one]
      rfl
  | @timeOfBits unit rate isLeft isRight ofBits ofData =>
      have isAmount : (Measure.single unit).kind = .bit := by simp [Measure.kind, ofBits]
      have isFlow : (Measure.ratio rate).kind = .dataRate := by
        simp [Measure.kind, Rate.kind, ofData]
      rw [canonical_of_kind isLeft isAmount (by decide),
        canonical_of_kind isRight isFlow (by decide), canonical_of, Measure.worth,
        NamedUnit.worth_second]
      simp only [Kind.bits, mul_one]
      rfl
  | like isLeft isRight sameKind sameMoney =>
      have sameClass := Measure.conversionClass_of_like sameKind sameMoney
      rw [canonical_of_base isLeft, canonical_of_base isRight,
        Measure.bits_of_like sameKind sameClass]
      exact (mul_div_mul_right _ _ (Measure.bits_ne_zero _)).symm
  | bytesPerBits isLeft isRight ofData ofBits =>
      rw [canonical_of_kind isLeft ofData (by decide), canonical_of_kind isRight ofBits (by decide)]
      simp only [Kind.bits, mul_one]
      rfl
  | bitsPerBytes isLeft isRight ofBits ofData =>
      rw [canonical_of_kind isLeft ofBits (by decide), canonical_of_kind isRight ofData (by decide)]
      simp only [Kind.bits, mul_one]
      rfl

/-- On exact amounts, conversion keeps what a quantity stands for, so that it can be undone and that
nothing is lost on the way to another measure.  Sums, differences, products and quotients stand for
those of what the operands stand for, data times a duration apart. -/
theorem arithmetic_exact (left right result : Quantity ℚ) :
    (∀ target, left.convert target = .ok result →
      result.canonical = left.canonical ∧
      (∀ source, left.measure = some source → result.convert source = .ok left) ∧
      ∀ last further, result.convert last = .ok further → left.convert last = .ok further) ∧
    (left.add right = .ok result → result.canonical = left.canonical + right.canonical) ∧
    (left.subtract right = .ok result → result.canonical = left.canonical - right.canonical) ∧
    (left.multiply right = .ok result → (¬ ∃ unit, DataAndDuration left right unit) →
      result.canonical = left.canonical * right.canonical) ∧
    (left.divide right = .ok result → result.canonical = left.canonical / right.canonical) := by
  refine ⟨?_, ?_, ?_, ?_, ?_⟩
  · intro target isOk
    exact ⟨canonical_of_convert isOk, fun source isSource => convert_back isSource isOk,
      fun last further isFurther => convert_through isOk isFurther⟩
  · intro isSum
    exact (combine_eq_ok_iff.mp isSum).canonical_eq add_mul
  · intro isDifference
    exact (combine_eq_ok_iff.mp isDifference).canonical_eq sub_mul
  · intro isProduct
    exact (multiplied_of_multiply isProduct).canonical_eq
  · intro isQuotient
    exact (divided_of_divide isQuotient).canonical_eq

/-- A gigabyte at a hundred megabits a minute. -/
theorem exact_download :
    let size : Quantity ℚ := of 1 (.single (.byte (some ⟨.decimal, .giga⟩)))
    let speed : Quantity ℚ := of 100 (.ratio ⟨.bit (some ⟨.decimal, .mega⟩), .time .minute, rfl⟩)
    ∃ time, size.divide speed = .ok time ∧ time.amount = 4800 ∧
      time.canonical = size.canonical / speed.canonical := by
  intro size speed
  obtain ⟨time, isOk, isAmount⟩ : ∃ time, size.divide speed = .ok time ∧ time.amount = 4800 :=
    exists_ok_of_toOption_map (by decide +kernel)
  exact ⟨time, isOk, isAmount, (arithmetic_exact size speed time).2.2.2.2 isOk⟩

end Quantity

end NoteCalc
