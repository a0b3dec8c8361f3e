import NoteCalc.Proofs.Line.WordShape
import NoteCalc.Proofs.Measure.UnitWords

/-!
# Reading the symbols of measures

The symbol of a rate is a short name, or two symbols around a slash.  A short name is a unit word,
and two symbols around a slash are none, so that the two are told apart and each is read as the rate
that prints it, but for the two currencies that share a symbol.
-/

namespace NoteCalc

open NoteCalc.Text

namespace Measure

/-- Whether a text is a word without blanks that names a measure. -/
def Names (word : String) (measure : Measure) : Prop :=
  word.toList ≠ [] ∧ word.toList.all (!isBlank ·) = true ∧ ofWord? word.toList = some measure

instance (word : String) (measure : Measure) : Decidable (Names word measure) :=
  inferInstanceAs (Decidable (_ ∧ _ ∧ _))

end Measure

namespace Rate

/-- The rate that the symbol of a rate names. -/
def asPrinted (rate : Rate) : Rate where
  numerator := rate.numerator.asPrinted
  denominator := rate.denominator
  forms := by
    have forms := rate.forms
    unfold formsRate at forms ⊢
    rwa [NamedUnit.family_asPrinted]

/-- What rates count by has a symbol of its own. -/
theorem asPrinted_denominator (rate : Rate) : rate.denominator.asPrinted = rate.denominator := by
  apply (NamedUnit.asPrinted_eq_self_iff rate.denominator).mpr
  intro isYuan
  have forms := rate.forms
  unfold formsRate at forms
  rw [isYuan] at forms
  simp [NamedUnit.family] at forms

theorem asPrinted_eq_self_iff (rate : Rate) :
    rate.asPrinted = rate ↔ rate.numerator ≠ .currency .cny := by
  rw [← NamedUnit.asPrinted_eq_self_iff]
  constructor
  · intro same
    exact congrArg Rate.numerator same
  · intro same
    rcases rate with ⟨numerator, denominator, forms⟩
    simp only [asPrinted, same]

theorem shorthand?_of_currency {rate : Rate} {money : Currency}
    (isMoney : rate.numerator = .currency money) : rate.shorthand? = none := by
  simp [shorthand?, isMoney]

theorem asPrinted_of_shorthand? {rate : Rate} {word : String}
    (short : rate.shorthand? = some word) : rate.asPrinted = rate := by
  apply (asPrinted_eq_self_iff rate).mpr
  intro isYuan
  rw [shorthand?_of_currency isYuan] at short
  exact absurd short (by simp)

theorem symbol_asPrinted (rate : Rate) : rate.asPrinted.symbol = rate.symbol := by
  by_cases isYuan : rate.numerator = .currency .cny
  · have isYen : rate.asPrinted.numerator = .currency .jpy :=
      congrArg NamedUnit.asPrinted isYuan
    unfold symbol
    rw [shorthand?_of_currency isYuan, shorthand?_of_currency isYen, Option.getD_none,
      Option.getD_none, isYuan, isYen]
    rfl
  · rw [(asPrinted_eq_self_iff rate).mpr isYuan]

theorem shorthand?_names {rate : Rate} {word : String} (short : rate.shorthand? = some word) :
    Measure.Names word (.ratio rate) := by
  have multiples : ∀ multiple : Multiple,
      Measure.Names (multiple.symbol ++ "bps")
        (.ratio ⟨.bit (some multiple), .time .second, rfl⟩) := by decide +kernel
  have bits : Measure.Names "bps" (.ratio ⟨.bit none, .time .second, rfl⟩) := by decide +kernel
  have perSecond : Measure.Names "QPS" (.ratio ⟨.query, .time .second, rfl⟩) := by decide +kernel
  have perMinute : Measure.Names "QPM" (.ratio ⟨.query, .time .minute, rfl⟩) := by decide +kernel
  have perHour : Measure.Names "QPH" (.ratio ⟨.query, .time .hour, rfl⟩) := by decide +kernel
  rcases rate with ⟨numerator, denominator, forms⟩
  simp only [shorthand?] at short
  split at short
  · obtain rfl := Option.some.inj short
    exact bits
  · obtain rfl := Option.some.inj short
    rename_i multiple
    exact multiples multiple
  · obtain rfl := Option.some.inj short
    exact perSecond
  · obtain rfl := Option.some.inj short
    exact perMinute
  · obtain rfl := Option.some.inj short
    exact perHour
  · exact absurd short (by simp)

theorem toList_slashed (numerator denominator : NamedUnit) :
    (numerator.symbol ++ "/" ++ denominator.symbol).toList =
      numerator.symbol.toList ++ '/' :: denominator.symbol.toList := by
  simp [String.toList_append]

theorem isBlank_of_mem_slashed {numerator denominator : NamedUnit} {character : Char}
    (member : character ∈ numerator.symbol.toList ++ '/' :: denominator.symbol.toList) :
    isBlank character = false := by
  rcases List.mem_append.mp member with inNumerator | inRest
  · exact numerator.isBlank_of_mem_symbol character inNumerator
  · rcases List.mem_cons.mp inRest with rfl | inDenominator
    · decide
    · exact denominator.isBlank_of_mem_symbol character inDenominator

theorem per?_parts (rate : Rate) :
    Measure.per? (.single rate.numerator) (.single rate.denominator) = some rate :=
  dif_pos rate.forms

/-- The two symbols around the slash are read apart. -/
theorem parse?_slashed (rate : Rate) :
    Measure.parse? (rate.numerator.symbol.toList ++ '/' :: rate.denominator.symbol.toList) =
      some (.ratio rate.asPrinted) := by
  have noSlash : ∀ character ∈ rate.numerator.symbol.toList, (character != '/') = true := by
    intro character member
    apply bne_iff_ne.mpr
    rintro rfl
    exact rate.numerator.slash_not_mem_symbol member
  have stops : ∀ character ∈ ('/' :: rate.denominator.symbol.toList).head?,
      (character != '/') = false := by simp
  obtain ⟨taken, left⟩ := takeWhile_append_of_stops noSlash stops
  have slash : '/' ∈ rate.numerator.symbol.toList ++ '/' :: rate.denominator.symbol.toList := by
    simp
  have words : Measure.ofWords? rate.numerator.symbol.toList rate.denominator.symbol.toList =
      some (.ratio rate.asPrinted) := by
    rw [Measure.ofWords?, Measure.ofWord?_symbol, Measure.ofWord?_symbol, asPrinted_denominator]
    exact congrArg (Option.map Measure.ratio) (per?_parts rate.asPrinted)
  rw [Measure.parse?, trimBlanks_eq_self fun _ => isBlank_of_mem_slashed]
  simp only [Measure.ofWord?_of_slash slash, Option.none_or, left, taken]
  rw [trimBlanks_eq_self rate.numerator.isBlank_of_mem_symbol,
    trimBlanks_eq_self rate.denominator.isBlank_of_mem_symbol]
  exact words

end Rate

namespace Measure

/-- The measure that the symbol of a measure names. -/
def asPrinted : Measure → Measure
  | .single unit => .single unit.asPrinted
  | .ratio rate => .ratio rate.asPrinted

/-- The money that a measure counts. -/
def money? : Measure → Option Currency
  | .single (.currency money) => some money
  | .single _ => none
  | .ratio rate =>
      match rate.numerator with
      | .currency money => some money
      | _ => none

theorem symbol_asPrinted (measure : Measure) : measure.asPrinted.symbol = measure.symbol := by
  cases measure with
  | single unit => exact unit.symbol_asPrinted
  | ratio rate => exact rate.symbol_asPrinted

theorem asPrinted_eq_self_iff (measure : Measure) :
    measure.asPrinted = measure ↔ measure.money? ≠ some .cny := by
  cases measure with
  | single unit =>
      have money : unit = .currency .cny ↔ (single unit).money? = some .cny := by
        cases unit <;> simp [money?]
      rw [ne_eq, ← money, ← ne_eq, ← NamedUnit.asPrinted_eq_self_iff, asPrinted, single.injEq]
  | ratio rate =>
      have money : rate.numerator = .currency .cny ↔ (ratio rate).money? = some .cny := by
        cases isNumerator : rate.numerator <;> simp [money?, isNumerator]
      rw [ne_eq, ← money, ← ne_eq, ← Rate.asPrinted_eq_self_iff, asPrinted, ratio.injEq]

theorem parse?_of_names {word : String} {measure : Measure} (names : Names word measure) :
    parse? word.toList = some measure := by
  obtain ⟨-, noBlank, found⟩ := names
  rw [parse?, trimBlanks_eq_self (isBlank_of_all noBlank), found, Option.some_or]

theorem symbol_ne_nil (measure : Measure) : measure.symbol.toList ≠ [] := by
  cases measure with
  | single unit => exact unit.symbol_ne_nil
  | ratio rate =>
      rw [symbol, Rate.symbol]
      cases short : rate.shorthand? with
      | none => simp
      | some word => exact (Rate.shorthand?_names short).1

theorem isBlank_of_mem_symbol (measure : Measure) :
    ∀ character ∈ measure.symbol.toList, isBlank character = false := by
  cases measure with
  | single unit => exact unit.isBlank_of_mem_symbol
  | ratio rate =>
      rw [symbol, Rate.symbol]
      cases short : rate.shorthand? with
      | none =>
          rw [Option.getD_none, Rate.toList_slashed]
          exact fun _ => Rate.isBlank_of_mem_slashed
      | some word => exact isBlank_of_all (Rate.shorthand?_names short).2.1

/-- The symbol of a measure is read as the measure that it names. -/
theorem parse?_symbol (measure : Measure) :
    parse? measure.symbol.toList = some measure.asPrinted := by
  cases measure with
  | single unit =>
      rw [symbol, parse?, trimBlanks_eq_self unit.isBlank_of_mem_symbol, ofWord?_symbol,
        Option.some_or, asPrinted]
  | ratio rate =>
      rw [symbol, Rate.symbol, asPrinted]
      cases short : rate.shorthand? with
      | none =>
          rw [Option.getD_none, Rate.toList_slashed]
          exact rate.parse?_slashed
      | some word =>
          rw [Option.getD_some, Rate.asPrinted_of_shorthand? short]
          exact parse?_of_names (Rate.shorthand?_names short)

end Measure

end NoteCalc
