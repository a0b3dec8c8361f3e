import NoteCalc.Number.Grouped
import NoteCalc.Number.Reading
import NoteCalc.Proofs.Line.WordShape
import NoteCalc.Proofs.Number.FloatBits
import NoteCalc.Proofs.Text.BlankSeparation

/-!
# Reading printed numbers

However a finite number is printed, its text is that of its thousandths.  A printed number has lost
what is beyond its thousandths, but nothing more is lost by reading it.
Without its commas its digits spell the thousandths, and the machine number nearest to these rounds
to the same thousandths again.
-/

namespace NoteCalc

open NoteCalc.Text

namespace Grouped

/-! ## The ways of printing -/

theorem places_zero : places 0 = [] := rfl

theorem whole_zero : whole 0 = ['0'] := by
  decide

/-- A whole number is printed as if it were rounded to thousandths. -/
theorem thousandths_mul_thousand (negative : Bool) (number : Nat) :
    thousandths negative (number * 1000) = signedWhole negative number := by
  have nonzero : (number * 1000 != 0) = (number != 0) := by
    rw [Bool.eq_iff_iff, bne_iff_ne, bne_iff_ne]
    omega
  unfold thousandths signedWhole
  rw [nonzero, Nat.mul_div_cancel number (by decide), Nat.mul_mod_left, places_zero,
    List.append_nil]

theorem roundedQuotient_of_steps {steps : Nat} (isWhole : steps % Binary64.stepsPerOne = 0) :
    roundedQuotient (steps * 1000) Binary64.stepsPerOne =
      steps / Binary64.stepsPerOne * 1000 := by
  have positive := Binary64.stepsPerOne_pos
  have split : steps / Binary64.stepsPerOne * 1000 * Binary64.stepsPerOne = steps * 1000 := by
    rw [Nat.mul_right_comm, Nat.div_mul_cancel (Nat.dvd_of_mod_eq_zero isWhole)]
  apply (roundedQuotient_eq_iff positive).mpr
  left
  rw [split, Nat.dist_self]
  exact positive

/-- What is less than the machine epsilon has no thousandths. -/
theorem roundedQuotient_of_small {steps : Nat} (small : steps < epsilonSteps) :
    roundedQuotient (steps * 1000) Binary64.stepsPerOne = 0 := by
  have scale : epsilonSteps * 2000 ≤ Binary64.stepsPerOne := by
    decide +kernel
  apply (roundedQuotient_eq_iff Binary64.stepsPerOne_pos).mpr
  left
  rw [Nat.zero_mul, Nat.dist_eq_sub_of_le (Nat.zero_le _)]
  omega

/-- All ways of printing agree: the text of a finite number is the text of its thousandths. -/
theorem finite_eq_thousandths (negative : Bool) (steps : Nat) :
    finite negative steps =
      thousandths negative (roundedQuotient (steps * 1000) Binary64.stepsPerOne) := by
  unfold finite
  split
  · rename_i isWhole
    rw [roundedQuotient_of_steps isWhole.1, thousandths_mul_thousand]
  · split
    · rename_i small
      rw [roundedQuotient_of_small small, thousandths, Nat.zero_div, Nat.zero_mod, whole_zero]
      rw [bne_self_eq_false, Bool.and_false]
      rfl
    · rfl

theorem characters_finite (negative : Bool) (significand exponent : Nat) :
    characters (.finite negative significand exponent) =
      thousandths negative
        (roundedQuotient (significand * Nat.pow 2 exponent * 1000) Binary64.stepsPerOne) :=
  finite_eq_thousandths negative _

/-! ## The digits of a printed number -/

theorem filter_commaAfterThree {digits : List Char} (noComma : ',' ∉ digits) :
    (commaAfterThree digits).filter (· != ',') = digits := by
  fun_induction commaAfterThree digits with
  | case1 first second third fourth rest induction =>
      simp only [List.mem_cons, not_or] at noComma
      obtain ⟨isFirst, isSecond, isThird, isRest⟩ := noComma
      have rest := induction (by simpa using isRest)
      simp [rest, Ne.symm isFirst, Ne.symm isSecond, Ne.symm isThird]
  | case2 few =>
      apply List.filter_eq_self.mpr
      intro digit member
      have notComma : digit ≠ ',' := fun isComma => noComma (isComma ▸ member)
      simpa using notComma

theorem comma_not_mem {digits : List Char} (decimal : ∀ digit ∈ digits, isDecimal digit = true) :
    ',' ∉ digits :=
  fun member => ne_of_isDecimal (decimal ',' member) (by decide) rfl

theorem filter_whole (number : Nat) :
    (whole number).filter (· != ',') = Nat.toDigits 10 number := by
  have noComma : ',' ∉ (Nat.toDigits 10 number).reverse := by
    apply comma_not_mem
    intro digit member
    exact isDecimal_of_mem_toDigits (List.mem_reverse.mp member)
  rw [whole, List.filter_reverse, filter_commaAfterThree noComma, List.reverse_reverse]

theorem mem_whole {number : Nat} {character : Char} (member : character ∈ whole number) :
    isDecimal character = true ∨ character = ',' := by
  by_cases isComma : character = ','
  · exact .inr isComma
  · have kept : character ∈ (whole number).filter (· != ',') :=
      List.mem_filter.mpr ⟨member, by simpa using isComma⟩
    rw [filter_whole] at kept
    exact .inl (isDecimal_of_mem_toDigits kept)

/-- The digits that stand after the point. -/
def fraction (thousandths : Nat) : List Char :=
  (places thousandths).tail

theorem places_eq (thousandths : Nat) :
    places thousandths = [] ∧ fraction thousandths = [] ∨
      places thousandths = '.' :: fraction thousandths := by
  unfold fraction places
  simp only
  split
  · exact .inl ⟨rfl, rfl⟩
  · right
    split
    · rfl
    · split <;> rfl

theorem isDecimal_of_mem_fraction (thousandths : Nat) :
    ∀ digit ∈ fraction thousandths, isDecimal digit = true := by
  unfold fraction places
  simp only
  split
  · simp
  · split
    · simp [isDecimal_digitChar]
    · split <;> simp [isDecimal_digitChar]

/-- The digits after the point continue those before it.  Zeros at the end are left out, so that
their number is scaled to thousandths. -/
theorem decimalValue_append_fraction (whole : List Char) (thousandths : Nat) :
    (fraction thousandths).length ≤ 3 ∧
      ∃ scale, Nat.pow 10 (fraction thousandths).length * scale = 1000 ∧
        decimalValue (whole ++ fraction thousandths) * scale =
          decimalValue whole * 1000 + thousandths % 1000 := by
  have two (first second : Char) : whole ++ [first, second] = (whole ++ [first]) ++ [second] := by
    simp
  have three (first second third : Char) :
      whole ++ [first, second, third] = ((whole ++ [first]) ++ [second]) ++ [third] := by
    simp
  unfold fraction places
  simp only
  split
  · refine ⟨by simp, 1000, by simp, ?_⟩
    simp only [List.tail_nil, List.append_nil]
    omega
  · split
    · refine ⟨by simp, 100, by simp, ?_⟩
      rw [List.tail_cons, decimalValue_snoc]
      omega
    · split
      · refine ⟨by simp, 10, by simp, ?_⟩
        rw [List.tail_cons, two, decimalValue_snoc, decimalValue_snoc]
        omega
      · refine ⟨by simp, 1, by simp, ?_⟩
        rw [List.tail_cons, three, decimalValue_snoc, decimalValue_snoc, decimalValue_snoc]
        omega

/-- The text of a number of thousandths without a sign and without commas. -/
def plain (count : Nat) : List Char :=
  Nat.toDigits 10 (count / 1000) ++ places (count % 1000)

theorem mem_places {thousandths : Nat} {character : Char}
    (member : character ∈ places thousandths) : isDecimal character = true ∨ character = '.' := by
  rcases places_eq thousandths with ⟨none, -⟩ | some
  · rw [none] at member
    exact absurd member List.not_mem_nil
  · rw [some, List.mem_cons] at member
    rcases member with isPoint | inFraction
    · exact .inr isPoint
    · exact .inl (isDecimal_of_mem_fraction thousandths character inFraction)

theorem filter_places (thousandths : Nat) :
    (places thousandths).filter (· != ',') = places thousandths := by
  apply List.filter_eq_self.mpr
  intro character member
  rcases mem_places member with decimal | rfl
  · simpa using ne_of_isDecimal decimal (show isDecimal ',' = false by decide)
  · decide

theorem filter_thousandths (negative : Bool) (count : Nat) :
    (thousandths negative count).filter (· != ',') =
      if negative && count != 0 then '-' :: plain count else plain count := by
  unfold thousandths
  simp only
  split
  · simp [filter_whole, filter_places, plain]
  · simp [filter_whole, filter_places, plain]

theorem mem_magnitude {number thousandths : Nat} {character : Char}
    (member : character ∈ whole number ++ places thousandths) :
    isDecimal character = true ∨ character ∈ [',', '.'] := by
  rcases List.mem_append.mp member with inWhole | inPlaces
  · rcases mem_whole inWhole with decimal | isComma
    · exact .inl decimal
    · exact .inr (by simp [isComma])
  · rcases mem_places inPlaces with decimal | isPoint
    · exact .inl decimal
    · exact .inr (by simp [isPoint])

theorem mem_thousandths {negative : Bool} {count : Nat} {character : Char}
    (member : character ∈ thousandths negative count) :
    isDecimal character = true ∨ character ∈ ['-', ',', '.'] := by
  unfold thousandths at member
  simp only at member
  split at member
  · rcases List.mem_cons.mp member with isMinus | inMagnitude
    · exact .inr (by simp [isMinus])
    · exact (mem_magnitude inMagnitude).imp_right (List.mem_cons_of_mem '-')
  · exact (mem_magnitude member).imp_right (List.mem_cons_of_mem '-')

theorem isBlank_of_mem_thousandths {negative : Bool} {count : Nat} {character : Char}
    (member : character ∈ thousandths negative count) : isBlank character = false := by
  rcases mem_thousandths member with decimal | other
  · exact isBlank_of_isDecimal decimal
  · simp only [List.mem_cons, List.not_mem_nil, or_false] at other
    rcases other with rfl | rfl | rfl <;> decide

theorem exists_plain_eq_cons (count : Nat) :
    ∃ first rest, plain count = first :: rest ∧ isDecimal first = true := by
  obtain ⟨first, rest, digits⟩ :=
    List.exists_cons_of_ne_nil (Nat.toDigits_ne_nil (n := count / 1000) (b := 10))
  have isFirst : first ∈ Nat.toDigits 10 (count / 1000) := by
    rw [digits]
    exact List.mem_cons_self
  refine ⟨first, rest ++ places (count % 1000), ?_, isDecimal_of_mem_toDigits isFirst⟩
  rw [plain, digits, List.cons_append]

theorem thousandths_ne_nil (negative : Bool) (count : Nat) : thousandths negative count ≠ [] := by
  intro none
  have digits := filter_thousandths negative count
  obtain ⟨first, rest, isPlain, -⟩ := exists_plain_eq_cons count
  rw [none, isPlain] at digits
  split at digits <;> exact absurd digits (by simp)

theorem characters_ne_nil (number : Binary64) : characters number ≠ [] := by
  cases number with
  | finite negative significand exponent =>
      rw [characters_finite]
      exact thousandths_ne_nil negative _
  | infinity negative => cases negative <;> decide
  | notANumber => decide

theorem isBlank_of_mem_characters (number : Binary64) :
    ∀ character ∈ characters number, isBlank character = false := by
  cases number with
  | finite negative significand exponent =>
      rw [characters_finite]
      exact fun _ => isBlank_of_mem_thousandths
  | infinity negative => cases negative <;> exact isBlank_of_all (by decide)
  | notANumber => exact isBlank_of_all (by decide)

end Grouped

namespace Reading

/-! ## Reading digits -/

theorem removeUnderscores?_of_not_mem {text : List Char} (none : '_' ∉ text) (afterDigit : Bool) :
    removeUnderscores? afterDigit text = some text := by
  induction text generalizing afterDigit with
  | nil => rfl
  | cons character text induction =>
      simp only [List.mem_cons, not_or] at none
      rw [removeUnderscores?, if_neg (Ne.symm none.1), induction none.2, Option.map_some]

/-- No decimal digit is a capital. -/
theorem toLower_of_isDecimal {character : Char} (decimal : isDecimal character = true) :
    character.toLower = character := by
  obtain ⟨origin, isOrigin, above, below⟩ := exists_origin_of_isDecimal decimal
  have apart : ∀ origin ∈ decimalZeros, origin + 9 < 65 ∨ 90 < origin := by decide
  have notCapital := apart origin isOrigin
  apply Char.toLower_eq_of_not_isUpper
  intro isCapital
  simp only [Char.isUpper, decide_eq_true_eq] at isCapital
  have fromA : 65 ≤ character.toNat := isCapital.1
  have toZ : character.toNat ≤ 90 := isCapital.2
  omega

/-- What starts with a digit is none of the words that stand for numbers. -/
theorem magnitude?_cons_of_isDecimal {first : Char} (decimal : isDecimal first = true)
    (negative : Bool) (rest : List Char) :
    magnitude? negative (first :: rest) = decimal? negative (first :: rest) := by
  have notI : first ≠ 'i' := ne_of_isDecimal decimal (by decide)
  have notN : first ≠ 'n' := ne_of_isDecimal decimal (by decide)
  unfold magnitude?
  simp only [List.map_cons, toLower_of_isDecimal decimal]
  rw [if_neg (by simp [notI]), if_neg (by simp [notN])]

theorem takeSign_cons_of_isDecimal {first : Char} (decimal : isDecimal first = true)
    (rest : List Char) : takeSign (first :: rest) = (false, first :: rest) := by
  have notMinus : first ≠ '-' := ne_of_isDecimal decimal (by decide)
  have notPlus : first ≠ '+' := ne_of_isDecimal decimal (by decide)
  unfold takeSign
  split
  · rename_i same
    exact absurd (List.cons.inj same).1 notMinus
  · rename_i same
    exact absurd (List.cons.inj same).1 notPlus
  · rfl

theorem takeFraction_places (thousandths : Nat) :
    takeFraction (Grouped.places thousandths) = (Grouped.fraction thousandths, []) := by
  rcases Grouped.places_eq thousandths with ⟨none, noFraction⟩ | some
  · rw [none, noFraction]
    rfl
  · have stops : ∀ character ∈ ([] : List Char).head?, isDecimal character = false := by simp
    obtain ⟨taken, left⟩ :=
      takeWhile_append_of_stops (Grouped.isDecimal_of_mem_fraction thousandths) stops
    rw [List.append_nil] at taken left
    rw [some, takeFraction, taken, left]

theorem decimal?_plain (negative : Bool) {count : Nat} (inRange : count < Nat.pow 10 310 * 1000) :
    decimal? negative (Grouped.plain count) = some (Binary64.nearest negative count 1000) := by
  have stops : ∀ character ∈ (Grouped.places (count % 1000)).head?,
      isDecimal character = false := by
    rcases Grouped.places_eq (count % 1000) with ⟨none, -⟩ | some
    · simp [none]
    · rw [some]
      simp only [List.head?_cons, Option.mem_some_iff, forall_eq']
      decide
  have digits : ∀ digit ∈ Nat.toDigits 10 (count / 1000), isDecimal digit = true :=
    fun _ => isDecimal_of_mem_toDigits
  obtain ⟨taken, left⟩ := takeWhile_append_of_stops digits stops
  obtain ⟨few, scale, scaled, value⟩ :=
    Grouped.decimalValue_append_fraction (Nat.toDigits 10 (count / 1000)) (count % 1000)
  rw [decimalValue_toDigits, Nat.mod_mod, Nat.div_add_mod'] at value
  have nonempty : Nat.toDigits 10 (count / 1000) ≠ [] := Nat.toDigits_ne_nil
  have read := Binary64.ofDecimal_thousandths (by omega) scaled value inRange negative
  unfold decimal? Grouped.plain
  simp only [taken, left, takeFraction_places]
  rw [if_neg (by simp [nonempty]), exponent?, Option.map_some, read]

/-- A printed number of thousandths is read as the nearest machine number.  Zero is printed without
a minus. -/
theorem readNumber?_thousandths (negative : Bool) {count : Nat}
    (inRange : count < Nat.pow 10 310 * 1000) :
    readNumber? ((Grouped.thousandths negative count).filter (· != ',')) =
      some (Binary64.nearest (negative && count != 0) count 1000) := by
  have noBlank : ∀ character ∈ (Grouped.thousandths negative count).filter (· != ','),
      surrounds character = false := by
    intro character member
    rw [surrounds, Grouped.isBlank_of_mem_thousandths (List.mem_filter.mp member).1,
      Bool.false_and]
  have noUnderscore : '_' ∉ (Grouped.thousandths negative count).filter (· != ',') := by
    intro member
    rcases Grouped.mem_thousandths (List.mem_filter.mp member).1 with decimal | other
    · exact absurd decimal (by decide)
    · exact absurd other (by decide)
  obtain ⟨first, rest, isPlain, decimal⟩ := Grouped.exists_plain_eq_cons count
  rw [readNumber?, trimWhere_eq_self noBlank, removeUnderscores?_of_not_mem noUnderscore,
    Option.bind_some, Grouped.filter_thousandths]
  cases negative && count != 0 with
  | false =>
      have magnitude := decimal?_plain false inRange
      rw [isPlain, ← magnitude?_cons_of_isDecimal decimal] at magnitude
      rw [if_neg (by decide), isPlain, takeSign_cons_of_isDecimal decimal]
      exact magnitude
  | true =>
      have magnitude := decimal?_plain true inRange
      rw [isPlain, ← magnitude?_cons_of_isDecimal decimal] at magnitude
      rw [if_pos rfl, isPlain, takeSign]
      exact magnitude

end Reading

/-! ## Printing and reading -/

/-- The thousandths of a finite machine number are in the range of the decimals that are read. -/
theorem roundedQuotient_lt {significand exponent : Nat} (short : significand < Nat.pow 2 53)
    (inRange : exponent + 2 ≤ Binary64.topField) :
    roundedQuotient (significand * Nat.pow 2 exponent * 1000) Binary64.stepsPerOne <
      Nat.pow 10 310 * 1000 := by
  have power : Nat.pow 2 exponent ≤ Nat.pow 2 (Binary64.topField - 2) :=
    Binary64.pow_two_le_pow_two (by omega)
  obtain ⟨top, largest, decimals⟩ : ∃ top,
      Nat.pow 2 53 * Nat.pow 2 (Binary64.topField - 2) = top * Binary64.stepsPerOne ∧
      top < Nat.pow 10 310 := ⟨Nat.pow 2 1024, by decide +kernel, by decide +kernel⟩
  have below : significand * Nat.pow 2 exponent * 1000 ≤ top * 1000 * Binary64.stepsPerOne := by
    calc significand * Nat.pow 2 exponent * 1000
        ≤ Nat.pow 2 53 * Nat.pow 2 (Binary64.topField - 2) * 1000 := by gcongr
      _ = top * 1000 * Binary64.stepsPerOne := by rw [largest, Nat.mul_right_comm]
  have rounded := roundedQuotient_le Binary64.stepsPerOne_pos below
  omega

theorem thousandths_and_ne_zero (negative : Bool) (count : Nat) :
    Grouped.thousandths (negative && count != 0) count = Grouped.thousandths negative count := by
  simp [Grouped.thousandths]

theorem formatNumber_ne_nil (number : Float) : (formatNumber number).toList ≠ [] := by
  rw [formatNumber, String.toList_ofList]
  exact Grouped.characters_ne_nil _

theorem isBlank_of_mem_formatNumber (number : Float) :
    ∀ character ∈ (formatNumber number).toList, isBlank character = false := by
  rw [formatNumber, String.toList_ofList]
  exact Grouped.isBlank_of_mem_characters _

/-- A printed number is read, and what is read is printed alike. -/
theorem exists_readNumber?_formatNumber (number : Float) :
    ∃ read, readNumber? ((formatNumber number).toList.filter (· != ',')) = some read ∧
      formatNumber read = formatNumber number := by
  unfold formatNumber
  rw [String.toList_ofList]
  cases decoded : Binary64.ofFloat number with
  | finite negative significand exponent =>
      obtain ⟨short, inRange⟩ := Binary64.bounds_of_ofFloat decoded
      have bound := roundedQuotient_lt short inRange
      rw [Grouped.characters_finite]
      generalize isCount :
        roundedQuotient (significand * Nat.pow 2 exponent * 1000) Binary64.stepsPerOne = count
        at bound ⊢
      obtain ⟨small, kept⟩ := Binary64.thousandths_kept short inRange isCount
      obtain ⟨nearestSignificand, nearestExponent, isNearest, steps⟩ :=
        Binary64.ofFloat_nearest (negative && count != 0) (show 0 < 1000 by decide) small
      refine ⟨_, Reading.readNumber?_thousandths negative bound, ?_⟩
      rw [isNearest, Grouped.characters_finite, steps, kept, thousandths_and_ne_zero]
  | infinity negative =>
      cases negative with
      | false => exact ⟨1 / 0, rfl, by decide +kernel⟩
      | true => exact ⟨-(1 / 0), rfl, by decide +kernel⟩
  | notANumber => exact ⟨0 / 0, rfl, by decide +kernel⟩

end NoteCalc
