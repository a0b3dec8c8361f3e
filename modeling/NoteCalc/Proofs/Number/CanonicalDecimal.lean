import Mathlib
import NoteCalc.Proofs.Number.PrintedNumber

/-!
# Canonical decimals

A canonical decimal is a text in one form only: an optional minus, digits in groups of three, and up
to three places.  It starts with no superfluous zero, its places end in none, and zero has no minus.
The text of every number of thousandths is canonical and denotes that number.
-/

namespace NoteCalc

open NoteCalc.Text

/-- A decimal in the parts of its text. -/
structure GroupedDecimal where
  negative : Bool
  /-- The group before the first comma, which may have less than three digits. -/
  leading : List Char
  groups : List (List Char)
  /-- The digits after the point. -/
  places : List Char

namespace GroupedDecimal

/-- The digits before the point. -/
def digits (decimal : GroupedDecimal) : List Char :=
  decimal.leading ++ decimal.groups.flatten

/-- The parts put together.  There is no point without places. -/
def text (decimal : GroupedDecimal) : List Char :=
  (if decimal.negative then ['-'] else []) ++
    (decimal.leading ++ decimal.groups.flatMap (',' :: ·)) ++
    (if decimal.places = [] then [] else '.' :: decimal.places)

/-- What the parts of a canonical decimal are like. -/
structure Canonical (decimal : GroupedDecimal) : Prop where
  isDigit : ∀ digit ∈ decimal.digits ++ decimal.places, digit.isDigit = true
  leading : 1 ≤ decimal.leading.length ∧ decimal.leading.length ≤ 3
  groups : ∀ group ∈ decimal.groups, group.length = 3
  noLeadingZero : decimal.digits.head? = some '0' → decimal.digits = ['0']
  places : decimal.places.length ≤ 3 ∧ decimal.places.getLast? ≠ some '0'
  noMinusZero : decimal.negative = true → ∃ digit ∈ decimal.digits ++ decimal.places, digit ≠ '0'

end GroupedDecimal

/-- The text of a canonical decimal. -/
def IsCanonicalDecimal (text : List Char) : Prop :=
  ∃ decimal : GroupedDecimal, decimal.Canonical ∧ decimal.text = text

/-! ## What a text denotes -/

/-- A magnitude with a sign. -/
def signed (negative : Bool) (magnitude : ℚ) : ℚ :=
  if negative then -magnitude else magnitude

/-- The number that digits with commas and a point denote. -/
def denotedMagnitude (text : List Char) : ℚ :=
  let whole := (text.takeWhile (· != '.')).filter (· != ',')
  let places := (text.dropWhile (· != '.')).drop 1
  decimalValue (whole ++ places) / 10 ^ places.length

/-- The number that a decimal text denotes. -/
def denoted : List Char → ℚ
  | '-' :: text => -denotedMagnitude text
  | text => denotedMagnitude text

namespace Grouped

variable {number : Nat} {character : Char}

/-! ## Groups of digits -/

/-- A text is made of digits and of commas that part them into a leading group and groups of
three. -/
structure Grouping (text digits leading : List Char) (groups : List (List Char)) : Prop where
  text_eq : text = leading ++ groups.flatMap (',' :: ·)
  digits_eq : digits = leading ++ groups.flatten
  leading : 1 ≤ leading.length ∧ leading.length ≤ 3
  groups : ∀ group ∈ groups, group.length = 3

namespace Grouping

variable {text digits leading group : List Char} {groups : List (List Char)}

theorem of_few (nonempty : digits ≠ []) (few : digits.length ≤ 3) :
    Grouping digits digits digits [] := by
  constructor
  · rw [List.flatMap_nil, List.append_nil]
  · rw [List.flatten_nil, List.append_nil]
  · exact ⟨List.length_pos_iff.mpr nonempty, few⟩
  · intro group member
    exact absurd member List.not_mem_nil

/-- One more group can be put at the end. -/
theorem snoc (grouping : Grouping text digits leading groups) (three : group.length = 3) :
    Grouping (text ++ ',' :: group) (digits ++ group) leading (groups ++ [group]) := by
  constructor
  · rw [grouping.text_eq, List.flatMap_append, List.flatMap_singleton, List.append_assoc]
  · rw [grouping.digits_eq, List.flatten_append, List.flatten_singleton, List.append_assoc]
  · exact grouping.leading
  · intro other member
    rcases List.mem_append.mp member with inGroups | isLast
    · exact grouping.groups other inGroups
    · rw [List.mem_singleton.mp isLast]
      exact three

end Grouping

theorem length_le_three {digits : List Char}
    (short : ∀ first second third fourth rest,
      digits = first :: second :: third :: fourth :: rest → False) : digits.length ≤ 3 := by
  rcases digits with _ | ⟨first, _ | ⟨second, _ | ⟨third, _ | ⟨fourth, rest⟩⟩⟩⟩
  · exact Nat.zero_le 3
  · exact Nat.le_add_left 1 2
  · exact Nat.le_add_left 2 1
  · exact Nat.le_refl 3
  · exact absurd rfl (short first second third fourth rest)

/-- Commas after every third digit from the end make groups. -/
theorem exists_grouping_of_commaAfterThree {digits : List Char} (nonempty : digits ≠ []) :
    ∃ leading groups,
      Grouping (commaAfterThree digits).reverse digits.reverse leading groups := by
  fun_induction commaAfterThree digits with
  | case1 first second third fourth rest induction =>
      obtain ⟨leading, groups, grouping⟩ := induction (List.cons_ne_nil fourth rest)
      have longer := grouping.snoc (show [third, second, first].length = 3 from rfl)
      refine ⟨leading, groups ++ [[third, second, first]], ?_⟩
      simpa using longer
  | case2 few short =>
      have nonemptyToo : few.reverse ≠ [] := mt List.reverse_eq_nil_iff.mp nonempty
      have notLong : few.reverse.length ≤ 3 := by
        rw [List.length_reverse]
        exact length_le_three short
      exact ⟨few.reverse, [], .of_few nonemptyToo notLong⟩

theorem exists_grouping_of_whole (number : Nat) :
    ∃ leading groups, Grouping (whole number) (Nat.toDigits 10 number) leading groups := by
  have nonempty : (Nat.toDigits 10 number).reverse ≠ [] :=
    mt List.reverse_eq_nil_iff.mp Nat.toDigits_ne_nil
  have grouping := exists_grouping_of_commaAfterThree nonempty
  rwa [List.reverse_reverse] at grouping

/-- The first digit of a number is zero for zero only. -/
theorem head?_toDigits (isZero : (Nat.toDigits 10 number).head? = some '0') : number = 0 := by
  induction number using Nat.strongRecOn with
  | ind number induction =>
      by_cases short : number < 10
      · rw [Nat.toDigits_of_lt_base short, List.head?_cons, Option.some_inj] at isZero
        exact Nat.digitChar_eq_zero.mp isZero
      · rw [toDigits_snoc number (by omega),
          List.head?_append_of_ne_nil _ Nat.toDigits_ne_nil] at isZero
        have tenth := induction (number / 10) (by omega) isZero
        omega

theorem exists_digit_of_toDigits (positive : 0 < number) :
    ∃ digit ∈ Nat.toDigits 10 number, digit ≠ '0' := by
  obtain ⟨first, rest, digits⟩ :=
    List.exists_cons_of_ne_nil (Nat.toDigits_ne_nil (n := number) (b := 10))
  refine ⟨first, ?_, ?_⟩
  · rw [digits]
    exact List.mem_cons_self
  · rintro rfl
    have isZero : (Nat.toDigits 10 number).head? = some '0' := by
      rw [digits, List.head?_cons]
    exact absurd (head?_toDigits isZero) (Nat.ne_of_gt positive)

/-! ## Places -/

theorem isDigit_of_mem_fraction (thousandths : Nat) :
    ∀ digit ∈ fraction thousandths, digit.isDigit = true := by
  have isDigit (number : Nat) : (Nat.digitChar (number % 10)).isDigit = true := by
    rw [Nat.isDigit_digitChar, decide_eq_true_eq]
    exact Nat.mod_lt _ (by decide)
  unfold fraction places
  simp only
  split
  · simp
  · split
    · simp [isDigit]
    · split <;> simp [isDigit]

/-- There are no places, or they do not end in a zero. -/
theorem places_cases (thousandths : Nat) :
    thousandths % 1000 = 0 ∧ places thousandths = [] ∨
      ∃ before last, places thousandths = '.' :: (before ++ [last]) ∧ last ≠ '0' := by
  have notZero {digit : Nat} (some : digit ≠ 0) : Nat.digitChar digit ≠ '0' :=
    mt Nat.digitChar_eq_zero.mp some
  unfold places
  simp only
  split
  · rename_i none
    exact .inl ⟨none, rfl⟩
  · right
    split
    · exact ⟨[], _, rfl, notZero (by omega)⟩
    · split
      · exact ⟨[_], _, rfl, notZero (by omega)⟩
      · exact ⟨[_, _], _, rfl, notZero (by omega)⟩

theorem getLast?_fraction (thousandths : Nat) : (fraction thousandths).getLast? ≠ some '0' := by
  unfold fraction
  rcases places_cases thousandths with ⟨-, none⟩ | ⟨before, last, some, notZero⟩
  · simp [none]
  · simpa [some] using notZero

theorem exists_digit_of_fraction {thousandths : Nat} (some : thousandths % 1000 ≠ 0) :
    ∃ digit ∈ fraction thousandths, digit ≠ '0' := by
  unfold fraction
  rcases places_cases thousandths with ⟨none, -⟩ | ⟨before, last, isSome, notZero⟩
  · exact absurd none some
  · exact ⟨last, by simp [isSome], notZero⟩

theorem places_eq_fraction (thousandths : Nat) :
    places thousandths =
      if fraction thousandths = [] then [] else '.' :: fraction thousandths := by
  unfold fraction
  rcases places_cases thousandths with ⟨-, none⟩ | ⟨before, last, some, -⟩
  · simp [none]
  · simp [some]

/-! ## Thousandths -/

theorem exists_digit_of_thousandths {count : Nat} (some : count ≠ 0) :
    ∃ digit ∈ Nat.toDigits 10 (count / 1000) ++ fraction (count % 1000), digit ≠ '0' := by
  simp only [List.mem_append]
  by_cases whole : count / 1000 = 0
  · obtain ⟨digit, member, notZero⟩ :=
      exists_digit_of_fraction (show count % 1000 % 1000 ≠ 0 by omega)
    exact ⟨digit, .inr member, notZero⟩
  · obtain ⟨digit, member, notZero⟩ := exists_digit_of_toDigits (Nat.pos_of_ne_zero whole)
    exact ⟨digit, .inl member, notZero⟩

/-- The text of every number of thousandths is canonical. -/
theorem isCanonicalDecimal_thousandths (negative : Bool) (count : Nat) :
    IsCanonicalDecimal (thousandths negative count) := by
  obtain ⟨leading, groups, grouping⟩ := exists_grouping_of_whole (count / 1000)
  refine ⟨⟨negative && count != 0, leading, groups, fraction (count % 1000)⟩, ?_, ?_⟩
  · constructor
    · intro digit member
      rw [GroupedDecimal.digits, ← grouping.digits_eq] at member
      rcases List.mem_append.mp member with inWhole | inPlaces
      · exact Nat.isDigit_of_mem_toDigits (by decide) (by decide) inWhole
      · exact isDigit_of_mem_fraction _ digit inPlaces
    · exact grouping.leading
    · exact grouping.groups
    · intro isZero
      rw [GroupedDecimal.digits, ← grouping.digits_eq] at isZero ⊢
      rw [head?_toDigits isZero]
      rfl
    · exact ⟨(decimalValue_append_fraction [] (count % 1000)).1, getLast?_fraction _⟩
    · intro isNegative
      have nonzero : count ≠ 0 := by simpa using (Bool.and_eq_true_iff.mp isNegative).2
      rw [GroupedDecimal.digits, ← grouping.digits_eq]
      exact exists_digit_of_thousandths nonzero
  · rw [GroupedDecimal.text, ← grouping.text_eq, ← places_eq_fraction, thousandths]
    cases negative && count != 0 <;> rfl

/-! ## The value of thousandths -/

/-- The point parts the digits before it from the places. -/
theorem parts_of_magnitude (number thousandths : Nat) :
    (whole number ++ places thousandths).takeWhile (· != '.') = whole number ∧
      (whole number ++ places thousandths).dropWhile (· != '.') = places thousandths := by
  apply takeWhile_append_of_stops
  · intro character member
    rcases mem_whole member with decimal | rfl
    · simpa using ne_of_isDecimal decimal (show isDecimal '.' = false by decide)
    · decide
  · intro character isHead
    rcases places_eq thousandths with ⟨none, -⟩ | some
    · rw [none] at isHead
      exact absurd isHead (by simp)
    · rw [some, List.head?_cons, Option.mem_some_iff] at isHead
      rw [← isHead]
      rfl

/-- The digits of a number of thousandths denote that number. -/
theorem denotedMagnitude_thousandths (count : Nat) :
    denotedMagnitude (whole (count / 1000) ++ places (count % 1000)) = count / 1000 := by
  obtain ⟨before, after⟩ := parts_of_magnitude (count / 1000) (count % 1000)
  obtain ⟨-, scale, scaled, value⟩ :=
    decimalValue_append_fraction (Nat.toDigits 10 (count / 1000)) (count % 1000)
  rw [decimalValue_toDigits, Nat.mod_mod, Nat.div_add_mod'] at value
  have tail : (places (count % 1000)).tail = fraction (count % 1000) := rfl
  unfold denotedMagnitude
  simp only [before, after, filter_whole, List.drop_one, tail]
  generalize (fraction (count % 1000)).length = length at scaled ⊢
  generalize decimalValue (Nat.toDigits 10 (count / 1000) ++ fraction (count % 1000)) = digits
    at value ⊢
  have crossed : digits * 1000 = count * 10 ^ length := by
    calc digits * 1000 = digits * (10 ^ length * scale) := by rw [← scaled, Nat.pow_eq]
      _ = digits * scale * 10 ^ length := by ring
      _ = count * 10 ^ length := by rw [value]
  rw [div_eq_div_iff (by positivity) (by norm_num)]
  exact_mod_cast crossed

theorem minus_not_mem_magnitude (number thousandths : Nat) :
    '-' ∉ whole number ++ places thousandths := by
  intro member
  rcases mem_magnitude member with decimal | isOther
  · exact absurd decimal (by decide)
  · exact absurd isOther (by decide)

theorem denoted_of_minus_not_mem {text : List Char} (noMinus : '-' ∉ text) :
    denoted text = denotedMagnitude text := by
  unfold denoted
  split
  · exact absurd List.mem_cons_self noMinus
  · rfl

theorem denoted_thousandths (negative : Bool) (count : Nat) :
    denoted (thousandths negative count) = signed negative (count / 1000) := by
  have magnitude := denotedMagnitude_thousandths count
  have plain := denoted_of_minus_not_mem (minus_not_mem_magnitude (count / 1000) (count % 1000))
  unfold thousandths signed
  simp only
  cases negative with
  | false =>
      rw [Bool.false_and, if_neg Bool.false_ne_true, if_neg Bool.false_ne_true, plain, magnitude]
  | true =>
      by_cases zero : count = 0
      · have noMinus : (true && count != 0) = false := by simpa using zero
        rw [noMinus, if_neg Bool.false_ne_true, if_pos rfl, plain, magnitude, zero]
        simp
      · have minus : (true && count != 0) = true := by simpa using zero
        rw [if_pos minus, if_pos rfl, denoted, magnitude]

end Grouped

end NoteCalc
