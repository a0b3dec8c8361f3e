import Mathlib.Algebra.Group.Nat.Defs
import Mathlib.Data.List.Induction
import NoteCalc.Line.Lexeme
import NoteCalc.Proofs.Text.CharacterClasses

/-!
# The shape of words

The word at the head of a text is fixed by where it ends: it is a word, and no word character comes
after it.  The second half of the module reads back what a natural number is written as.
-/

namespace NoteCalc.Text

open Lexeme (startsWithWordCharacter)

theorem startsWord_of_not_isWordCharacter {character : Char}
    (outside : isWordCharacter character = false) : startsWord character = false := by
  simp [startsWord, outside]

theorem isDecimal_eq_false {first : Char} (starts : startsWord first = true) :
    isDecimal first = false := by
  simpa using (Bool.and_eq_true_iff.mp starts).2

/-- The characters with a meaning of their own outside words: blanks inside a line, what groups
digits, operators, parentheses, and signs of units. -/
def signs : List Char :=
  [' ', '\t', '.', ',', '+', '-', '*', '/', '^', '=', '(', ')', '%', '$', '€', '£', '¥', '₹', '₩']

theorem startsWord_sign {sign : Char} (isSign : sign ∈ signs) : startsWord sign = false := by
  have none : signs.all (!startsWord ·) = true := by decide +kernel
  simpa using List.all_eq_true.mp none sign isSign

theorem not_mem_signs {character : Char} (starts : startsWord character = true) :
    character ∉ signs := by
  intro isSign
  rw [startsWord_sign isSign] at starts
  exact absurd starts (by simp)

theorem isInlineBlank_eq_false {first : Char} (starts : startsWord first = true) :
    isInlineBlank first = false := by
  unfold isInlineBlank
  refine Bool.eq_false_iff.mpr fun blank => ?_
  simp only [Bool.or_eq_true, beq_iff_eq] at blank
  rcases blank with rfl | rfl <;> exact absurd (by decide) (not_mem_signs starts)

theorem isBlank_eq_false {first : Char} (starts : startsWord first = true) :
    isBlank first = false := by
  refine Bool.eq_false_iff.mpr fun blank => ?_
  have outside := startsWord_of_not_isWordCharacter (isWordCharacter_of_isBlank blank)
  rw [starts] at outside
  exact absurd outside (by simp)

/-! ## Words -/

/-- A word: a character that can start one, and word characters after it. -/
def IsWord (word : List Char) : Prop :=
  ∃ first rest, word = first :: rest ∧ startsWord first = true ∧
    ∀ character ∈ rest, isWordCharacter character = true

theorem isWordCharacter_of_isWord {word : List Char} (isWord : IsWord word) :
    ∀ character ∈ word, isWordCharacter character = true := by
  obtain ⟨first, rest, rfl, starts, inside⟩ := isWord
  refine List.forall_mem_cons.mpr ⟨?_, inside⟩
  exact (Bool.and_eq_true_iff.mp starts).1

theorem startsWithWordCharacter_dropWhile (text : List Char) :
    startsWithWordCharacter (text.dropWhile isWordCharacter) = false := by
  cases left : text.dropWhile isWordCharacter with
  | nil => rfl
  | cons character rest =>
      have stops := List.head?_dropWhile_not isWordCharacter text
      rw [left] at stops
      have outside : isWordCharacter character = false := by simpa using stops
      exact outside

theorem takeWhile_append_of_stops {class_ : Char → Bool} {run rest : List Char}
    (inside : ∀ character ∈ run, class_ character = true)
    (stops : ∀ character ∈ rest.head?, class_ character = false) :
    (run ++ rest).takeWhile class_ = run ∧ (run ++ rest).dropWhile class_ = rest := by
  rw [List.takeWhile_append_of_pos inside, List.dropWhile_append_of_pos inside]
  cases rest with
  | nil => simp
  | cons character rest =>
      have stopsHere := stops character rfl
      simp [stopsHere]

theorem isWordCharacter_head {rest : List Char} (ends : startsWithWordCharacter rest = false) :
    ∀ character ∈ rest.head?, isWordCharacter character = false := by
  intro character isHead
  cases rest with
  | nil => exact absurd isHead (by simp)
  | cons first rest =>
      obtain rfl := Option.some.inj isHead
      exact ends

/-- The word at the head of a text is the one after which no word character comes. -/
theorem word?_eq_some_iff {text word rest : List Char} :
    word? text = some (word, rest) ↔
      text = word ++ rest ∧ IsWord word ∧ startsWithWordCharacter rest = false := by
  constructor
  · intro found
    refine ⟨(word?_append found).symm, ?_⟩
    cases text with
    | nil => simp [word?] at found
    | cons character text =>
        simp only [word?] at found
        split at found
        · rename_i starts
          obtain ⟨rfl, rfl⟩ := Prod.mk.inj (Option.some.inj found)
          refine ⟨⟨character, _, rfl, starts, ?_⟩, startsWithWordCharacter_dropWhile text⟩
          intro other member
          exact List.all_eq_true.mp List.all_takeWhile other member
        · exact absurd found (by simp)
  · rintro ⟨rfl, ⟨first, word, rfl, starts, inside⟩, ends⟩
    obtain ⟨taken, left⟩ := takeWhile_append_of_stops inside (isWordCharacter_head ends)
    rw [List.cons_append, word?, if_pos starts, taken, left]

theorem word?_of_startsWord {character : Char} (starts : startsWord character = true)
    (text : List Char) :
    word? (character :: text) =
      some (character :: text.takeWhile isWordCharacter, text.dropWhile isWordCharacter) :=
  if_pos starts

theorem word?_of_not_startsWord {character : Char} (outside : startsWord character = false)
    (text : List Char) : word? (character :: text) = none := by
  simp [word?, outside]

theorem startsWord_of_word? {character : Char} {text : List Char} {found : List Char × List Char}
    (isWord : word? (character :: text) = some found) : startsWord character = true := by
  cases starts : startsWord character with
  | false =>
      rw [word?_of_not_startsWord starts] at isWord
      exact absurd isWord (by simp)
  | true => rfl

theorem startsWord_eq_false {character : Char} {text : List Char}
    (noWord : word? (character :: text) = none) : startsWord character = false := by
  refine Bool.eq_false_iff.mpr fun starts => ?_
  rw [word?_of_startsWord starts] at noWord
  exact absurd noWord (by simp)

/-! ## Writing and reading back numbers -/

theorem digitValue?_digitChar : ∀ digit < 10, digitValue? (Nat.digitChar digit) = some digit := by
  decide

theorem isDecimal_digitChar (number : Nat) : isDecimal (Nat.digitChar (number % 10)) = true := by
  rw [isDecimal, digitValue?_digitChar _ (Nat.mod_lt _ (by decide))]
  rfl

theorem decimalValue_concat (digits : List Char) (digit : Char) :
    decimalValue (digits ++ [digit]) =
      10 * decimalValue digits + (digitValue? digit).getD 0 := by
  simp [decimalValue, List.foldl_append]

theorem decimalValue_snoc (digits : List Char) (number : Nat) :
    decimalValue (digits ++ [Nat.digitChar (number % 10)]) =
      10 * decimalValue digits + number % 10 := by
  rw [decimalValue_concat, digitValue?_digitChar _ (Nat.mod_lt number (by decide)),
    Option.getD_some]

theorem decimalValue_lt (digits : List Char) : decimalValue digits < 10 ^ digits.length := by
  induction digits using List.reverseRecOn with
  | nil => exact Nat.one_pos
  | append_singleton digits digit induction =>
      have last : (digitValue? digit).getD 0 < 10 := by
        cases known : digitValue? digit with
        | none => exact Nat.succ_pos 9
        | some value => exact digitValue?_lt_ten known
      rw [decimalValue_concat, List.length_append, List.length_singleton, Nat.pow_succ]
      omega

theorem toDigits_snoc (number : Nat) (long : 10 ≤ number) :
    Nat.toDigits 10 number =
      Nat.toDigits 10 (number / 10) ++ [Nat.digitChar (number % 10)] := by
  have below : number % 10 < 10 := Nat.mod_lt _ (by decide)
  have joined := Nat.toDigits_append_toDigits (b := 10) (n := number / 10) (d := number % 10)
    (by decide) (by omega) below
  rw [Nat.toDigits_of_lt_base below, Nat.div_add_mod] at joined
  exact joined.symm

/-- The last number with so many digits is written with nines only. -/
theorem toDigits_nines {count : Nat} (positive : 0 < count) :
    Nat.toDigits 10 (10 ^ count - 1) = List.replicate count '9' := by
  induction count with
  | zero => exact absurd positive (Nat.lt_irrefl 0)
  | succ count induction =>
      rcases Nat.eq_zero_or_pos count with rfl | longer
      · rfl
      · have long : 10 ^ 1 ≤ 10 ^ count := Nat.pow_le_pow_right (by decide) longer
        have next : 10 ^ (count + 1) - 1 = 10 * (10 ^ count - 1) + 9 := by
          rw [Nat.pow_succ]
          omega
        have front : (10 * (10 ^ count - 1) + 9) / 10 = 10 ^ count - 1 := by omega
        have last : (10 * (10 ^ count - 1) + 9) % 10 = 9 := by omega
        rw [next, toDigits_snoc _ (by omega), front, last, induction longer, List.replicate_succ']
        rfl

theorem decimalValue_toDigits (number : Nat) : decimalValue (Nat.toDigits 10 number) = number := by
  induction number using Nat.strongRecOn with
  | ind number induction =>
      by_cases short : number < 10
      · rw [Nat.toDigits_of_lt_base short]
        simp [decimalValue, digitValue?_digitChar number short]
      · rw [toDigits_snoc number (by omega), decimalValue_snoc,
          induction (number / 10) (by omega)]
        exact Nat.div_add_mod number 10

theorem isDecimal_of_mem_toDigits {number : Nat} {digit : Char}
    (member : digit ∈ Nat.toDigits 10 number) : isDecimal digit = true := by
  induction number using Nat.strongRecOn with
  | ind number induction =>
      by_cases short : number < 10
      · rw [Nat.toDigits_of_lt_base short, List.mem_singleton] at member
        rw [member, ← Nat.mod_eq_of_lt short]
        exact isDecimal_digitChar number
      · rw [toDigits_snoc number (by omega), List.mem_append, List.mem_singleton] at member
        rcases member with inner | last
        · exact induction (number / 10) (by omega) inner
        · rw [last]
          exact isDecimal_digitChar number

end NoteCalc.Text
