import Mathlib.Data.List.DropRight
import NoteCalc.Proofs.Line.ReferencePlaces

/-!
# Highlighted spans

The spans of a line are the line, none of them is empty, and no word is cut.  A word that is
coloured is a run of word characters up to its end, and from the first character of the run that is
no decimal digit: the digits before it belong to a number.  This is kept from span to span, since a
span ends after a word or leaves nothing but decimal digits of a run behind.

Looking for numbers by digit signs finds the same spans, because a digit sign that is no decimal
digit starts a word.
-/

namespace NoteCalc

open NoteCalc.Text
open Lexeme (startsWithWordCharacter)

/-- A word is a maximal run of word characters, but for the decimal digits that the run starts with
and that stand before the word. -/
structure IsWholeWord (before word after : List Char) : Prop where
  isWord : IsWord word
  ends : startsWithWordCharacter after = false
  begins : ∀ character ∈ before.rtakeWhile isWordCharacter, isDecimal character = true

/-- The characters of some spans in order. -/
def joinedText (spans : List HighlightedSpan) : List Char :=
  spans.flatMap HighlightedSpan.text

theorem joinedText_nil : joinedText [] = [] :=
  List.flatMap_nil

theorem joinedText_cons (span : HighlightedSpan) (spans : List HighlightedSpan) :
    joinedText (span :: spans) = span.text ++ joinedText spans :=
  List.flatMap_cons

/-- What holds of a span between what is before it and what is after it. -/
structure HighlightedSpan.FitsBetween (span : HighlightedSpan) (before after : List Char) :
    Prop where
  nonempty : span.text ≠ []
  digit : span.highlight = .number → ∃ character ∈ span.text, isDecimal character = true
  wholeWord : (∃ character ∈ span.text, startsWord character = true) →
    IsWholeWord before span.text after

namespace Highlight

variable {isVariable : String → Bool} {character : Char} {before text : List Char}

/-! ## Digit signs -/

theorem isDecimal_of_isDigitSign (outside : startsWord character = false)
    (sign : isDigitSign character = true) : isDecimal character = true := by
  have inWord := isWordCharacter_of_isDigitSign sign
  simpa [startsWord, inWord] using outside

/-- In front of a number and inside it the digit signs are decimal digits. -/
theorem isDigitSign_eq_isDecimal (outside : startsWord character = false) :
    isDigitSign character = isDecimal character := by
  apply Bool.eq_iff_iff.mpr
  constructor
  · exact isDecimal_of_isDigitSign outside
  · exact isDigitSign_of_isDecimal

theorem startsWord_of_belongsToNumber (belongs : belongsToNumber character = true) :
    startsWord character = false := by
  refine Bool.eq_false_iff.mpr fun starts => ?_
  rw [belongsToNumber_eq_false starts] at belongs
  exact absurd belongs Bool.false_ne_true

theorem belongsToNumber_of_mem_run
    (member : character ∈ text.takeWhile belongsToNumber) : belongsToNumber character = true :=
  List.all_eq_true.mp List.all_takeWhile character member

theorem any_isDigitSign_run (text : List Char) :
    (text.takeWhile belongsToNumber).any isDigitSign =
      (text.takeWhile belongsToNumber).any isDecimal := by
  apply Bool.eq_iff_iff.mpr
  rw [List.any_eq_true, List.any_eq_true]
  apply exists_congr
  intro character
  apply and_congr_right
  intro member
  rw [isDigitSign_eq_isDecimal
    (startsWord_of_belongsToNumber (belongsToNumber_of_mem_run member))]

theorem belongsToNumber_of_starts
    (starts : (isDecimal character || character == '.') = true) :
    belongsToNumber character = true := by
  rw [belongsToNumber, starts, Bool.true_or]

/-- A run without a digit starts with a point, which has no colour of its own. -/
theorem ofCharacter_of_noDigit (starts : (isDecimal character || character == '.') = true)
    (noDigit : ((character :: text).takeWhile belongsToNumber).any isDecimal = false) :
    ofCharacter character = .plain := by
  rw [List.takeWhile_cons_of_pos (belongsToNumber_of_starts starts), List.any_cons] at noDigit
  rw [(Bool.or_eq_false_iff.mp noDigit).1, Bool.false_or, beq_iff_eq] at starts
  rw [starts]
  decide

/-- Wherever a number is looked for, there is one character of it at least. -/
theorem next?_eq (isVariable : String → Bool) (character : Char) (text : List Char) :
    next? isVariable character text = some (next isVariable character text) := by
  unfold next? next
  cases isWord : word? (character :: text) with
  | some found => rfl
  | none =>
      have outside := startsWord_eq_false isWord
      simp only [isDigitSign_eq_isDecimal outside, any_isDigitSign_run, number?]
      cases starts : (isDecimal character || character == '.') with
      | false => rfl
      | true =>
          have some : ((character :: text).takeWhile belongsToNumber).isEmpty = false := by
            rw [List.takeWhile_cons_of_pos (belongsToNumber_of_starts starts)]
            rfl
          rw [some]
          cases hasDigit : ((character :: text).takeWhile belongsToNumber).any isDecimal with
          | false =>
              rw [← ofCharacter_of_noDigit starts hasDigit]
              rfl
          | true => rfl

theorem spans?_eq (isVariable : String → Bool) (text : List Char) :
    spans? isVariable text = some (spans isVariable text) := by
  fun_induction spans isVariable text with
  | case1 => rw [spans?]
  | case2 character text found =>
      rename_i induction
      rw [spans?, next?_eq]
      simp only [induction, Option.map_some, found]

/-! ## One span -/

theorem ofWord_ne_number (isVariable : String → Bool) (word : List Char) :
    ofWord isVariable word ≠ .number := by
  unfold ofWord
  simp only
  split_ifs <;> exact Highlight.noConfusion

theorem ofCharacter_ne_number (character : Char) : ofCharacter character ≠ .number := by
  unfold ofCharacter
  split_ifs <;> exact Highlight.noConfusion

theorem run_of_number? {digits rest : List Char}
    (isNumber : number? text = some (digits, rest)) :
    digits = text.takeWhile belongsToNumber ∧ digits.any isDecimal = true := by
  cases text with
  | nil => exact absurd isNumber (by simp [number?])
  | cons character text =>
      simp only [number?] at isNumber
      split at isNumber
      · rename_i starts
        obtain ⟨rfl, -⟩ := Prod.mk.inj (Option.some.inj isNumber)
        exact ⟨rfl, (Bool.and_eq_true_iff.mp starts).2⟩
      · exact absurd isNumber (by simp)

/-- The first span is a word, or none of its characters starts one. -/
theorem next_word_or_plain (isVariable : String → Bool) (character : Char) (text : List Char) :
    word? (character :: text) =
        some ((next isVariable character text).1.text, (next isVariable character text).2) ∨
      ∀ other ∈ (next isVariable character text).1.text, startsWord other = false := by
  unfold next
  cases isWord : word? (character :: text) with
  | some found => exact .inl rfl
  | none =>
      right
      cases isNumber : number? (character :: text) with
      | some found =>
          intro other member
          simp only [(run_of_number? isNumber).1] at member
          exact startsWord_of_belongsToNumber (belongsToNumber_of_mem_run member)
      | none =>
          intro other member
          rw [List.mem_singleton.mp member]
          exact startsWord_eq_false isWord

theorem exists_digit_of_next
    (isNumber : (next isVariable character text).1.highlight = .number) :
    ∃ digit ∈ (next isVariable character text).1.text, isDecimal digit = true := by
  unfold next at isNumber ⊢
  cases isWord : word? (character :: text) with
  | some found =>
      rw [isWord] at isNumber
      exact absurd isNumber (ofWord_ne_number isVariable _)
  | none =>
      rw [isWord] at isNumber
      cases isRun : number? (character :: text) with
      | some found => exact List.any_eq_true.mp (run_of_number? isRun).2
      | none =>
          rw [isRun] at isNumber
          exact absurd isNumber (ofCharacter_ne_number character)

/-! ## Between two spans -/

/-- A text ends in a run of word characters that are decimal digits, or in none. -/
def EndsInDecimals (before : List Char) : Prop :=
  ∀ character ∈ before.rtakeWhile isWordCharacter, isDecimal character = true

/-- No word is cut between what is before and what is left. -/
def AtWordEdge (before left : List Char) : Prop :=
  EndsInDecimals before ∨ startsWithWordCharacter left = false

theorem AtWordEdge.endsInDecimals (edge : AtWordEdge before (character :: text))
    (inWord : isWordCharacter character = true) : EndsInDecimals before := by
  rcases edge with decimals | outside
  · exact decimals
  · rw [startsWithWordCharacter, inWord] at outside
    exact absurd outside (by simp)

/-- A character that starts no word keeps the edge. -/
theorem AtWordEdge.snoc (edge : AtWordEdge before (character :: text))
    (plain : startsWord character = false) : EndsInDecimals (before ++ [character]) := by
  cases inWord : isWordCharacter character with
  | false =>
      rw [EndsInDecimals, List.rtakeWhile_concat_neg _ _ _ (by simp [inWord])]
      simp
  | true =>
      have decimals := edge.endsInDecimals inWord
      have decimal : isDecimal character = true := by simpa [startsWord, inWord] using plain
      rw [EndsInDecimals, List.rtakeWhile_concat_pos _ _ _ inWord]
      intro other member
      rcases List.mem_append.mp member with isBefore | isLast
      · exact decimals other isBefore
      · rw [List.mem_singleton.mp isLast]
        exact decimal

theorem AtWordEdge.append {run : List Char} (edge : AtWordEdge before (run ++ text))
    (nonempty : run ≠ []) (plain : ∀ other ∈ run, startsWord other = false) :
    EndsInDecimals (before ++ run) := by
  induction run generalizing before with
  | nil => exact absurd rfl nonempty
  | cons first run induction =>
      obtain ⟨plainFirst, plainRest⟩ := List.forall_mem_cons.mp plain
      have decimals : EndsInDecimals (before ++ [first]) := AtWordEdge.snoc edge plainFirst
      cases run with
      | nil => exact decimals
      | cons second run =>
          have later := induction (.inl decimals) (List.cons_ne_nil second run) plainRest
          rwa [List.append_assoc] at later

/-- After a span that starts at a word edge there is a word edge again. -/
theorem AtWordEdge.next (edge : AtWordEdge before (character :: text)) :
    AtWordEdge (before ++ (next isVariable character text).1.text)
      (next isVariable character text).2 := by
  obtain ⟨whole, nonempty⟩ := next_append isVariable character text
  rcases next_word_or_plain isVariable character text with isWord | plain
  · exact .inr (word?_eq_some_iff.mp isWord).2.2
  · rw [← whole] at edge
    exact .inl (edge.append nonempty plain)

/-- A span that starts at a word edge fits between its neighbours. -/
theorem fitsBetween_next (edge : AtWordEdge before (character :: text)) :
    (next isVariable character text).1.FitsBetween before (next isVariable character text).2 := by
  constructor
  · exact (next_append isVariable character text).2
  · exact exists_digit_of_next
  · rintro ⟨other, member, starts⟩
    rcases next_word_or_plain isVariable character text with isWord | plain
    · obtain ⟨-, shape, ends⟩ := word?_eq_some_iff.mp isWord
      have inWord := (Bool.and_eq_true_iff.mp (startsWord_of_word? isWord)).1
      exact ⟨shape, ends, edge.endsInDecimals inWord⟩
    · rw [plain other member] at starts
      exact absurd starts Bool.false_ne_true

/-! ## All spans -/

theorem joinedText_spans (isVariable : String → Bool) (text : List Char) :
    joinedText (spans isVariable text) = text := by
  fun_induction spans isVariable text with
  | case1 => rfl
  | case2 character text found =>
      rename_i induction
      rw [joinedText_cons, induction]
      exact (next_append isVariable character text).1

theorem fitsBetween_of_spans {earlier later : List HighlightedSpan} {span : HighlightedSpan}
    (edge : AtWordEdge before text)
    (isSpan : spans isVariable text = earlier ++ span :: later) :
    span.FitsBetween (before ++ joinedText earlier) (joinedText later) := by
  fun_induction spans isVariable text generalizing before earlier with
  | case1 => exact absurd isSpan (by simp)
  | case2 character text found =>
      rename_i induction
      cases earlier with
      | nil =>
          obtain ⟨rfl, rfl⟩ := List.cons.inj isSpan
          rw [joinedText_spans, joinedText_nil, List.append_nil]
          exact fitsBetween_next edge
      | cons first earlier =>
          obtain ⟨rfl, rest⟩ := List.cons.inj isSpan
          have fits := induction edge.next rest
          rwa [List.append_assoc, ← joinedText_cons] at fits

end Highlight

/-- The search for spans does not stop, the spans together are the line, and every span fits where
it stands: it is not empty, a number has a digit in it, and what has a letter in it is a whole
word. -/
theorem highlight_fits (isVariable : String → Bool) (line : String) :
    highlight? isVariable line = some (highlight isVariable line) ∧
      joinedText (highlight isVariable line) = line.toList ∧
      ∀ earlier span later, highlight isVariable line = earlier ++ span :: later →
        span.FitsBetween (joinedText earlier) (joinedText later) := by
  refine ⟨Highlight.spans?_eq isVariable line.toList,
    Highlight.joinedText_spans isVariable line.toList, ?_⟩
  intro earlier span later isSpan
  have start : Highlight.AtWordEdge [] line.toList := by
    left
    simp [Highlight.EndsInDecimals]
  exact Highlight.fitsBetween_of_spans start isSpan

end NoteCalc
