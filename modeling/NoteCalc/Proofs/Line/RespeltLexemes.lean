import NoteCalc.Proofs.Line.Respelling
import NoteCalc.Proofs.Line.WholeWords

/-!
# Lexemes in a respelt text

All forms of a token but the reference respect every respelling.  Blanks, numerals and signs start
no word; keywords, units and functions are no inert words; and the letter that multiplies by a
thousand is none either.
-/

namespace NoteCalc

open NoteCalc.Text Lexeme

namespace Respelling

variable {respelling : Respelling}

/-- What is read word by word is kept if no word in it is respelt. -/
theorem keeps_of_readsDown {before rest : List Char}
    (reads : ReadsDown (fun found => respelling.word found = found) before rest) :
    respelling.Keeps before rest := by
  induction reads with
  | refl text => exact .refl respelling text
  | cons outside _ induction => exact .cons outside induction
  | word isWord same _ induction => exact (Keeps.word isWord same).trans induction

/-! ## Runs of characters -/

theorem dropWhile_text {class_ : Char → Bool}
    (silent : ∀ {first : Char}, startsWord first = true → class_ first = false)
    (before : List Char) :
    (respelling.text before).dropWhile class_ = respelling.text (before.dropWhile class_) := by
  induction before with
  | nil => simp [text_nil]
  | cons character rest induction =>
      cases inClass : class_ character with
      | true =>
          have outside : startsWord character = false := Bool.eq_false_iff.mpr fun starts => by
            rw [silent starts] at inClass
            exact absurd inClass (by simp)
          rw [respelling.text_cons outside]
          simp [inClass, induction]
      | false =>
          have stays : (character :: rest).dropWhile class_ = character :: rest := by
            simp [inClass]
          rw [stays]
          have heads := respelling.head (character :: rest)
          generalize respelling.text (character :: rest) = after at heads ⊢
          cases heads with
          | same outside => simp [inClass]
          | word starts startsToo => simp [silent startsToo]

theorem takeWhile_text {class_ : Char → Bool}
    (silent : ∀ {first : Char}, startsWord first = true → class_ first = false)
    (before : List Char) :
    (respelling.text before).takeWhile class_ = before.takeWhile class_ := by
  induction before with
  | nil => simp [text_nil]
  | cons character rest induction =>
      have heads := respelling.head (character :: rest)
      generalize respelling.text (character :: rest) = after at heads ⊢
      cases heads with
      | same outside => simp [List.takeWhile_cons, induction]
      | word starts startsToo => simp [silent starts, silent startsToo]

theorem respects_blanks : respelling.Respects Recogniser.blanks where
  commutes := by
    intro before
    exact congrArg (fun rest => some ((), rest)) (dropWhile_text isInlineBlank_eq_false before)
  keeps := by
    intro before found isFound
    exact keeps_of_readsDown (Recogniser.ReadsWords.blanks.reads isFound)

/-! ## Numerals -/

theorem startsWithDecimal_text (before : List Char) :
    Reading.startsWithDecimal (respelling.text before) = Reading.startsWithDecimal before := by
  have heads := respelling.head before
  generalize respelling.text before = after at heads ⊢
  cases heads with
  | nil => rfl
  | same outside => rfl
  | word starts startsToo =>
      simp [Reading.startsWithDecimal, isDecimal_eq_false starts, isDecimal_eq_false startsToo]

theorem takeGrouped_of_startsWord {first : Char} (starts : startsWord first = true)
    (rest : List Char) : takeGrouped (first :: rest) = ([], first :: rest) := by
  have noComma : first ≠ ',' := by
    rintro rfl
    exact absurd (by decide) (not_mem_signs starts)
  simp [takeGrouped, isDecimal_eq_false starts, noComma]

theorem takeGrouped_text (before : List Char) :
    takeGrouped (respelling.text before) =
      ((takeGrouped before).1, respelling.text (takeGrouped before).2) := by
  induction before with
  | nil => simp [text_nil, takeGrouped]
  | cons character rest induction =>
      cases starts : startsWord character with
      | false =>
          rw [respelling.text_cons starts, takeGrouped, takeGrouped, induction,
            startsWithDecimal_text]
          split
          · rfl
          · split
            · rfl
            · rw [respelling.text_cons starts]
      | true =>
          rw [takeGrouped_of_startsWord starts]
          have heads := respelling.head (character :: rest)
          generalize respelling.text (character :: rest) = after at heads ⊢
          cases heads with
          | same outside => exact absurd starts (by simp [outside])
          | word starts startsToo => exact takeGrouped_of_startsWord startsToo _

theorem takePlaces_of_not_point {first : Char} (noPoint : first ≠ '.') (rest : List Char) :
    takePlaces (first :: rest) = ([], first :: rest) := by
  unfold takePlaces
  split
  · rename_i same
    exact absurd (List.cons.inj same).1 noPoint
  · rfl

theorem startsWord_point : startsWord '.' = false :=
  startsWord_sign (by decide)

theorem takePlaces_text (before : List Char) :
    takePlaces (respelling.text before) =
      ((takePlaces before).1, respelling.text (takePlaces before).2) := by
  cases before with
  | nil => simp [text_nil, takePlaces]
  | cons character rest =>
      by_cases isPoint : character = '.'
      · subst isPoint
        rw [respelling.text_cons startsWord_point]
        simp only [takePlaces, startsWithDecimal_text, takeWhile_text isDecimal_eq_false,
          dropWhile_text isDecimal_eq_false]
        split
        · rfl
        · rw [respelling.text_cons startsWord_point]
      · rw [takePlaces_of_not_point isPoint]
        have heads := respelling.head (character :: rest)
        generalize respelling.text (character :: rest) = after at heads ⊢
        cases heads with
        | same outside => exact takePlaces_of_not_point isPoint _
        | @word first second starts startsToo =>
            refine takePlaces_of_not_point ?_ _
            rintro rfl
            exact absurd startsToo (by simp [startsWord_point])

theorem respects_numeral? : respelling.Respects numeral? where
  commutes := by
    intro before
    simp only [numeral?, startsWithDecimal_text, takeGrouped_text, takePlaces_text]
    split <;> rfl
  keeps := by
    intro before found isFound
    exact keeps_of_readsDown (Recogniser.ReadsWords.numeral?.reads isFound)

/-! ## Units and amounts -/

theorem unitWord?_of_inert (found : List Char) (inert : Inert found) : unitWord? found = none := by
  unfold unitWord?
  rw [inert.noMeasure, ite_self]

theorem respects_keyword? : respelling.Respects keyword? :=
  respects_word fun _ inert => inert.noKeyword

theorem respects_numeratorMeasure? : respelling.Respects numeratorMeasure? := by
  refine .orElse (respects_character ?_) (respects_word unitWord?_of_inert)
  intro first starts
  rw [currencySign?_eq_none starts]
  rfl

theorem respects_denominatorMeasure? : respelling.Respects denominatorMeasure? := by
  refine .andThen respects_blanks fun _ => .andThen (respects_character slash?_eq_none) fun _ => ?_
  exact .andThen respects_blanks fun _ => respects_word fun _ inert => inert.noMeasure

theorem respects_rate? : respelling.Respects rate? := by
  apply respects_congr rate?_eq
  refine .andThen respects_numeratorMeasure? fun numerator => ?_
  exact .andThen respects_denominatorMeasure? fun denominator => respects_given _

theorem respects_unit? : respelling.Respects unit? := by
  apply respects_congr unit?_eq
  refine .orElse (respects_word unitWord?_of_inert) (respects_character ?_)
  intro first starts
  rw [unitSign?_eq_none starts]
  rfl

theorem respects_attachedUnit? : respelling.Respects attachedUnit? := by
  apply respects_congr attachedUnit?_eq
  exact .andThen respects_blanks fun _ => .orElse respects_rate? respects_unit?

theorem respects_thousands (amount : Float) : respelling.Respects (thousands amount) := by
  refine .orElse (respects_word ?_) (respects_given _)
  intro found inert
  exact if_neg (not_or.mpr inert.noThousands)

theorem respects_number? : respelling.Respects number? := by
  apply respects_congr number?_eq
  refine .andThen respects_numeral? fun amount => ?_
  refine .andThen (respects_thousands amount) fun amount => ?_
  exact .orElse (.andThen respects_attachedUnit? fun measure => respects_given _) (respects_given _)

theorem respects_price (sign : Char) (currency : Currency) :
    respelling.Respects (price sign currency) := by
  refine .orElse (.andThen (respects_character slash?_eq_none) fun _ => respects_word ?_)
    (respects_given _)
  intro found inert
  simp [Measure.ofWords?, inert.noMeasure]

theorem respects_money? : respelling.Respects money? := by
  apply respects_congr money?_eq
  refine .andThen (respects_character ?_) fun money => ?_
  · intro first starts
    unfold signedCurrency?
    rw [currencySign?_eq_none starts]
    rfl
  refine .andThen respects_blanks fun _ => .andThen respects_numeral? fun amount => ?_
  refine .andThen (respects_thousands amount) fun amount => ?_
  exact .andThen (respects_price money.1 money.2) fun measure => respects_given _

/-! ## Names and lone units -/

theorem function?_of_inert {found : List Char} (inert : Inert found) (rest : List Char) :
    function? found rest = none := by
  unfold function?
  split
  · refine List.find?_eq_none.mpr fun function member same => ?_
    exact inert.noFunction function member (by simpa using same)
  · rfl

theorem function?_text (found rest : List Char) :
    function? found (respelling.text rest) = function? found rest := by
  unfold function?
  rw [dropWhile_text isBlank_eq_false]
  have heads := respelling.head (rest.dropWhile isBlank)
  generalize respelling.text (rest.dropWhile isBlank) = after at heads ⊢
  generalize rest.dropWhile isBlank = before at heads ⊢
  have noOpening {first : Char} (starts : startsWord first = true) : first ≠ '(' := by
    rintro rfl
    exact absurd (by decide) (not_mem_signs starts)
  cases heads with
  | nil => rfl
  | same => rfl
  | word starts startsToo => simp [noOpening starts, noOpening startsToo]

/-- What a name stands for does not change with the texts after it, unless it is respelt itself. -/
theorem name?_text {before found rest : List Char} (isWord : word? before = some (found, rest))
    (same : respelling.word found = found) :
    name? (respelling.text before) =
      (name? before).map fun found => (found.1, respelling.text found.2) := by
  have isWordAfter := respelling.word?_text before
  rw [isWord, Option.map_some, same] at isWordAfter
  have isRate := (@respects_rate? respelling).commutes before
  unfold name?
  rw [isWordAfter, isWord]
  simp only [Option.map_some, function?_text, isRate]
  cases function? found rest with
  | some function => rfl
  | none =>
      cases rate? before with
      | some measure => rfl
      | none => cases Measure.ofWord? found <;> rfl

theorem admits_unchanged : Admits (fun found => respelling.word found = found) where
  keyword := respelling.word_of_test fun _ inert => inert.noKeyword
  unit := respelling.word_of_test fun _ inert => inert.noMeasure
  thousands := by
    have letters (found : List Char) (isLetter : found = ['k'] ∨ found = ['K']) :
        respelling.word found = found := by
      rcases respelling.word_eq_or_inert found with same | ⟨inert, -⟩
      · exact same
      · exact absurd isLetter (not_or.mpr inert.noThousands)
    exact ⟨letters _ (.inl rfl), letters _ (.inr rfl)⟩

theorem respects_loneUnit? : respelling.Respects loneUnit? where
  commutes := by
    intro before
    cases before with
    | nil =>
        rw [text_nil]
        rfl
    | cons sign rest =>
        have isRate := (@respects_rate? respelling).commutes (sign :: rest)
        have heads := respelling.head (sign :: rest)
        generalize respelling.text (sign :: rest) = after at heads isRate ⊢
        cases heads with
        | same outside =>
            simp only [loneUnit?, isRate]
            cases unitSign? sign with
            | none => rfl
            | some unit => cases rate? (sign :: rest) <;> rfl
        | word starts startsToo =>
            simp [loneUnit?, unitSign?_eq_none starts, unitSign?_eq_none startsToo]
  keeps := by
    intro before found isFound
    exact keeps_of_readsDown ((readsWords_loneUnit? admits_unchanged).reads isFound)

end Respelling

end NoteCalc
