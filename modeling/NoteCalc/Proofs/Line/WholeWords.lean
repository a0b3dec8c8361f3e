import NoteCalc.Proofs.Line.Recognisers
import NoteCalc.Proofs.Line.ScanPieces

/-!
# Reading whole words

No form of a token reads a part of a word: what it reads consists of whole words and of characters
that start no word.  This holds of the recognisers for characters, words, blanks and numerals, and
composition keeps it.  Which words are read depends on the form; they are units, keywords, the
letter that multiplies by a thousand, and the words that names start with.
-/

namespace NoteCalc

open NoteCalc.Text

variable {allowed : List Char → Prop} {text middle rest : List Char}

/-- A text is read down to a rest: characters that start no word one by one, and words as a whole,
if they are allowed. -/
inductive ReadsDown (allowed : List Char → Prop) : List Char → List Char → Prop where
  | refl (text : List Char) : ReadsDown allowed text text
  | cons {character : Char} {text rest : List Char} (outside : startsWord character = false)
      (later : ReadsDown allowed text rest) : ReadsDown allowed (character :: text) rest
  | word {text found left rest : List Char} (isWord : word? text = some (found, left))
      (isAllowed : allowed found) (later : ReadsDown allowed left rest) :
      ReadsDown allowed text rest

namespace ReadsDown

theorem trans (first : ReadsDown allowed text middle) (second : ReadsDown allowed middle rest) :
    ReadsDown allowed text rest := by
  induction first with
  | refl => exact second
  | cons outside _ induction => exact .cons outside (induction second)
  | word isWord isAllowed _ induction => exact .word isWord isAllowed (induction second)

theorem mono {others : List Char → Prop} (implies : ∀ word, allowed word → others word)
    (reads : ReadsDown allowed text rest) : ReadsDown others text rest := by
  induction reads with
  | refl text => exact .refl text
  | cons outside _ induction => exact .cons outside induction
  | word isWord isAllowed _ induction => exact .word isWord (implies _ isAllowed) induction

/-! ## Blanks and numerals -/

theorem dropWhile {class_ : Char → Bool}
    (silent : ∀ {first : Char}, startsWord first = true → class_ first = false)
    (text : List Char) : ReadsDown allowed text (text.dropWhile class_) := by
  induction text with
  | nil => exact .refl []
  | cons character text induction =>
      rw [List.dropWhile_cons]
      split
      · rename_i inClass
        refine .cons (Bool.eq_false_iff.mpr fun starts => ?_) induction
        rw [silent starts] at inClass
        exact absurd inClass (by simp)
      · exact .refl _

theorem takeGrouped (text : List Char) : ReadsDown allowed text (Lexeme.takeGrouped text).2 := by
  induction text with
  | nil => exact .refl []
  | cons character text induction =>
      rw [Lexeme.takeGrouped]
      split
      · rename_i decimal
        exact .cons (by simp [startsWord, decimal]) induction
      · split
        · rename_i isComma
          have comma : character = ',' := by
            simpa using (Bool.and_eq_true_iff.mp isComma).1
          subst comma
          exact .cons (by decide +kernel) induction
        · exact .refl _

theorem takePlaces (text : List Char) : ReadsDown allowed text (Lexeme.takePlaces text).2 := by
  unfold Lexeme.takePlaces
  split
  · split
    · exact .cons (by decide +kernel) (dropWhile isDecimal_eq_false _)
    · exact .refl _
  · exact .refl _

end ReadsDown

namespace Recogniser

variable {α β : Type}

/-- What a recogniser reads are whole words that are allowed, and characters that start no word. -/
structure ReadsWords (allowed : List Char → Prop) (recogniser : Recogniser α) : Prop where
  reads : ∀ {text : List Char} {found : α × List Char},
    recogniser text = some found → ReadsDown allowed text found.2

namespace ReadsWords

theorem congr {first second : Recogniser α} (same : ∀ text, first text = second text)
    (reads : ReadsWords allowed second) : ReadsWords allowed first := by
  have equal : first = second := funext same
  rwa [equal]

theorem given (value : Option α) : ReadsWords allowed (Recogniser.given value) where
  reads := by
    intro text found isFound
    obtain ⟨value, -, rfl⟩ := Option.map_eq_some_iff.mp isFound
    exact .refl text

theorem andThen {first : Recogniser α} {next : α → Recogniser β}
    (isFirst : ReadsWords allowed first) (isNext : ∀ value, ReadsWords allowed (next value)) :
    ReadsWords allowed (first.andThen next) where
  reads := by
    intro text found isFound
    obtain ⟨middle, isMiddle, isRest⟩ := Option.bind_eq_some_iff.mp isFound
    exact (isFirst.reads isMiddle).trans ((isNext middle.1).reads isRest)

theorem orElse {first second : Recogniser α} (isFirst : ReadsWords allowed first)
    (isSecond : ReadsWords allowed second) : ReadsWords allowed (first.orElse second) where
  reads := by
    intro text found isFound
    rcases Option.or_eq_some_iff.mp isFound with inFirst | ⟨-, inSecond⟩
    · exact isFirst.reads inFirst
    · exact isSecond.reads inSecond

theorem character {test : Char → Option α}
    (silent : ∀ {first : Char}, startsWord first = true → test first = none) :
    ReadsWords allowed (Recogniser.character test) where
  reads := by
    intro text found isFound
    cases text with
    | nil => exact absurd isFound (by simp [Recogniser.character])
    | cons first text =>
        obtain ⟨value, passes, rfl⟩ := Option.map_eq_some_iff.mp isFound
        exact .cons (Lexeme.not_startsWord_of_some silent passes) (.refl text)

theorem word {test : List Char → Option α}
    (isAllowed : ∀ {found : List Char} {value : α}, test found = some value → allowed found) :
    ReadsWords allowed (Recogniser.word test) where
  reads := by
    intro text found isFound
    obtain ⟨⟨word, rest⟩, isWord, isValue⟩ := Option.bind_eq_some_iff.mp isFound
    obtain ⟨value, passes, rfl⟩ := Option.map_eq_some_iff.mp isValue
    exact .word isWord (isAllowed passes) (.refl rest)

theorem blanks : ReadsWords allowed Recogniser.blanks where
  reads := by
    intro text found isFound
    rw [← Option.some.inj isFound]
    exact .dropWhile isInlineBlank_eq_false text

theorem numeral? : ReadsWords allowed Lexeme.numeral? where
  reads := by
    intro text found isFound
    simp only [Lexeme.numeral?] at isFound
    split at isFound
    · rw [← Option.some.inj isFound]
      exact (ReadsDown.takeGrouped text).trans (ReadsDown.takePlaces _)
    · exact absurd isFound (by simp)

end ReadsWords

end Recogniser

/-! ## Forms of a token -/

/-- The words that mean something to a form of a token are allowed. -/
structure Admits (allowed : List Char → Prop) : Prop where
  keyword : ∀ {word : List Char} {kind : Token.Kind},
    Lexeme.keywordKind? word = some kind → allowed word
  unit : ∀ {word : List Char} {measure : Measure},
    Measure.ofWord? word = some measure → allowed word
  thousands : allowed ['k'] ∧ allowed ['K']

theorem Admits.unitWord (admits : Admits allowed) {word : List Char} {measure : Measure}
    (isUnit : Lexeme.unitWord? word = some measure) : allowed word := by
  unfold Lexeme.unitWord? at isUnit
  split at isUnit
  · exact absurd isUnit (by simp)
  · exact admits.unit isUnit

namespace Lexeme

open Recogniser (ReadsWords)

theorem readsWords_slash? : ReadsWords allowed (Recogniser.character slash?) :=
  .character slash?_eq_none

variable (admits : Admits allowed)

include admits

theorem readsWords_keyword? : ReadsWords allowed keyword? :=
  .word admits.keyword

theorem readsWords_numeratorMeasure? : ReadsWords allowed numeratorMeasure? := by
  refine .orElse (.character ?_) (.word admits.unitWord)
  intro first starts
  rw [currencySign?_eq_none starts]
  rfl

theorem readsWords_denominatorMeasure? : ReadsWords allowed denominatorMeasure? := by
  refine .andThen .blanks fun _ => .andThen readsWords_slash? fun _ => ?_
  exact .andThen .blanks fun _ => .word admits.unit

theorem readsWords_rate? : ReadsWords allowed rate? := by
  apply ReadsWords.congr rate?_eq
  refine .andThen (readsWords_numeratorMeasure? admits) fun numerator => ?_
  exact .andThen (readsWords_denominatorMeasure? admits) fun denominator => .given _

theorem readsWords_unit? : ReadsWords allowed unit? := by
  apply ReadsWords.congr unit?_eq
  refine .orElse (.word admits.unitWord) (.character ?_)
  intro first starts
  rw [unitSign?_eq_none starts]
  rfl

theorem readsWords_attachedUnit? : ReadsWords allowed attachedUnit? := by
  apply ReadsWords.congr attachedUnit?_eq
  exact .andThen .blanks fun _ => .orElse (readsWords_rate? admits) (readsWords_unit? admits)

theorem readsWords_thousands (amount : Float) : ReadsWords allowed (thousands amount) := by
  refine .orElse (.word ?_) (.given _)
  intro found value isThousands
  split at isThousands
  · rename_i isLetter
    rcases isLetter with rfl | rfl
    · exact admits.thousands.1
    · exact admits.thousands.2
  · exact absurd isThousands (by simp)

theorem readsWords_number? : ReadsWords allowed number? := by
  apply ReadsWords.congr number?_eq
  refine .andThen .numeral? fun amount => ?_
  refine .andThen (readsWords_thousands admits amount) fun amount => ?_
  exact .orElse (.andThen (readsWords_attachedUnit? admits) fun measure => .given _) (.given _)

theorem readsWords_price (sign : Char) (currency : Currency) :
    ReadsWords allowed (price sign currency) := by
  refine .orElse (.andThen readsWords_slash? fun _ => .word ?_) (.given _)
  intro found measure isRate
  unfold Measure.ofWords? at isRate
  split at isRate
  · rename_i isUnit
    exact admits.unit isUnit
  · exact absurd isRate (by simp)

theorem readsWords_money? : ReadsWords allowed money? := by
  apply ReadsWords.congr money?_eq
  refine .andThen (.character ?_) fun money => ?_
  · intro first starts
    unfold signedCurrency?
    rw [currencySign?_eq_none starts]
    rfl
  refine .andThen .blanks fun _ => .andThen .numeral? fun amount => ?_
  refine .andThen (readsWords_thousands admits amount) fun amount => ?_
  exact .andThen (readsWords_price admits money.1 money.2) fun measure => .given _

/-- A name is the whole word that it starts with, or a rate. -/
theorem readsDown_name? {word left : List Char} {named : Token.Kind × List Char}
    (isWord : word? text = some (word, left)) (isAllowed : allowed word)
    (isName : name? text = some named) : ReadsDown allowed text named.2 := by
  have reads : ReadsDown allowed text left := .word isWord isAllowed (.refl left)
  unfold name? at isName
  rw [isWord, Option.map_some] at isName
  simp only at isName
  split at isName
  · rw [← Option.some.inj isName]
    exact reads
  · split at isName
    · rename_i isRate
      rw [← Option.some.inj isName]
      exact (readsWords_rate? admits).reads isRate
    · split at isName <;>
        (rw [← Option.some.inj isName]
         exact reads)

theorem readsWords_loneUnit? : ReadsWords allowed loneUnit? where
  reads := by
    intro text found isFound
    cases text with
    | nil => exact absurd isFound (by simp [loneUnit?])
    | cons sign text =>
        obtain ⟨unit, isUnit, same⟩ := Option.map_eq_some_iff.mp isFound
        split at same
        · rename_i isRate
          rw [← same]
          exact (readsWords_rate? admits).reads isRate
        · rw [← same]
          exact .cons (not_startsWord_of_some unitSign?_eq_none isUnit) (.refl text)

end Lexeme

/-! ## Pieces of a line -/

/-- A piece that is no reference is read down, if the word that it may start with is allowed. -/
theorem Scan.Plain.readsDown (admits : Admits allowed) {character : Char} {left : List Char}
    {kind : Option Token.Kind} (piece : Scan.Plain character text kind left)
    (nameAllowed : ∀ word after, word? (character :: text) = some (word, after) → allowed word) :
    ReadsDown allowed (character :: text) left := by
  cases piece with
  | keyword isKeyword => exact (Lexeme.readsWords_keyword? admits).reads isKeyword
  | money isMoney => exact (Lexeme.readsWords_money? admits).reads isMoney
  | number isNumber => exact (Lexeme.readsWords_number? admits).reads isNumber
  | sign isSign =>
      exact .cons (Lexeme.not_startsWord_of_some Lexeme.sign?_eq_none isSign) (.refl text)
  | name isName =>
      cases starts : startsWord character with
      | false =>
          rw [Lexeme.name?_of_not_startsWord starts] at isName
          exact absurd isName (by simp)
      | true =>
          have isWord := word?_of_startsWord starts text
          exact Lexeme.readsDown_name? admits isWord (nameAllowed _ _ isWord) isName
  | unit isUnit => exact (Lexeme.readsWords_loneUnit? admits).reads isUnit
  | skipped noName =>
      refine .cons (Bool.eq_false_iff.mpr fun starts => ?_) (.refl text)
      obtain ⟨named, isNamed⟩ := Lexeme.exists_name? (word?_of_startsWord starts text)
      rw [noName] at isNamed
      exact absurd isNamed (by simp)

end NoteCalc
