import NoteCalc.Proofs.Line.WordShape

/-!
# How recognisers are composed

The forms of a token are read by a few recognisers for characters, words, blanks and numerals, one
after the other or one instead of the other.  The equations below say how each form is composed, so
that a property that composition keeps has to be shown for the parts only.
-/

namespace NoteCalc

open NoteCalc.Text

/-- What reads something at the head of a text and leaves a rest, or fails. -/
abbrev Recogniser (α : Type) := List Char → Option (α × List Char)

namespace Recogniser

variable {α β : Type}

/-- Read nothing, and answer a value if there is one. -/
def given (value : Option α) : Recogniser α :=
  fun text => value.map (·, text)

/-- Read one thing and then another one. -/
def andThen (first : Recogniser α) (next : α → Recogniser β) : Recogniser β :=
  fun text => (first text).bind fun found => next found.1 found.2

/-- Read one thing, or else another one. -/
def orElse (first second : Recogniser α) : Recogniser α :=
  fun text => (first text).or (second text)

/-- Read a character that passes a test. -/
def character (test : Char → Option α) : Recogniser α
  | [] => none
  | first :: rest => (test first).map (·, rest)

/-- Read a word that passes a test. -/
def word (test : List Char → Option α) : Recogniser α :=
  fun text => (word? text).bind fun found => (test found.1).map (·, found.2)

/-- Read the blanks that may stand inside an amount, if there are any. -/
def blanks : Recogniser Unit :=
  fun text => some ((), Lexeme.skipInlineBlanks text)

end Recogniser

namespace Lexeme

open Recogniser

/-! ## Characters that start no word -/

theorem currencySign?_eq_none {sign : Char} (starts : startsWord sign = true) :
    currencySign? sign = none := by
  unfold currencySign?
  split <;> first | rfl | exact absurd (by decide) (not_mem_signs starts)

theorem unitSign?_eq_none {sign : Char} (starts : startsWord sign = true) :
    unitSign? sign = none := by
  have noPercent : sign ≠ '%' := by
    rintro rfl
    exact absurd (by decide) (not_mem_signs starts)
  unfold unitSign?
  rw [if_neg noPercent, currencySign?_eq_none starts]
  rfl

theorem sign?_eq_none {sign : Char} (starts : startsWord sign = true) : sign? sign = none := by
  unfold sign?
  split <;> first | rfl | exact absurd (by decide) (not_mem_signs starts)

/-- What passes a test that no first letter of a word passes starts no word. -/
theorem not_startsWord_of_some {α : Type} {test : Char → Option α} {first : Char} {value : α}
    (silent : ∀ {first : Char}, startsWord first = true → test first = none)
    (passes : test first = some value) : startsWord first = false := by
  cases starts : startsWord first with
  | false => rfl
  | true =>
      rw [silent starts] at passes
      exact absurd passes (by simp)

/-! ## Units -/

/-- The measure of a unit word that is no keyword. -/
def unitWord? (word : List Char) : Option Measure :=
  if isKeyword word then none else Measure.ofWord? word

/-- A slash. -/
def slash? (character : Char) : Option Unit :=
  if character = '/' then some () else none

theorem slash?_eq_none {first : Char} (starts : startsWord first = true) : slash? first = none := by
  apply if_neg
  rintro rfl
  exact absurd (by decide) (not_mem_signs starts)

/-- The numerator of a rate, with what it measures. -/
def numeratorMeasure? : Recogniser Measure :=
  orElse (character fun sign => (currencySign? sign).bind fun _ => Measure.ofWord? [sign])
    (word unitWord?)

/-- The denominator of a rate, with what it measures. -/
def denominatorMeasure? : Recogniser Measure :=
  andThen blanks fun _ => andThen (character slash?) fun _ => andThen blanks fun _ =>
    word Measure.ofWord?

theorem numeratorMeasure?_eq (text : List Char) :
    numeratorMeasure? text =
      (numerator? text).bind fun found => (Measure.ofWord? found.1).map (·, found.2) := by
  cases text with
  | nil => rfl
  | cons sign rest =>
      unfold numeratorMeasure? orElse character word
      by_cases isSign : (currencySign? sign).isSome = true
      · obtain ⟨currency, isCurrency⟩ := Option.isSome_iff_exists.mp isSign
        have noWord : word? (sign :: rest) = none :=
          word?_of_not_startsWord (not_startsWord_of_some currencySign?_eq_none isCurrency) rest
        simp [numerator?, isCurrency, noWord]
      · have noCurrency : currencySign? sign = none := by simpa using isSign
        cases isWord : word? (sign :: rest) with
        | none => simp [numerator?, noCurrency, isWord]
        | some found =>
            cases keyword : isKeyword found.1 <;>
              simp [numerator?, noCurrency, isWord, unitWord?, keyword, Option.filter]

theorem denominatorMeasure?_eq (text : List Char) :
    denominatorMeasure? text =
      (denominator? text).bind fun found => (Measure.ofWord? found.1).map (·, found.2) := by
  unfold denominatorMeasure? denominator? andThen blanks
  simp only [Option.bind_some]
  cases skipInlineBlanks text with
  | nil => rfl
  | cons sign rest =>
      by_cases isSlash : sign = '/'
      · subst isSlash
        rfl
      · simp [character, slash?, isSlash]

theorem rate?_eq (text : List Char) :
    rate? text =
      andThen numeratorMeasure? (fun numerator => andThen denominatorMeasure? fun denominator =>
        given ((Measure.per? numerator denominator).map Measure.ratio)) text := by
  unfold rate? andThen given
  rw [numeratorMeasure?_eq]
  cases numerator? text with
  | none => rfl
  | some numerator =>
      simp only [Option.bind_some]
      cases top : Measure.ofWord? numerator.1 with
      | none => simp [Measure.ofWords?, top]
      | some topMeasure =>
          simp only [Option.map_some, Option.bind_some]
          rw [denominatorMeasure?_eq]
          cases denominator? numerator.2 with
          | none => rfl
          | some denominator =>
              cases bottom : Measure.ofWord? denominator.1 <;>
                simp [Measure.ofWords?, top, bottom]

theorem unit?_eq (text : List Char) :
    unit? text =
      orElse (word unitWord?) (character fun sign => (unitSign? sign).map Measure.single)
        text := by
  unfold unit? orElse word character
  cases text with
  | nil => rfl
  | cons sign rest =>
      cases isWord : word? (sign :: rest) with
      | none => simp [Function.comp_def]
      | some found =>
          have noSign := unitSign?_eq_none (startsWord_of_word? isWord)
          cases keyword : isKeyword found.1 <;> simp [unitWord?, keyword, noSign]

theorem attachedUnit?_eq (text : List Char) :
    attachedUnit? text = andThen blanks (fun _ => orElse rate? unit?) text :=
  rfl

/-! ## Amounts -/

/-- The number before a text, a thousand times as large if the letter for that comes next. -/
def thousands (amount : Float) : Recogniser Float :=
  orElse (word fun letter => if letter = ['k'] ∨ letter = ['K'] then some (amount * 1000) else none)
    (given (some amount))

theorem thousands_eq (amount : Float) (text : List Char) :
    thousands amount text = some (takeThousands amount text) := by
  unfold thousands orElse word given takeThousands
  cases text with
  | nil => rfl
  | cons letter rest =>
      simp only
      split
      · rename_i isThousands
        simp only [Bool.and_eq_true, Bool.or_eq_true, beq_iff_eq, Bool.not_eq_true'] at isThousands
        obtain ⟨isLetter, ends⟩ := isThousands
        have starts : startsWord letter = true := by
          rcases isLetter with rfl | rfl <;> decide +kernel
        have isWord : word? (letter :: rest) = some ([letter], rest) :=
          word?_eq_some_iff.mpr ⟨rfl, ⟨letter, [], rfl, starts, by simp⟩, ends⟩
        rcases isLetter with rfl | rfl <;> simp [isWord]
      · rename_i plain
        cases isWord : word? (letter :: rest) with
        | none => rfl
        | some found =>
            obtain ⟨whole, -, ends⟩ := word?_eq_some_iff.mp isWord
            have otherWord : ¬(found.1 = ['k'] ∨ found.1 = ['K']) := by
              intro isLetter
              apply plain
              rcases isLetter with isSmall | isLarge
              · rw [isSmall] at whole
                obtain ⟨rfl, rfl⟩ := List.cons.inj whole
                simp [ends]
              · rw [isLarge] at whole
                obtain ⟨rfl, rfl⟩ := List.cons.inj whole
                simp [ends]
            simp [otherWord]

theorem number?_eq (text : List Char) :
    number? text =
      andThen numeral? (fun amount => andThen (thousands amount) fun amount =>
        orElse (andThen attachedUnit? fun measure => given (some (.amount amount measure)))
          (given (some (.number amount)))) text := by
  unfold number? andThen
  cases numeral? text with
  | none => rfl
  | some found =>
      simp only [Option.map_some, Option.bind_some, thousands_eq]
      unfold orElse given
      cases attached : attachedUnit? (takeThousands found.1 found.2).2 <;> simp [attached]

/-- The unit of an amount of money: a price if a slash and a unit word come right after it. -/
def price (sign : Char) (currency : Currency) : Recogniser Measure :=
  orElse (andThen (character slash?) fun _ => word fun found => Measure.ofWords? [sign] found)
    (given (some (.single (.currency currency))))

theorem price_eq (sign : Char) (currency : Currency) (text : List Char) :
    price sign currency text = some (takePrice sign currency text) := by
  have joined (found : Option (Measure × List Char)) (otherwise : Measure × List Char) :
      found.or (some otherwise) = some (found.getD otherwise) := by
    cases found <;> rfl
  unfold price takePrice orElse given
  rw [Option.map_some, joined]
  cases text with
  | nil => rfl
  | cons first rest =>
      by_cases isSlash : first = '/'
      · subst isSlash
        rfl
      · simp [andThen, character, slash?, isSlash]

/-- The currency that a sign stands for, with the sign. -/
def signedCurrency? (sign : Char) : Option (Char × Currency) :=
  (currencySign? sign).map (sign, ·)

theorem money?_eq (text : List Char) :
    money? text =
      andThen (character signedCurrency?) (fun money => andThen blanks fun _ =>
        andThen numeral? fun amount => andThen (thousands amount) fun amount =>
          andThen (price money.1 money.2) fun measure =>
            given (some (.amount amount measure))) text := by
  cases text with
  | nil => rfl
  | cons sign rest =>
      simp only [money?, andThen, character, signedCurrency?, blanks]
      cases currencySign? sign with
      | none => rfl
      | some currency =>
          simp only [Option.map_some, Option.bind_some]
          cases numeral? (skipInlineBlanks rest) with
          | none => rfl
          | some found =>
              simp only [Option.map_some, Option.bind_some, thousands_eq, price_eq]
              rfl

/-! ## Names -/

theorem exists_name? {text : List Char} {found : List Char × List Char}
    (isWord : word? text = some found) : ∃ named, name? text = some named := by
  unfold name?
  rw [isWord]
  exact ⟨_, rfl⟩

theorem name?_of_not_startsWord {character : Char} (outside : startsWord character = false)
    (rest : List Char) : name? (character :: rest) = none := by
  unfold name?
  rw [word?_of_not_startsWord outside]
  rfl

end Lexeme

end NoteCalc
