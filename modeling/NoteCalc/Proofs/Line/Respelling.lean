import NoteCalc.Proofs.Line.Recognisers
import NoteCalc.Proofs.Line.ReferenceWords

/-!
# Respelling references word by word

References are respelt in every text, whether a scan would meet them as tokens or not: each word
that is a reference is replaced by its new spelling.  A recogniser respects the respelling if it
finds the same in the respelt text, leaves the respelt rest, and has found nothing that is respelt.
All forms of a token but the reference itself respect every respelling by inert words.
-/

namespace NoteCalc

open NoteCalc.Text Lexeme

/-- New spellings for some references, by the number that is written.  Every new spelling is an
inert word that does not start with a digit sign. -/
structure Respelling where
  spelling : Nat → Option String
  inert : ∀ {written : Nat} {text : String}, spelling written = some text → Inert text.toList
  noDigit : ∀ {written : Nat} {text : String}, spelling written = some text →
    ∀ character ∈ text.toList.head?, isDigitSign character = false

namespace Respelling

variable (respelling : Respelling) {α β : Type}

/-- The new spelling of a word, which is its old one unless it is a reference to be respelt. -/
def word (word : List Char) : List Char :=
  (((referenceNumber? word).bind respelling.spelling).map String.toList).getD word

/-- The text with all its words respelt. -/
def text : List Char → List Char
  | [] => []
  | character :: rest =>
      match _found : word? (character :: rest) with
      | some (found, rest) => respelling.word found ++ text rest
      | none => character :: text rest
termination_by text => text.length
decreasing_by
  · exact (word?_leaves ‹_›).2
  · simp

/-! ## Words -/

theorem word_of_not_reference {found : List Char} (plain : referenceNumber? found = none) :
    respelling.word found = found := by
  simp [word, plain]

theorem word_of_reference {found : List Char} {written : Nat}
    (isReference : referenceNumber? found = some written) :
    respelling.word found = ((respelling.spelling written).map String.toList).getD found := by
  simp [word, isReference]

/-- A word is respelt only if it is inert, and then its new spelling is inert. -/
theorem word_eq_or_inert (found : List Char) :
    respelling.word found = found ∨ Inert found ∧ Inert (respelling.word found) := by
  cases isReference : referenceNumber? found with
  | none => exact .inl (respelling.word_of_not_reference isReference)
  | some written =>
      rw [respelling.word_of_reference isReference]
      cases respelt : respelling.spelling written with
      | none => exact .inl rfl
      | some text =>
          exact .inr ⟨inert_of_referenceNumber? isReference, respelling.inert respelt⟩

theorem inert_word {found : List Char} {written : Nat}
    (isReference : referenceNumber? found = some written) : Inert (respelling.word found) := by
  rcases respelling.word_eq_or_inert found with same | ⟨-, inert⟩
  · rw [same]
    exact inert_of_referenceNumber? isReference
  · exact inert

theorem isWord_word {found : List Char} (isWord : IsWord found) :
    IsWord (respelling.word found) := by
  rcases respelling.word_eq_or_inert found with same | ⟨-, inert⟩
  · rw [same]
    exact isWord
  · exact inert.isWord

/-- What means nothing for inert words means the same for a word and its new spelling. -/
theorem test_word {test : List Char → Option α}
    (indifferent : ∀ found, Inert found → test found = none) (found : List Char) :
    test (respelling.word found) = test found := by
  rcases respelling.word_eq_or_inert found with same | ⟨inert, respelt⟩
  · rw [same]
  · rw [indifferent _ inert, indifferent _ respelt]

/-- What means something is not respelt. -/
theorem word_of_test {test : List Char → Option α}
    (indifferent : ∀ found, Inert found → test found = none) {found : List Char} {value : α}
    (passes : test found = some value) : respelling.word found = found := by
  rcases respelling.word_eq_or_inert found with same | ⟨inert, -⟩
  · exact same
  · rw [indifferent _ inert] at passes
    exact absurd passes (by simp)

/-! ## Texts -/

theorem text_nil : respelling.text [] = [] := by
  rw [text]

theorem text_of_word? {before found rest : List Char}
    (isWord : word? before = some (found, rest)) :
    respelling.text before = respelling.word found ++ respelling.text rest := by
  cases before with
  | nil => simp [word?] at isWord
  | cons character before =>
      rw [text]
      split
      · rename_i found' rest' isWord'
        rw [isWord] at isWord'
        obtain ⟨rfl, rfl⟩ := Prod.mk.inj (Option.some.inj isWord')
        rfl
      · rename_i noWord
        rw [isWord] at noWord
        exact absurd noWord (by simp)

theorem text_cons {character : Char} (outside : startsWord character = false)
    (rest : List Char) :
    respelling.text (character :: rest) = character :: respelling.text rest := by
  rw [text]
  split
  · rename_i isWord
    rw [word?_of_not_startsWord outside] at isWord
    exact absurd isWord (by simp)
  · rfl

theorem startsWithWordCharacter_text {rest : List Char}
    (ends : startsWithWordCharacter rest = false) :
    startsWithWordCharacter (respelling.text rest) = false := by
  cases rest with
  | nil =>
      rw [text_nil]
      rfl
  | cons character rest =>
      rw [respelling.text_cons (startsWord_of_not_isWordCharacter ends)]
      exact ends

/-- The word at the head of a text becomes the word at the head of the respelt text. -/
theorem word?_text (before : List Char) :
    word? (respelling.text before) =
      (word? before).map fun found => (respelling.word found.1, respelling.text found.2) := by
  cases isWord : word? before with
  | none =>
      cases before with
      | nil =>
          rw [text_nil]
          rfl
      | cons character before =>
          cases starts : startsWord character with
          | false =>
              rw [respelling.text_cons starts, word?_of_not_startsWord starts]
              rfl
          | true => simp [word?, starts] at isWord
  | some found =>
      obtain ⟨whole, shape, ends⟩ := word?_eq_some_iff.mp isWord
      rw [respelling.text_of_word? isWord]
      exact word?_eq_some_iff.mpr
        ⟨rfl, respelling.isWord_word shape, respelling.startsWithWordCharacter_text ends⟩

/-- How a text starts after it has been respelt: it is empty if it was, it starts with the same
character if that starts no word, and otherwise with a character that starts a word too. -/
inductive Head (respelling : Respelling) : List Char → List Char → Prop where
  | nil : Head respelling [] []
  | same {character : Char} (outside : startsWord character = false) (rest : List Char) :
      Head respelling (character :: rest) (character :: respelling.text rest)
  | word {first second : Char} (starts : startsWord first = true)
      (startsToo : startsWord second = true) (before after : List Char) :
      Head respelling (first :: before) (second :: after)

theorem head (before : List Char) : Head respelling before (respelling.text before) := by
  cases before with
  | nil =>
      rw [text_nil]
      exact .nil
  | cons character rest =>
      cases starts : startsWord character with
      | false =>
          rw [respelling.text_cons starts]
          exact .same starts rest
      | true =>
          have isWord := word?_of_startsWord starts rest
          obtain ⟨-, shape, -⟩ := word?_eq_some_iff.mp isWord
          obtain ⟨second, after, respelt, startsToo, -⟩ := respelling.isWord_word shape
          rw [respelling.text_of_word? isWord, respelt]
          exact .word starts startsToo rest _

/-! ## Recognisers that respect a respelling -/

/-- A text is respelt behind a kept part only. -/
def Keeps (before rest : List Char) : Prop :=
  ∃ kept, before = kept ++ rest ∧ respelling.text before = kept ++ respelling.text rest

theorem Keeps.refl (before : List Char) : respelling.Keeps before before :=
  ⟨[], rfl, rfl⟩

variable {respelling}

theorem Keeps.trans {before middle rest : List Char} (first : respelling.Keeps before middle)
    (second : respelling.Keeps middle rest) : respelling.Keeps before rest := by
  obtain ⟨kept, rfl, respelt⟩ := first
  obtain ⟨more, rfl, respeltMore⟩ := second
  refine ⟨kept ++ more, (List.append_assoc ..).symm, ?_⟩
  rw [respelt, respeltMore, List.append_assoc]

theorem Keeps.cons {character : Char} {before rest : List Char}
    (outside : startsWord character = false) (keeps : respelling.Keeps before rest) :
    respelling.Keeps (character :: before) rest := by
  obtain ⟨kept, rfl, respelt⟩ := keeps
  refine ⟨character :: kept, rfl, ?_⟩
  rw [respelling.text_cons outside, respelt, List.cons_append]

theorem Keeps.word {before found rest : List Char} (isWord : word? before = some (found, rest))
    (same : respelling.word found = found) : respelling.Keeps before rest := by
  refine ⟨found, (word?_append isWord).symm, ?_⟩
  rw [respelling.text_of_word? isWord, same]

/-- A recogniser finds the same in a respelt text, leaves the respelt rest, and what it has found is
not respelt. -/
structure Respects (respelling : Respelling) (recogniser : Recogniser α) : Prop where
  commutes : ∀ before, recogniser (respelling.text before) =
    (recogniser before).map fun found => (found.1, respelling.text found.2)
  keeps : ∀ {before : List Char} {found : α × List Char},
    recogniser before = some found → respelling.Keeps before found.2

theorem respects_congr {first second : Recogniser α} (same : ∀ before, first before = second before)
    (respects : respelling.Respects second) : respelling.Respects first := by
  have equal : first = second := funext same
  rwa [equal]

theorem respects_given (value : Option α) : respelling.Respects (Recogniser.given value) where
  commutes := by
    intro before
    cases value <;> rfl
  keeps := by
    intro before found isFound
    obtain ⟨-, -, rfl⟩ := Option.map_eq_some_iff.mp isFound
    exact .refl respelling before

theorem Respects.andThen {first : Recogniser α} {next : α → Recogniser β}
    (isFirst : respelling.Respects first) (isNext : ∀ value, respelling.Respects (next value)) :
    respelling.Respects (first.andThen next) where
  commutes := by
    intro before
    unfold Recogniser.andThen
    rw [isFirst.commutes]
    cases first before with
    | none => rfl
    | some found => exact (isNext found.1).commutes found.2
  keeps := by
    intro before found isFound
    obtain ⟨middle, isMiddle, isRest⟩ := Option.bind_eq_some_iff.mp isFound
    exact (isFirst.keeps isMiddle).trans ((isNext middle.1).keeps isRest)

theorem Respects.orElse {first second : Recogniser α} (isFirst : respelling.Respects first)
    (isSecond : respelling.Respects second) : respelling.Respects (first.orElse second) where
  commutes := by
    intro before
    unfold Recogniser.orElse
    rw [isFirst.commutes, isSecond.commutes]
    cases first before <;> rfl
  keeps := by
    intro before found isFound
    rcases Option.or_eq_some_iff.mp isFound with inFirst | ⟨-, inSecond⟩
    · exact isFirst.keeps inFirst
    · exact isSecond.keeps inSecond

theorem respects_character {test : Char → Option α}
    (silent : ∀ {first : Char}, startsWord first = true → test first = none) :
    respelling.Respects (Recogniser.character test) where
  commutes := by
    intro before
    have heads := respelling.head before
    generalize respelling.text before = after at heads ⊢
    cases heads with
    | nil => rfl
    | same outside rest =>
        simp only [Recogniser.character, Option.map_map]
        rfl
    | word starts startsToo => simp [Recogniser.character, silent starts, silent startsToo]
  keeps := by
    intro before found isFound
    cases before with
    | nil => simp [Recogniser.character] at isFound
    | cons first rest =>
        obtain ⟨value, passes, rfl⟩ := Option.map_eq_some_iff.mp isFound
        exact .cons (not_startsWord_of_some silent passes) (.refl respelling rest)

theorem respects_word {test : List Char → Option α}
    (indifferent : ∀ found, Inert found → test found = none) :
    respelling.Respects (Recogniser.word test) where
  commutes := by
    intro before
    unfold Recogniser.word
    rw [respelling.word?_text]
    cases word? before with
    | none => rfl
    | some found =>
        simp only [Option.map_some, Option.bind_some, respelling.test_word indifferent,
          Option.map_map]
        rfl
  keeps := by
    intro before found isFound
    obtain ⟨⟨heads, rest⟩, isWord, isValue⟩ := Option.bind_eq_some_iff.mp isFound
    obtain ⟨value, passes, rfl⟩ := Option.map_eq_some_iff.mp isValue
    exact .word isWord (respelling.word_of_test indifferent passes)

end Respelling

end NoteCalc
