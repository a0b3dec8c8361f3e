import NoteCalc.Text.Alphanumeric
import NoteCalc.Text.Digit

/-!
# Words

A word starts with a letter, a letter-like numeral or an underscore and goes on with such
characters and decimal digits.  This module recognises a word at the head of a text and folds the
case of words before they are looked up.
-/

namespace NoteCalc.Text

/-- Whether a character can stand inside a word. -/
def isWordCharacter (character : Char) : Bool :=
  isAlphanumeric character || character == '_'

/-- Whether a character can start a word: a word character that is no decimal digit. -/
def startsWord (character : Char) : Bool :=
  isWordCharacter character && !isDecimal character

/-- The word at the head of a text, as long as it can be, and the text after it. -/
def word? : List Char → Option (List Char × List Char)
  | [] => none
  | character :: rest =>
      if startsWord character then
        some (character :: rest.takeWhile isWordCharacter, rest.dropWhile isWordCharacter)
      else none

/-- The small form of a letter of the Latin alphabet, of the Kelvin sign, which is a `k`, and of
the capital Mu, which is a `μ`.  No other letter has a small form that occurs in a listed word, so
every other character is left alone. -/
def smallLetter (character : Char) : Char :=
  if 'A' ≤ character ∧ character ≤ 'Z' then Char.ofNat (character.toNat + 32)
  else if character == '\u212a' then 'k'
  else if character == '\u039c' then '\u03bc'
  else character

/-- A word in small letters. -/
def smallLetters (word : List Char) : List Char :=
  word.map smallLetter

/-- A recognised word is not empty. -/
theorem word?_ne_nil {text word rest : List Char} (found : word? text = some (word, rest)) :
    word ≠ [] := by
  cases text with
  | nil => simp [word?] at found
  | cons character text =>
      simp only [word?] at found
      split at found
      · obtain ⟨rfl, -⟩ := Prod.mk.inj (Option.some.inj found)
        simp
      · simp at found

/-- A recognised word and the text after it make up the whole text. -/
theorem word?_append {text word rest : List Char} (found : word? text = some (word, rest)) :
    word ++ rest = text := by
  cases text with
  | nil => simp [word?] at found
  | cons character text =>
      simp only [word?] at found
      split at found
      · obtain ⟨rfl, rfl⟩ := Prod.mk.inj (Option.some.inj found)
        simp [List.takeWhile_append_dropWhile]
      · simp at found

example : word? "x²+1".toList = some (['x', '²'], ['+', '1']) ∧ word? "5x".toList = none := by
  decide +kernel

example : smallLetters "\u212aIB".toList = ['k', 'i', 'b'] := by decide +kernel

end NoteCalc.Text
