import NoteCalc.Text.CodeRange

/-!
# Blanks

The characters that separate words: the white space of Unicode together with the four information
separators of ASCII.  The zero-width space and the byte order mark are not blanks.
-/

namespace NoteCalc.Text

/-- Ascending ranges of the blanks. -/
def blankRanges : List CodeRange :=
  [(0x0009, 0x000d), (0x001c, 0x0020), (0x0085, 0x0085), (0x00a0, 0x00a0), (0x1680, 0x1680),
   (0x2000, 0x200a), (0x2028, 0x2029), (0x202f, 0x202f), (0x205f, 0x205f), (0x3000, 0x3000)]

/-- Whether a character is a blank. -/
def isBlank (character : Char) : Bool :=
  CodeRange.covers blankRanges character.toNat

/-- Whether a character is one of the two blanks that may stand inside an amount such as
`5 GiB`. -/
def isInlineBlank (character : Char) : Bool :=
  character == ' ' || character == '\t'

/-- Remove the leading and the trailing characters of a class. -/
def trimWhere (drop : Char → Bool) (text : List Char) : List Char :=
  ((text.dropWhile drop).reverse.dropWhile drop).reverse

/-- Remove the blanks around a text. -/
def trimBlanks (text : List Char) : List Char :=
  trimWhere isBlank text

/-- Put a character in front of the first of several words. -/
def extendFirst (character : Char) : List (List Char) → List (List Char)
  | [] => [[character]]
  | word :: words => (character :: word) :: words

/-- The words of a text: its maximal runs of characters other than blanks. -/
def blankSeparated : List Char → List (List Char)
  | [] => []
  | [character] => if isBlank character then [] else [[character]]
  | character :: next :: rest =>
      if isBlank character then blankSeparated (next :: rest)
      else if isBlank next then [character] :: blankSeparated (next :: rest)
      else extendFirst character (blankSeparated (next :: rest))

/-- White space of ASCII is blank. -/
theorem isBlank_of_isWhitespace {character : Char} (white : character.isWhitespace = true) :
    isBlank character = true := by
  simp only [Char.isWhitespace, Bool.or_eq_true, decide_eq_true_eq] at white
  rcases white with ((rfl | rfl) | rfl) | rfl <;> decide

example : isBlank '\u00a0' = true ∧ isBlank '\x1c' = true ∧ isBlank '\u200b' = false := by decide

example : blankSeparated " 5  GiB\u3000".toList = [['5'], ['G', 'i', 'B']] := by decide

end NoteCalc.Text
