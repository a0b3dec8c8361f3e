import NoteCalc.Number.Binary64
import NoteCalc.Text.Blank
import NoteCalc.Text.Digit

/-!
# Reading numbers

A number is written with an optional sign, digits of any script with at most one point among them,
and an optional power of ten; or it is one of the words `inf`, `infinity` and `nan` in any case.
Blanks may surround it, and single underscores may stand between digits.  The number read is the
machine number nearest to what is written.
-/

namespace NoteCalc

open NoteCalc.Text

namespace Reading

/-- The blanks that may surround a number.  They leave out the information separators of ASCII. -/
def surrounds (character : Char) : Bool :=
  isBlank character && !(28 ≤ character.toNat && character.toNat ≤ 31)

/-- Whether a text starts with a decimal digit. -/
def startsWithDecimal : List Char → Bool
  | [] => false
  | character :: _ => isDecimal character

/-- Remove the underscores of a number.  Each of them has to stand between two digits;
`afterDigit` says whether a digit comes right before the text. -/
def removeUnderscores? (afterDigit : Bool) : List Char → Option (List Char)
  | [] => some []
  | character :: rest =>
      if character = '_' then
        if afterDigit && startsWithDecimal rest then removeUnderscores? false rest else none
      else (removeUnderscores? (isDecimal character) rest).map (character :: ·)

/-- A leading sign, if there is one: whether it is a minus, and the text after it. -/
def takeSign : List Char → Bool × List Char
  | '-' :: rest => (true, rest)
  | '+' :: rest => (false, rest)
  | text => (false, text)

/-- The power of ten that a text spells, which may be missing altogether. -/
def exponent? : List Char → Option Int
  | [] => some 0
  | mark :: rest =>
      let (negative, digits) := takeSign rest
      if (mark == 'e' || mark == 'E') && !digits.isEmpty && digits.all isDecimal then
        some (if negative then -(decimalValue digits : Int) else decimalValue digits)
      else none

/-- The digits after a point, if a point comes next, and the text after them. -/
def takeFraction : List Char → List Char × List Char
  | '.' :: rest => (rest.takeWhile isDecimal, rest.dropWhile isDecimal)
  | text => ([], text)

/-- A magnitude in decimal notation: digits with at most one point among them and an optional
power of ten. -/
def decimal? (negative : Bool) (text : List Char) : Option Float :=
  let whole := text.takeWhile isDecimal
  let (fraction, rest) := takeFraction (text.dropWhile isDecimal)
  if whole.isEmpty && fraction.isEmpty then none
  else
    (exponent? rest).map fun exponent =>
      Binary64.ofDecimal negative (decimalValue (whole ++ fraction)) (exponent - fraction.length)

/-- A magnitude, in words or in decimal notation. -/
def magnitude? (negative : Bool) (text : List Char) : Option Float :=
  let word := text.map Char.toLower
  if word = "inf".toList ∨ word = "infinity".toList then
    some (if negative then -(1 / 0) else 1 / 0)
  else if word = "nan".toList then some (0 / 0)
  else decimal? negative text

end Reading

/-- The machine number nearest to the number that a text spells. -/
def readNumber? (text : List Char) : Option Float :=
  (Reading.removeUnderscores? false (trimWhere Reading.surrounds text)).bind fun digits =>
    let (negative, magnitude) := Reading.takeSign digits
    Reading.magnitude? negative magnitude

end NoteCalc
