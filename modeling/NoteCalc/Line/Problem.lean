import NoteCalc.Line.Token
import NoteCalc.Text.Printable

/-!
# Problems of a line

A line that is empty, has unbalanced parentheses or has an operator where none can stand is
refused.  Characters that mean nothing and words that look like misspelt units are only warned
about.  Two kinds of digits cannot be read at all: a digit sign that belongs to no numeral, where a
token has to start, and the digits of a reference if there are too many of them.
-/

namespace NoteCalc

/-- The most digits that the number of a line may have, where it is read and where it is written. -/
def mostLineDigits : Nat := 4300

/-- A digit at which a line cannot be read, or cannot be renumbered. -/
inductive UnreadableDigit where
  /-- A digit sign, other than a decimal digit, where a token has to start. -/
  | stray (character : Char)
  /-- A digit too many in the number of a line, which has so many digits. -/
  | surplus (digits : Nat)
deriving Repr, DecidableEq

/-- Why a line is refused. -/
inductive LineError where
  /-- Nothing on the line is a token. -/
  | nothingToEvaluate
  /-- A closing parenthesis closes nothing. -/
  | unmatchedClose (span : Span)
  /-- An opening parenthesis is never closed. -/
  | unclosedOpen
  /-- An operator other than a minus stands right after another one. -/
  | doubledOperator (first second : String) (span : Span)
deriving Repr, DecidableEq

/-- What was passed over on a line. -/
inductive LineWarning where
  /-- A character that means nothing. -/
  | skippedCharacter (character : Char) (span : Span)
  /-- A word after a number that is no unit but nearly one. -/
  | unknownUnit (word : String) (suggestions : List String) (span : Span)
deriving Repr, DecidableEq

namespace LineError

/-- The explanation of a refusal. -/
def diagnostic : LineError → Diagnostic
  | .nothingToEvaluate => ⟨.error, "L003", "Nothing to evaluate", none, none, []⟩
  | .unmatchedClose span =>
      ⟨.error, "L001", "Unmatched ')'", some span,
        some "Remove the ')' or add a matching '(' before it.", []⟩
  | .unclosedOpen => ⟨.error, "L001", "Unclosed '('", none, some "Add a matching ')'.", []⟩
  | .doubledOperator first second span =>
      ⟨.error, "L002", "Operator '" ++ second ++ "' cannot follow '" ++ first ++ "'", some span,
        some "Only '-' (negation) may directly follow another operator.", []⟩

end LineError

namespace LineWarning

/-- A code point in capital hexadecimal digits, four of them at least. -/
def codePoint (character : Char) : String :=
  let digits := (Nat.toDigits 16 character.toNat).map Char.toUpper
  String.ofList (List.replicate (4 - digits.length) '0' ++ digits)

/-- The words of a list with commas between them. -/
def commaSeparated (words : List String) : String :=
  ", ".intercalate words

/-- The explanation of a warning. -/
def diagnostic : LineWarning → Diagnostic
  | .skippedCharacter character span =>
      let help :=
        if Text.isPrintable character then
          "The character '" ++ String.singleton character ++ "' is ignored."
        else "Non-printable character (Unicode: U+" ++ codePoint character ++ ") is ignored."
      ⟨.warning, "L004", "Skipped character: '" ++ String.singleton character ++ "'", some span,
        some help, []⟩
  | .unknownUnit word suggestions span =>
      ⟨.warning, "L005", "'" ++ word ++ "' is not a known unit", some span,
        some ("Did you mean one of these units: " ++ commaSeparated suggestions ++ "?"),
        suggestions⟩

end LineWarning

end NoteCalc
