import NoteCalc.Line.Scan

/-!
# Renumbering references

When a line is inserted or removed, references to the lines below it have to follow their targets.
Only the references in a text are respelt; all else stays as it is, also in lines that are refused.
A reference to a removed line becomes a word that names nothing, so that it does not read whichever
line takes the place.  Renumbering fails on a line that cannot be scanned, and on a reference whose
new number has too many digits.
-/

namespace NoteCalc

namespace Renumbering

/-- What a reference to a removed line becomes. -/
def invalidReference : String := "INVALID_REF"

/-- The plain spelling of a reference to the line with a number. -/
def plainName (number : Int) : String :=
  "line" ++ toString number

/-- Write a reference to the line with a number.  A number with more digits than can be read is not
written either. -/
def lineName (number : Int) : Except UnreadableDigit String :=
  let digits := (Nat.toDigits 10 number.natAbs).length
  if digits ≤ mostLineDigits then .ok (plainName number) else .error (.surplus digits)

/-- Replace spans of a line by texts.  The spans ascend, and `text` is what is left of the line
from a place on. -/
def splice (place : Nat) (text : List Char) : List (Span × List Char) → List Char
  | [] => text
  | (span, replacement) :: edits =>
      text.take (span.start - place) ++ replacement ++
        splice span.stop (text.drop (span.stop - place)) edits

/-- The replacement for a token, if it is a reference that has one. -/
def edit? (respell : Nat → Except UnreadableDigit (Option String)) (token : Token) :
    Except UnreadableDigit (Option (Span × List Char)) :=
  match token.kind with
  | .reference written => (respell written).map (Option.map fun text => (token.span, text.toList))
  | _ => .ok none

/-- Respell the references of a line.  `respell` is given the number as it is written and answers
the new spelling, or nothing to leave the reference alone. -/
def respellReferences (respell : Nat → Except UnreadableDigit (Option String)) (line : String) :
    Except UnreadableDigit String := do
  let scan ← scan line
  let edits ← scan.tokens.mapM (edit? respell)
  return String.ofList (splice 0 line.toList (edits.filterMap id))

/-- How a reference is spelt after a line is inserted at a place: it moves down if it refers to
that place or below. -/
def insertionSpelling (place : Int) (written : Nat) : Except UnreadableDigit (Option String) :=
  if place ≤ (written : Int) - 1 then (lineName (written + 1)).map some else .ok none

/-- How a reference is spelt after the line at a place is removed: it moves up if it refers below,
and becomes invalid if it refers to the line itself. -/
def removalSpelling (place : Int) (written : Nat) : Except UnreadableDigit (Option String) :=
  if (written : Int) - 1 = place then .ok (some invalidReference)
  else if place < (written : Int) - 1 then (lineName (written - 1)).map some
  else .ok none

/-- Renumber the references of a line for a line that is inserted at a place. -/
def afterInsertion (place : Int) (line : String) : Except UnreadableDigit String :=
  respellReferences (insertionSpelling place) line

/-- Renumber the references of a line for the line that is removed from a place. -/
def afterRemoval (place : Int) (line : String) : Except UnreadableDigit String :=
  respellReferences (removalSpelling place) line

/-- Renumber the references of successive lines, of which the first has the place `line`.  The
line at `skipped` is left as it is. -/
def allAfterInsertion (place : Int) (skipped : Option Int) (line : Nat) :
    List String → Except UnreadableDigit (List String)
  | [] => .ok []
  | text :: texts => do
      let text ← if skipped = some (line : Int) then .ok text else afterInsertion place text
      return text :: (← allAfterInsertion place skipped (line + 1) texts)

/-- Renumber the references of all lines for the line that is removed from a place. -/
def allAfterRemoval (place : Int) (lines : List String) : Except UnreadableDigit (List String) :=
  lines.mapM (afterRemoval place)

end Renumbering

end NoteCalc
