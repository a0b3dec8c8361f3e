import NoteCalc.Line.Lexeme
import NoteCalc.Line.Problem
import NoteCalc.Text.EditDistance

/-!
# Scanning a line

At each place of a line the forms of a token are tried in a fixed order: reference, keyword,
amount of money, number, sign, name, sign of a unit.  What is none of them is skipped, and a skipped
character that is no ordinary punctuation mark is warned about.

The scan carries the part of the line that is left, and a place in the line is the number of
characters that are no longer left.  `recognise_leaves` says that every step takes at least one
character, so the scan ends.
-/

namespace NoteCalc

open NoteCalc.Text

/-- What a line consists of: its tokens in order, and the warnings in order. -/
structure Scan where
  tokens : List Token := []
  warnings : List LineWarning := []

namespace Scan

/-- Punctuation that separates words and is skipped silently. -/
def punctuation : List Char :=
  ":;,!?.\"'\x60|&#@~[]\x7b\x7d<>".toList

/-- The shortest word that is checked for being a misspelt unit.  Shorter words are near to too
many units. -/
def shortestSuspect : Nat := 3

/-- What stands at the head of a text that is neither empty nor starts with a blank: a token, or
nothing if the character is skipped; and the text that is left. -/
def recognise (character : Char) (text : List Char) :
    Except UnreadableDigit (Option Token.Kind × List Char) :=
  let whole := character :: text
  let token (found : Token.Kind × List Char) : Option Token.Kind × List Char :=
    (some found.1, found.2)
  match Lexeme.reference? whole with
  | some (written, rest) =>
      let digits := Lexeme.referenceDigits whole rest
      if digits ≤ mostLineDigits then .ok (token (.reference written, rest))
      else .error (.surplus digits)
  | none =>
      match Lexeme.keyword? whole |>.or (Lexeme.money? whole) with
      | some found => .ok (token found)
      | none =>
          if isDigitSign character then
            match Lexeme.number? whole with
            | some found => .ok (token found)
            | none => .error (.stray character)
          else
            match (Lexeme.sign? character).map (·, text) |>.or (Lexeme.name? whole) |>.or
                (Lexeme.loneUnit? whole) with
            | some found => .ok (token found)
            | none => .ok (none, text)

/-- Whatever is recognised takes at least the first character. -/
theorem recognise_leaves {character : Char} {text rest : List Char} {kind : Option Token.Kind}
    (found : recognise character text = .ok (kind, rest)) : Leaves (character :: text) rest := by
  unfold recognise at found
  simp only at found
  split at found
  · rename_i written left isReference
    split at found
    · obtain ⟨-, rfl⟩ := Prod.mk.inj (Except.ok.inj found)
      exact Lexeme.reference?_leaves isReference
    · exact absurd found (by simp)
  · split at found
    · rename_i early
      obtain ⟨-, rfl⟩ := Prod.mk.inj (Except.ok.inj found)
      rcases Option.or_eq_some_iff.mp early with isKeyword | ⟨-, isMoney⟩
      · exact Lexeme.keyword?_leaves isKeyword
      · exact Lexeme.money?_leaves isMoney
    · split at found
      · split at found
        · rename_i isNumber
          obtain ⟨-, rfl⟩ := Prod.mk.inj (Except.ok.inj found)
          exact Lexeme.number?_leaves isNumber
        · exact absurd found (by simp)
      · split at found
        · rename_i late
          obtain ⟨-, rfl⟩ := Prod.mk.inj (Except.ok.inj found)
          rcases Option.or_eq_some_iff.mp late with late | ⟨-, isUnit⟩
          · rcases Option.or_eq_some_iff.mp late with isSign | ⟨-, isName⟩
            · obtain ⟨sign, -, rfl⟩ := Option.map_eq_some_iff.mp isSign
              exact Leaves.cons _ (List.suffix_refl _)
            · exact Lexeme.name?_leaves isName
          · exact Lexeme.loneUnit?_leaves isUnit
        · obtain ⟨-, rfl⟩ := Prod.mk.inj (Except.ok.inj found)
          exact Leaves.cons _ (List.suffix_refl _)

/-- The places of a lexeme in a line of a given length: from where `before` is left to where
`after` is left. -/
def spanBetween (length : Nat) (before after : List Char) : Span :=
  ⟨length - before.length, length - after.length⟩

/-- The warning about the word after a plain number, if it is nearly a unit. -/
def misspeltUnit? (length : Nat) (text : List Char) : Option LineWarning :=
  let text := Lexeme.skipInlineBlanks text
  (word? text).bind fun (word, rest) =>
    let similar := suggestions (String.ofList word) Spelling.known 1
    if shortestSuspect ≤ word.length ∧ similar ≠ [] then
      some (.unknownUnit (String.ofList word) similar (spanBetween length text rest))
    else none

/-- The warning that a recognised piece of a line calls for. -/
def warning? (length : Nat) (character : Char) (kind : Option Token.Kind)
    (before after : List Char) : Option LineWarning :=
  match kind with
  | none =>
      if punctuation.contains character then none
      else some (.skippedCharacter character (spanBetween length before after))
  | some (.number _) => misspeltUnit? length after
  | some _ => none

/-- Put what a step has found in front of what the rest of the line holds. -/
def extend (token : Option Token) (warning : Option LineWarning) (later : Scan) : Scan :=
  ⟨token.toList ++ later.tokens, warning.toList ++ later.warnings⟩

/-- Scan what is left of a line of a given length. -/
def remaining (length : Nat) : List Char → Except UnreadableDigit Scan
  | [] => .ok {}
  | character :: text =>
      if isBlank character then remaining length text
      else
        match _found : recognise character text with
        | .error digit => .error digit
        | .ok (kind, rest) =>
            let whole := character :: text
            let lexeme := String.ofList (whole.take (whole.length - rest.length))
            let token := kind.map fun kind =>
              (⟨kind, lexeme, spanBetween length whole rest⟩ : Token)
            (remaining length rest).map
              (extend token (warning? length character kind whole rest))
termination_by text => text.length
decreasing_by
  · simp
  · exact (recognise_leaves ‹_›).2

end Scan

/-- Scan a line.  It fails on a digit sign that belongs to no numeral where a token has to start,
and on a reference whose number has too many digits. -/
def scan (line : String) : Except UnreadableDigit Scan :=
  Scan.remaining line.toList.length line.toList

end NoteCalc
