import NoteCalc.Line.Lexeme

/-!
# Highlighting

A line is cut into spans that a display can colour.  Words are coloured by what they name, whether
they belong to a formula or to prose; the spans together are the line.
-/

namespace NoteCalc

open NoteCalc.Text

/-- What a span is coloured as. -/
inductive Highlight where
  | number
  | unit
  | reference
  | keyword
  | operator
  | identifier
  | function
  | plain
deriving Repr, DecidableEq

/-- A piece of a line with its colour. -/
structure HighlightedSpan where
  text : List Char
  highlight : Highlight
deriving Repr, DecidableEq

namespace Highlight

/-- The colour of a word.  References, keywords, functions and units come before the variables of
the notebook, which `isVariable` decides. -/
def ofWord (isVariable : String → Bool) (word : List Char) : Highlight :=
  let small := smallLetters word
  if (Lexeme.reference? word).any fun found => found.2.isEmpty then .reference
  else if Lexeme.isKeyword small then .keyword
  else if NamedFunction.all.any fun function => function.name.toList == small then .function
  else if (Measure.ofWord? word).isSome then .unit
  else if isVariable (String.ofList word) then .identifier
  else .plain

/-- The colour of a character that belongs to no word and no number. -/
def ofCharacter (character : Char) : Highlight :=
  if (Lexeme.unitSign? character).isSome then .unit
  else if (Lexeme.sign? character).isSome then .operator
  else .plain

/-- Whether a character can stand in a coloured number. -/
def belongsToNumber (character : Char) : Bool :=
  isDecimal character || character == '.' || character == ','

/-- The coloured number at the head of a text: a run of digits, points and commas that starts with
a digit or a point and has a digit in it. -/
def number? : List Char → Option (List Char × List Char)
  | [] => none
  | character :: text =>
      let run := (character :: text).takeWhile belongsToNumber
      if (isDecimal character || character == '.') && run.any isDecimal then
        some (run, (character :: text).dropWhile belongsToNumber)
      else none

/-- The first span of a text that is not empty, and the text that is left. -/
def next (isVariable : String → Bool) (character : Char) (text : List Char) :
    HighlightedSpan × List Char :=
  match word? (character :: text) with
  | some (word, rest) => (⟨word, ofWord isVariable word⟩, rest)
  | none =>
      match number? (character :: text) with
      | some (digits, rest) => (⟨digits, .number⟩, rest)
      | none => (⟨[character], ofCharacter character⟩, text)

theorem number?_append {text digits rest : List Char}
    (found : number? text = some (digits, rest)) : digits ++ rest = text ∧ digits ≠ [] := by
  cases text with
  | nil => simp [number?] at found
  | cons character text =>
      simp only [number?] at found
      split at found
      · rename_i starts
        simp only [Option.some.injEq, Prod.mk.injEq] at found
        rw [← found.1, ← found.2]
        refine ⟨List.takeWhile_append_dropWhile, fun empty => ?_⟩
        rw [empty] at starts
        simp at starts
      · simp at found

/-- The first span and the text that is left make up the text, and the span is not empty. -/
theorem next_append (isVariable : String → Bool) (character : Char) (text : List Char) :
    (next isVariable character text).1.text ++ (next isVariable character text).2 =
        character :: text ∧
      (next isVariable character text).1.text ≠ [] := by
  unfold next
  split
  · rename_i isWord
    exact ⟨word?_append isWord, word?_ne_nil isWord⟩
  · split
    · rename_i isNumber
      exact number?_append isNumber
    · simp

theorem shorter_of_append {first rest text : List Char}
    (parts : first ++ rest = text ∧ first ≠ []) : rest.length < text.length := by
  obtain ⟨whole, nonempty⟩ := parts
  have positive := List.length_pos_iff.mpr nonempty
  rw [← whole, List.length_append]
  omega

theorem next_shorter (isVariable : String → Bool) (character : Char) (text : List Char) :
    (next isVariable character text).2.length < (character :: text).length :=
  shorter_of_append (next_append isVariable character text)

/-- The spans of a text. -/
def spans (isVariable : String → Bool) : List Char → List HighlightedSpan
  | [] => []
  | character :: text =>
      let found := next isVariable character text
      found.1 :: spans isVariable found.2
termination_by text => text.length
decreasing_by exact next_shorter isVariable character text

/-! ## Looking for numbers by digit signs

A number may also be looked for wherever a character shows a digit.  A digit sign that belongs to
no numeral starts none, and there the search for spans would stop. -/

/-- The first span of a text that is not empty, and the text that is left, unless a digit sign that
starts no word starts no number either. -/
def next? (isVariable : String → Bool) (character : Char) (text : List Char) :
    Option (HighlightedSpan × List Char) :=
  match word? (character :: text) with
  | some (word, rest) => some (⟨word, ofWord isVariable word⟩, rest)
  | none =>
      if isDigitSign character || character == '.' then
        let run := (character :: text).takeWhile belongsToNumber
        if run.isEmpty then none
        else if run.any isDigitSign then
          some (⟨run, .number⟩, (character :: text).dropWhile belongsToNumber)
        else some (⟨[character], .plain⟩, text)
      else some (⟨[character], ofCharacter character⟩, text)

theorem next?_append {isVariable : String → Bool} {character : Char} {text : List Char}
    {found : HighlightedSpan × List Char} (isNext : next? isVariable character text = some found) :
    found.1.text ++ found.2 = character :: text ∧ found.1.text ≠ [] := by
  unfold next? at isNext
  split at isNext
  · rename_i isWord
    rw [← Option.some.inj isNext]
    exact ⟨word?_append isWord, word?_ne_nil isWord⟩
  · simp only at isNext
    split at isNext
    · split at isNext
      · exact absurd isNext (by simp)
      · rename_i isRun
        split at isNext
        · rw [← Option.some.inj isNext]
          exact ⟨List.takeWhile_append_dropWhile, mt List.isEmpty_iff.mpr isRun⟩
        · rw [← Option.some.inj isNext]
          simp
    · rw [← Option.some.inj isNext]
      simp

theorem next?_shorter {isVariable : String → Bool} {character : Char} {text : List Char}
    {found : HighlightedSpan × List Char} (isNext : next? isVariable character text = some found) :
    found.2.length < (character :: text).length :=
  shorter_of_append (next?_append isNext)

/-- The spans of a text, unless the search for them stops. -/
def spans? (isVariable : String → Bool) : List Char → Option (List HighlightedSpan)
  | [] => some []
  | character :: text =>
      match _found : next? isVariable character text with
      | none => none
      | some (span, rest) => (spans? isVariable rest).map (span :: ·)
termination_by text => text.length
decreasing_by exact next?_shorter ‹_›

end Highlight

/-- The coloured spans of a line, given which names are variables. -/
def highlight (isVariable : String → Bool) (line : String) : List HighlightedSpan :=
  Highlight.spans isVariable line.toList

/-- The coloured spans of a line, unless the search for them stops. -/
def highlight? (isVariable : String → Bool) (line : String) : Option (List HighlightedSpan) :=
  Highlight.spans? isVariable line.toList

end NoteCalc
