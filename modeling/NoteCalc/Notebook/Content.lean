/-!
# Content and lines

A notebook is stored as its lines with line feeds between them and nothing else.  Content without a
line feed is a single line, and a line feed at the end is followed by an empty line, so joining
the lines of a content gives the content back.
-/

namespace NoteCalc

namespace Content

/-- Put a character in front of the first of several lines. -/
def extendFirst (character : Char) : List (List Char) → List (List Char)
  | [] => [[character]]
  | line :: lines => (character :: line) :: lines

/-- The lines of a content. -/
def split : List Char → List (List Char)
  | [] => [[]]
  | character :: content =>
      if character = '\n' then [] :: split content
      else extendFirst character (split content)

/-- Lines with line feeds between them. -/
def join : List (List Char) → List Char
  | [] => []
  | [line] => line
  | line :: next :: lines => line ++ '\n' :: join (next :: lines)

/-- A content has at least one line. -/
theorem split_ne_nil (content : List Char) : split content ≠ [] := by
  cases content with
  | nil => simp [split]
  | cons character content =>
      unfold split
      split
      · simp
      · cases split content <;> simp [extendFirst]

end Content

/-- The lines of a content. -/
def linesOfContent (content : String) : List String :=
  (Content.split content.toList).map String.ofList

/-- The content that lines make up. -/
def contentOfLines (lines : List String) : String :=
  String.ofList (Content.join (lines.map String.toList))

end NoteCalc
