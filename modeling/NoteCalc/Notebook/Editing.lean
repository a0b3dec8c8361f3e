import NoteCalc.Notebook.Basic
import NoteCalc.Notebook.Content
import NoteCalc.Notebook.Renumbering

/-!
# Editing

Edits happen at the cursor.  Within a line they refresh that line and what reads its variable;
splitting a line in two and joining two lines renumber the references of the others and evaluate
all lines.
-/

namespace NoteCalc

namespace Notebook

/-- The text of the line with the cursor. -/
def currentLine (notebook : Notebook) : String :=
  notebook.lineAt notebook.cursorLine

/-- The result of the line with the cursor. -/
def currentResult (notebook : Notebook) : Option String :=
  notebook.results[notebook.cursorLine]?.join

/-- The place of the cursor in its line, which may have become shorter. -/
def column (notebook : Notebook) : Nat :=
  min notebook.cursorColumn notebook.currentLine.toList.length

/-- The text of the current line before the cursor. -/
def beforeCursor (notebook : Notebook) : List Char :=
  notebook.currentLine.toList.take notebook.column

/-- The text of the current line after the cursor. -/
def afterCursor (notebook : Notebook) : List Char :=
  notebook.currentLine.toList.drop notebook.column

/-- Replace the text of the current line, put the cursor into a column, and refresh. -/
def editLine (notebook : Notebook) (text : List Char) (column : Nat) :
    Except UnreadableDigit Notebook := do
  let place := notebook.cursorLine
  let line := String.ofList text
  let readers ← notebook.readers.update place line
  refresh
    { notebook with
      lines := notebook.lines.set place line
      cursorColumn := column
      readers := readers }
    place

/-- Split the current line at the cursor.  The cursor moves to the start of the new line, whose
references are left alone. -/
def splitLine (notebook : Notebook) : Except UnreadableDigit Notebook := do
  let place := notebook.cursorLine
  let lines := (notebook.lines.set place (String.ofList notebook.beforeCursor)).insertIdx
    (place + 1) (String.ofList notebook.afterCursor)
  let skipped : Int := place + 1
  let lines ← Renumbering.allAfterInsertion skipped (some skipped) 0 lines
  recalculate { notebook with lines := lines, cursorLine := place + 1, cursorColumn := 0 }

/-- Join the current line to the one above it.  The cursor stands where they meet. -/
def joinLines (notebook : Notebook) : Except UnreadableDigit Notebook := do
  let removed := notebook.cursorLine
  let above := notebook.lineAt (removed - 1)
  let lines :=
    (notebook.lines.eraseIdx removed).set (removed - 1) (above ++ notebook.currentLine)
  let lines ← Renumbering.allAfterRemoval removed lines
  recalculate
    { notebook with
      lines := lines, cursorLine := removed - 1, cursorColumn := above.toList.length }

/-- Insert a text at the cursor, which moves one column to the right.  A line feed splits the
line. -/
def insert (notebook : Notebook) (text : String) : Except UnreadableDigit Notebook :=
  if text = "\n" then notebook.splitLine
  else
    notebook.editLine (notebook.beforeCursor ++ text.toList ++ notebook.afterCursor)
      (notebook.column + 1)

/-- Delete the character before the cursor.  At the start of a line, join the line to the one above
it; at the start of the notebook, do nothing. -/
def delete (notebook : Notebook) : Except UnreadableDigit Notebook :=
  if 0 < notebook.column then
    notebook.editLine (notebook.beforeCursor.dropLast ++ notebook.afterCursor)
      (notebook.column - 1)
  else if notebook.cursorLine = 0 then .ok notebook
  else notebook.joinLines

/-- Move the cursor as near to a line and a column as there are lines and columns. -/
def moveTo (notebook : Notebook) (line column : Int) : Notebook :=
  let place := (max 0 (min line (notebook.lines.length - 1))).toNat
  let length := (notebook.lineAt place).toList.length
  { notebook with
    cursorLine := place
    cursorColumn := (max 0 (min column length)).toNat }

/-- The content of a notebook. -/
def content (notebook : Notebook) : String :=
  contentOfLines notebook.lines

/-- Replace the content of a notebook.  The cursor returns to the top. -/
def setContent (notebook : Notebook) (content : String) : Except UnreadableDigit Notebook :=
  recalculate
    { notebook with lines := linesOfContent content, cursorLine := 0, cursorColumn := 0 }

/-- A notebook with a given content. -/
def ofContent (content : String) : Except UnreadableDigit Notebook :=
  empty.setContent content

/-- The text of the line at a place.  A negative place counts from the end. -/
def line? (notebook : Notebook) (place : Int) : Option String :=
  let place := if place < 0 then notebook.lines.length + place else place
  if place < 0 then none else notebook.lines[place.toNat]?

end Notebook

end NoteCalc
