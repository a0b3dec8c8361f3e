import NoteCalc.Formula.Evaluation
import NoteCalc.Notebook.ReaderIndex

/-!
# Notebooks

A notebook holds the texts of its lines and, kept in step with them, what each line shows: a result
and an assignment.  Lines observe earlier lines only.  Evaluating all lines from top to bottom is
what a notebook means; evaluating only the readers of what has changed is how it is kept up to date
while a line is edited.
-/

namespace NoteCalc

/-- The lines of a notebook, what they show, and the cursor. -/
structure Notebook where
  lines : List String
  results : List (Option String)
  assignments : List (Option Assignment)
  bindings : Bindings
  readers : ReaderIndex
  cursorLine : Nat := 0
  cursorColumn : Nat := 0

/-- Why an operation on a notebook fails. -/
inductive NotebookError where
  /-- A digit sign where a token has to start. -/
  | unreadable (digit : UnreadableDigit)
  /-- The notebook has no line at this place. -/
  | noSuchLine (place : Int)

/-- The message about a line that is not there. -/
def NotebookError.noSuchLineMessage (place : Int) : String :=
  "line index " ++ toString place ++ " out of range"

namespace Notebook

/-- A notebook with one empty line. -/
def empty : Notebook where
  lines := [""]
  results := [none]
  assignments := [none]
  bindings := []
  readers := {}

/-! ## Evaluating all lines -/

/-- What successive lines show, given the results and the bindings above the first of them. -/
def evaluateLines (results : List (Option String)) (bindings : Bindings) :
    List String → Except UnreadableDigit (List Formula.LineValue)
  | [] => .ok []
  | line :: lines => do
      let shown ← evaluateLine ⟨some bindings, results, results.length⟩ line
      let bindings := shown.assignment.elim bindings (Bindings.assign · bindings)
      return shown :: (← evaluateLines (results ++ [shown.result]) bindings lines)

/-- Evaluate all lines from top to bottom. -/
def recalculate (notebook : Notebook) : Except UnreadableDigit Notebook := do
  let readers ← ReaderIndex.ofLines notebook.lines
  let shown ← evaluateLines [] [] notebook.lines
  let assignments := shown.map Formula.LineValue.assignment
  return { notebook with
    results := shown.map Formula.LineValue.result
    assignments := assignments
    bindings := Bindings.ofAssignments assignments
    readers := readers }

/-- A notebook with given lines and the cursor at the top.  Without lines it has an empty one. -/
def ofLines (lines : List String) : Except UnreadableDigit Notebook :=
  recalculate { empty with lines := if lines.isEmpty then [""] else lines }

/-! ## Evaluating what has changed -/

/-- What the line at a place can observe. -/
def surroundings (notebook : Notebook) (place : Nat) : Surroundings :=
  ⟨some (Bindings.ofAssignments (notebook.assignments.take place)), notebook.results, place⟩

/-- The assignment of the line at a place. -/
def assignmentAt (notebook : Notebook) (place : Nat) : Option Assignment :=
  notebook.assignments[place]?.join

/-- The text of the line at a place. -/
def lineAt (notebook : Notebook) (place : Nat) : String :=
  notebook.lines[place]?.getD ""

/-- Evaluate the line at a place anew. -/
def reevaluate (notebook : Notebook) (place : Nat) : Except UnreadableDigit Notebook := do
  let shown ← evaluateLine (notebook.surroundings place) (notebook.lineAt place)
  return { notebook with
    results := notebook.results.set place shown.result
    assignments := notebook.assignments.set place shown.assignment }

/-- The lines to evaluate again when the assignment of the line at a place has changed: those below
that read the name assigned before or the name assigned now. -/
def woken (notebook : Notebook) (place : Nat) (before after : Option Assignment) : List Int :=
  if after = before then []
  else
    (before.toList ++ after.toList).flatMap fun assignment =>
      notebook.readers.readersAfter assignment.name place

/-- Visit as many successive lines as `count` says, from `place` on, and evaluate those that are
pending.  A line whose assignment changes makes its readers pending; they are below it. -/
def propagate (notebook : Notebook) (place : Nat) (pending : List Int) :
    (count : Nat) → Except UnreadableDigit Notebook
  | 0 => .ok notebook
  | count + 1 =>
      if pending.contains (place : Int) then do
        let revised ← notebook.reevaluate place
        let woken :=
          notebook.woken place (notebook.assignmentAt place) (revised.assignmentAt place)
        revised.propagate (place + 1) (pending ++ woken) count
      else notebook.propagate (place + 1) pending count

/-- Evaluate the line at a place and every line below that reads a variable it changes. -/
def refresh (notebook : Notebook) (place : Nat) : Except UnreadableDigit Notebook := do
  let revised ← notebook.propagate place [(place : Int)] (notebook.lines.length - place)
  return { revised with bindings := Bindings.ofAssignments revised.assignments }

/-- Evaluate the line at a place, if there is one, and every line below that reads a variable it
changes. -/
def update (notebook : Notebook) (place : Int) : Except NotebookError Notebook :=
  if 0 ≤ place ∧ place < notebook.lines.length then
    (notebook.refresh place.toNat).mapError .unreadable
  else .error (.noSuchLine place)

end Notebook

end NoteCalc
