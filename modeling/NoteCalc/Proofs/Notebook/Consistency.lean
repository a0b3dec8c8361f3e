import Mathlib.Data.List.Nodup
import NoteCalc.Proofs.Notebook.History

/-!
# The consistency of a notebook

The tables of a notebook stay parallel to its lines under every series of operations, the index and
the bindings stay those of the lines and the assignments, and the cursor stays on a line.  It also
stays inside that line, with one exception.  Joining two lines puts the cursor where they meet, and
renumbers the references afterwards; a reference before the cursor that becomes shorter leaves the
cursor too far to the right until it moves.
-/

namespace NoteCalc

namespace Bindings

/-- An assignment is made, and none below it is to its name. -/
def LastAssigns (assignments : List (Option Assignment)) (made : Assignment) : Prop :=
  ∃ above below, assignments = above ++ some made :: below ∧
    ∀ later, some later ∈ below → later.name ≠ made.name

theorem lookup_foldl_of_unnamed {assignments : List (Option Assignment)} {name : String}
    (unnamed : ∀ made, some made ∈ assignments → made.name ≠ name) (bindings : Bindings) :
    (assignments.foldl assignAny bindings).lookup name = bindings.lookup name := by
  induction assignments generalizing bindings with
  | nil => rfl
  | cons assignment assignments induction =>
      rw [List.foldl_cons,
        induction fun made member => unnamed made (List.mem_cons_of_mem assignment member)]
      refine lookup_assignAny_of_unnamed ?_ bindings
      intro made isMade
      exact unnamed made (Option.mem_def.mp isMade ▸ List.mem_cons_self ..)

theorem LastAssigns.lookup {assignments : List (Option Assignment)} {made : Assignment}
    (last : LastAssigns assignments made) :
    (ofAssignments assignments).lookup made.name = some made.value := by
  obtain ⟨above, below, rfl, unnamed⟩ := last
  rw [ofAssignments_eq_foldl, List.foldl_append, List.foldl_cons, lookup_foldl_of_unnamed unnamed]
  exact (lookup_assign made _ made.name).trans (if_pos rfl)

/-- A name is either assigned by a last assignment or by none. -/
theorem exists_lastAssigns_or_unnamed (assignments : List (Option Assignment)) (name : String) :
    (∃ made, LastAssigns assignments made ∧ made.name = name) ∨
      ∀ made, some made ∈ assignments → made.name ≠ name := by
  induction assignments with
  | nil => exact .inr fun _ member => absurd member List.not_mem_nil
  | cons assignment assignments induction =>
      rcases induction with ⟨made, ⟨above, below, rfl, unnamed⟩, named⟩ | unnamed
      · exact .inl ⟨made, ⟨assignment :: above, below, rfl, unnamed⟩, named⟩
      · by_cases here : ∃ made, assignment = some made ∧ made.name = name
        · obtain ⟨made, rfl, rfl⟩ := here
          exact .inl ⟨made, ⟨[], assignments, rfl, unnamed⟩, rfl⟩
        · refine .inr fun made member named => ?_
          rcases List.mem_cons.mp member with first | later
          · exact here ⟨made, first.symm, named⟩
          · exact unnamed made later named

/-- The bindings hold the last value that each name is assigned, and nothing else. -/
theorem lookup_ofAssignments_iff {assignments : List (Option Assignment)} {made : Assignment} :
    (ofAssignments assignments).lookup made.name = some made.value ↔
      LastAssigns assignments made := by
  constructor
  · intro bound
    rcases exists_lastAssigns_or_unnamed assignments made.name with ⟨last, isLast, named⟩ | unnamed
    · have same : some last.value = some made.value := by rw [← isLast.lookup, named, bound]
      have isMade : last = made := by
        cases last
        cases made
        exact Assignment.mk.injEq .. ▸ ⟨named, Option.some.inj same⟩
      exact isMade ▸ isLast
    · rw [ofAssignments_eq_foldl, lookup_foldl_of_unnamed unnamed] at bound
      exact absurd bound (by simp)
  · exact LastAssigns.lookup

theorem names_assign (assignment : Assignment) (bindings : Bindings) :
    (assign assignment bindings).names =
      if assignment.name ∈ bindings.names then bindings.names
      else bindings.names ++ [assignment.name] := by
  induction bindings with
  | nil => rfl
  | cons binding bindings induction =>
      obtain ⟨bound, value⟩ := binding
      unfold assign
      split
      · rename_i here
        simp [names, here]
      · rename_i elsewhere
        have others : names (assign assignment bindings) = _ := induction
        unfold names at others ⊢
        simp only [List.map_cons, others, List.mem_cons, Ne.symm elsewhere, false_or]
        split <;> rfl

theorem nodup_names_assign {bindings : Bindings} (distinct : bindings.names.Nodup)
    (assignment : Assignment) : (assign assignment bindings).names.Nodup := by
  rw [names_assign]
  split
  · exact distinct
  · rename_i fresh
    exact List.Nodup.append distinct (List.nodup_singleton _) (by simpa using fresh)

theorem nodup_names_foldl {bindings : Bindings} (distinct : bindings.names.Nodup)
    (assignments : List (Option Assignment)) :
    (names (assignments.foldl assignAny bindings)).Nodup := by
  induction assignments generalizing bindings with
  | nil => exact distinct
  | cons assignment assignments induction =>
      rw [List.foldl_cons]
      cases assignment with
      | none => exact induction distinct
      | some made => exact induction (nodup_names_assign distinct made)

/-- The bindings that assignments leave have one entry for each name. -/
theorem nodup_names_ofAssignments (assignments : List (Option Assignment)) :
    (ofAssignments assignments).names.Nodup :=
  @nodup_names_foldl [] List.nodup_nil assignments

end Bindings

namespace Renumbering

theorem allAfterRemoval_getElem? {place : Int} {lines renumbered : List String}
    (done : allAfterRemoval place lines = .ok renumbered) {line : Nat} {text : String}
    (isLine : lines[line]? = some text) :
    ∃ respelt, renumbered[line]? = some respelt ∧ afterRemoval place text = .ok respelt := by
  have pairs := mapM_eq_ok_iff.mp done
  obtain ⟨inside, rfl⟩ := List.getElem?_eq_some_iff.mp isLine
  have insideToo : line < renumbered.length := pairs.length_eq ▸ inside
  exact ⟨renumbered[line], List.getElem?_eq_getElem insideToo,
    (List.forall₂_iff_get.mp pairs).2 line inside insideToo⟩

end Renumbering

namespace Notebook

/-! ## Series of operations -/

/-- An operation on a notebook. -/
inductive Operation where
  | insert (text : String)
  | delete
  | splitLine
  | moveTo (line column : Int)
  | update (place : Int)
  | recalculate
  | setContent (content : String)
deriving Repr, DecidableEq

/-- Carry out an operation. -/
def perform (notebook : Notebook) : Operation → Except NotebookError Notebook
  | .insert text => (notebook.insert text).mapError .unreadable
  | .delete => notebook.delete.mapError .unreadable
  | .splitLine => notebook.splitLine.mapError .unreadable
  | .moveTo line column => .ok (notebook.moveTo line column)
  | .update place => notebook.update place
  | .recalculate => notebook.recalculate.mapError .unreadable
  | .setContent content => (notebook.setContent content).mapError .unreadable

/-- Carry out a series of operations, as long as they succeed. -/
def run (notebook : Notebook) (operations : List Operation) : Except NotebookError Notebook :=
  operations.foldlM perform notebook

/-- A notebook with which a series of operations starts. -/
inductive Starts : Notebook → Prop where
  | empty : Starts empty
  | ofLines {lines : List String} {notebook : Notebook} (done : ofLines lines = .ok notebook) :
      Starts notebook

variable {notebook next : Notebook}

theorem step_of_perform {operation : Operation} (done : notebook.perform operation = .ok next) :
    notebook.Step next := by
  cases operation with
  | insert text => exact .insert text (mapError_eq_ok_iff.mp done)
  | delete => exact .delete (mapError_eq_ok_iff.mp done)
  | splitLine => exact .splitLine (mapError_eq_ok_iff.mp done)
  | moveTo line column => exact .moveTo line column (Except.ok.inj done).symm
  | update place => exact .update place done
  | recalculate => exact .recalculate (mapError_eq_ok_iff.mp done)
  | setContent content => exact .setContent content (mapError_eq_ok_iff.mp done)

theorem Kept.perform (kept : notebook.Kept) {operation : Operation}
    (done : notebook.perform operation = .ok next) : next.Kept :=
  kept.step (step_of_perform done)

theorem Starts.kept (starts : notebook.Starts) : notebook.Kept := by
  cases starts with
  | empty => exact Reached.empty.kept
  | ofLines done => exact (Reached.ofLines done).kept

/-! ## The cursor inside its line -/

/-- The cursor is not to the right of its line. -/
def CursorInside (notebook : Notebook) : Prop :=
  notebook.cursorColumn ≤ notebook.currentLine.toList.length

/-- The current line joined to the one above it, with its references renumbered. -/
def joinedLine? (notebook : Notebook) : Option String :=
  (Renumbering.afterRemoval notebook.cursorLine
    (notebook.lineAt (notebook.cursorLine - 1) ++ notebook.currentLine)).toOption

/-- If deleting joins the current line to the one above it, then the joined line is not shorter
than the one above was. -/
def JoinsInside (notebook : Notebook) : Prop :=
  notebook.column = 0 → notebook.cursorLine ≠ 0 → ∀ joined ∈ notebook.joinedLine?,
    (notebook.lineAt (notebook.cursorLine - 1)).toList.length ≤ joined.toList.length

instance (notebook : Notebook) : Decidable notebook.JoinsInside :=
  inferInstanceAs (Decidable (notebook.column = 0 → notebook.cursorLine ≠ 0 →
    ∀ joined ∈ notebook.joinedLine?,
      (notebook.lineAt (notebook.cursorLine - 1)).toList.length ≤ joined.toList.length))

theorem recalculate_cursorColumn (done : notebook.recalculate = .ok next) :
    next.cursorColumn = notebook.cursorColumn := by
  obtain ⟨readers, shown, -, -, rfl⟩ := recalculate_eq_ok_iff.mp done
  rfl

theorem cursorInside_of_column_eq_zero (atStart : notebook.cursorColumn = 0) :
    notebook.CursorInside := by
  unfold CursorInside
  rw [atStart]
  exact Nat.zero_le _

/-- What keeps the lines and the cursor keeps the cursor inside its line. -/
theorem CursorInside.congr (inside : notebook.CursorInside) (lines : next.lines = notebook.lines)
    (cursorLine : next.cursorLine = notebook.cursorLine)
    (cursorColumn : next.cursorColumn = notebook.cursorColumn) : next.CursorInside := by
  unfold CursorInside currentLine lineAt at inside ⊢
  rw [lines, cursorLine, cursorColumn]
  exact inside

theorem editLine_cursorInside {text : List Char} {column : Nat}
    (onLine : notebook.cursorLine < notebook.lines.length) (within : column ≤ text.length)
    (done : notebook.editLine text column = .ok next) : next.CursorInside := by
  unfold CursorInside currentLine lineAt
  rw [editLine_lines done, editLine_cursorLine done, editLine_cursorColumn done,
    List.getElem?_set_self onLine, Option.getD_some, String.toList_ofList]
  exact within

theorem length_beforeCursor (notebook : Notebook) :
    notebook.beforeCursor.length = notebook.column := by
  unfold beforeCursor
  rw [List.length_take]
  exact Nat.min_eq_left (Nat.min_le_right ..)

theorem splitLine_cursorInside (done : notebook.splitLine = .ok next) : next.CursorInside := by
  obtain ⟨lines, -, rest⟩ := bind_eq_ok_iff.mp done
  exact cursorInside_of_column_eq_zero (recalculate_cursorColumn rest)

theorem insert_cursorInside {text : String} (nonempty : text ≠ "")
    (onLine : notebook.cursorLine < notebook.lines.length)
    (done : notebook.insert text = .ok next) : next.CursorInside := by
  unfold Notebook.insert at done
  split at done
  · exact splitLine_cursorInside done
  · refine editLine_cursorInside onLine ?_ done
    have some : 0 < text.toList.length := by
      refine List.length_pos_iff.mpr fun isEmpty => nonempty ?_
      exact String.toList_eq_nil_iff.mp isEmpty
    rw [List.length_append, List.length_append, length_beforeCursor]
    omega

theorem joinLines_cursorInside (joins : notebook.JoinsInside) (atStart : notebook.column = 0)
    (notFirst : notebook.cursorLine ≠ 0) (onLine : notebook.cursorLine < notebook.lines.length)
    (done : notebook.joinLines = .ok next) : next.CursorInside := by
  obtain ⟨lines, renumbered, rest⟩ := bind_eq_ok_iff.mp done
  obtain ⟨sameLines, sameCursor⟩ := recalculate_lines rest
  have column := recalculate_cursorColumn rest
  -- The column is the length of the upper line, taken before the joined line is renumbered.
  have isLine : notebook.cursorLine - 1 < (notebook.lines.eraseIdx notebook.cursorLine).length := by
    rw [List.length_eraseIdx_of_lt onLine]
    omega
  obtain ⟨joined, isJoined, respelt⟩ :=
    Renumbering.allAfterRemoval_getElem? renumbered (List.getElem?_set_self isLine)
  have isJoinedLine : notebook.joinedLine? = some joined := by
    unfold joinedLine?
    rw [respelt]
    rfl
  unfold CursorInside currentLine lineAt
  rw [column, sameLines, sameCursor, isJoined]
  exact joins atStart notFirst joined isJoinedLine

theorem delete_cursorInside (inside : notebook.CursorInside) (joins : notebook.JoinsInside)
    (onLine : notebook.cursorLine < notebook.lines.length)
    (done : notebook.delete = .ok next) : next.CursorInside := by
  have unfolded := done
  unfold Notebook.delete at unfolded
  split at unfolded
  · refine editLine_cursorInside onLine ?_ unfolded
    rw [List.length_append, List.length_dropLast, length_beforeCursor]
    exact Nat.le_add_right ..
  · split at unfolded
    · rw [← Except.ok.inj unfolded]
      exact inside
    · rename_i outside notFirst
      exact joinLines_cursorInside joins (Nat.eq_zero_of_not_pos outside) notFirst onLine unfolded

theorem moveTo_cursorInside (line column : Int) : (notebook.moveTo line column).CursorInside := by
  unfold CursorInside
  have clamped (length : Nat) : (max 0 (min column length)).toNat ≤ length := by omega
  exact clamped _

theorem update_cursorInside (inside : notebook.CursorInside) {place : Int}
    (done : notebook.update place = .ok next) : next.CursorInside := by
  unfold Notebook.update at done
  split at done
  · have refreshed := mapError_eq_ok_iff.mp done
    exact inside.congr (refresh_lines refreshed) (refresh_cursorLine refreshed)
      (refresh_cursorColumn refreshed)
  · exact absurd done (by simp)

theorem CursorInside.perform (inside : notebook.CursorInside)
    (onLine : notebook.cursorLine < notebook.lines.length) {operation : Operation}
    (typed : operation ≠ .insert "") (joins : operation = .delete → notebook.JoinsInside)
    (done : notebook.perform operation = .ok next) : next.CursorInside := by
  cases operation with
  | insert text =>
      have nonempty : text ≠ "" := fun isEmpty => typed (isEmpty ▸ rfl)
      exact insert_cursorInside nonempty onLine (mapError_eq_ok_iff.mp done)
  | delete => exact delete_cursorInside inside (joins rfl) onLine (mapError_eq_ok_iff.mp done)
  | splitLine => exact splitLine_cursorInside (mapError_eq_ok_iff.mp done)
  | moveTo line column =>
      rw [← Except.ok.inj done]
      exact moveTo_cursorInside line column
  | update place => exact update_cursorInside inside done
  | recalculate =>
      have recalculated := mapError_eq_ok_iff.mp done
      obtain ⟨sameLines, sameCursor⟩ := recalculate_lines recalculated
      exact inside.congr sameLines sameCursor (recalculate_cursorColumn recalculated)
  | setContent content =>
      have recalculated := mapError_eq_ok_iff.mp done
      exact cursorInside_of_column_eq_zero (recalculate_cursorColumn recalculated)

theorem Starts.cursorInside (starts : notebook.Starts) : notebook.CursorInside := by
  cases starts with
  | empty => exact Nat.zero_le _
  | ofLines done => exact cursorInside_of_column_eq_zero (recalculate_cursorColumn done)

/-! ## Every series of operations -/

/-- Wherever deleting joins two lines in a series of operations, the joined line is not shorter than
the upper one was. -/
def AllJoinInside : Notebook → List Operation → Prop
  | _, [] => True
  | notebook, operation :: operations =>
      (operation = .delete → notebook.JoinsInside) ∧
        ∀ next ∈ (notebook.perform operation).toOption, next.AllJoinInside operations

instance decidableAllJoinInside :
    (notebook : Notebook) → (operations : List Operation) →
      Decidable (notebook.AllJoinInside operations)
  | _, [] => inferInstanceAs (Decidable True)
  | notebook, operation :: operations =>
      have (next : Notebook) := decidableAllJoinInside next operations
      inferInstanceAs (Decidable ((operation = .delete → notebook.JoinsInside) ∧
        ∀ next ∈ (notebook.perform operation).toOption, next.AllJoinInside operations))

/-- The tables of a notebook are parallel to its lines, the index and the bindings are those of the
lines and of the assignments, and the cursor is on a line. -/
structure Consistent (notebook : Notebook) : Prop where
  lines : notebook.lines ≠ []
  results : notebook.results.length = notebook.lines.length
  assignments : notebook.assignments.length = notebook.lines.length
  cursorLine : notebook.cursorLine < notebook.lines.length
  readers : ReaderIndex.ofLines notebook.lines = .ok notebook.readers
  names : notebook.bindings.names.Nodup
  bindings : ∀ name value, notebook.bindings.lookup name = some value ↔
    Bindings.LastAssigns notebook.assignments ⟨name, value⟩

theorem Kept.consistent (kept : notebook.Kept) : notebook.Consistent where
  lines := List.length_pos_iff.mp (Nat.zero_lt_of_lt kept.inside)
  results := kept.results
  assignments := kept.assignments
  cursorLine := kept.inside
  readers := ReaderIndex.ofLines_eq_ok_iff.mpr ⟨kept.readable, kept.readers⟩
  names := kept.bindings ▸ Bindings.nodup_names_ofAssignments notebook.assignments
  bindings := fun name value =>
    kept.bindings ▸ @Bindings.lookup_ofAssignments_iff notebook.assignments ⟨name, value⟩

theorem run_cons_eq_ok_iff {operation : Operation} {operations : List Operation} {last : Notebook} :
    notebook.run (operation :: operations) = .ok last ↔
      ∃ next, notebook.perform operation = .ok next ∧ next.run operations = .ok last := by
  unfold run
  rw [List.foldlM_cons]
  exact bind_eq_ok_iff

theorem Kept.run (kept : notebook.Kept) {operations : List Operation} {last : Notebook}
    (done : notebook.run operations = .ok last) : last.Kept := by
  induction operations generalizing notebook with
  | nil => exact Except.ok.inj done ▸ kept
  | cons operation operations induction =>
      obtain ⟨next, performed, rest⟩ := run_cons_eq_ok_iff.mp done
      exact induction (kept.perform performed) rest

theorem CursorInside.run (inside : notebook.CursorInside) (kept : notebook.Kept)
    {operations : List Operation} {last : Notebook} (typed : .insert "" ∉ operations)
    (joins : notebook.AllJoinInside operations) (done : notebook.run operations = .ok last) :
    last.CursorInside := by
  induction operations generalizing notebook with
  | nil => exact Except.ok.inj done ▸ inside
  | cons operation operations induction =>
      obtain ⟨next, performed, rest⟩ := run_cons_eq_ok_iff.mp done
      obtain ⟨here, later⟩ := joins
      have first : operation ≠ .insert "" := fun same => typed (same ▸ List.mem_cons_self ..)
      refine induction (inside.perform kept.inside first here performed) (kept.perform performed)
        (fun member => typed (List.mem_cons_of_mem operation member)) ?_ rest
      exact later next (by rw [performed]; rfl)

/-- A notebook is consistent after every series of operations.  Its cursor is also inside its line
if no empty text is inserted and no joined line is shorter than the upper one was. -/
theorem consistent_of_run {start last : Notebook} {operations : List Operation}
    (starts : start.Starts) (done : start.run operations = .ok last) :
    last.Consistent ∧
      (.insert "" ∉ operations → start.AllJoinInside operations → last.CursorInside) :=
  ⟨(starts.kept.run done).consistent,
    fun typed joins => starts.cursorInside.run starts.kept typed joins done⟩

deriving instance DecidableEq for NotebookError

/-- A digit is typed into the first of three lines, and the last two lines are joined. -/
theorem consistent_after_typing_and_joining :
    ∃ start last, ofLines ["x = 5", "y = x * 2", ""] = .ok start ∧
      start.run [.moveTo 0 5, .insert "0", .moveTo 2 0, .delete] = .ok last ∧
      last.results = [some "50", some "100"] ∧ last.cursorColumn = 9 ∧
      last.Consistent ∧ last.CursorInside := by
  let start : Notebook :=
    { lines := ["x = 5", "y = x * 2", ""]
      results := [some "5", some "10", none]
      assignments := [some ⟨"x", "5"⟩, some ⟨"y", "10"⟩, none]
      bindings := [("x", "5"), ("y", "10")]
      readers := { reads := [(1, ["x"])], readers := [("x", [1])] } }
  let last : Notebook :=
    { lines := ["x = 50", "y = x * 2"]
      results := [some "50", some "100"]
      assignments := [some ⟨"x", "50"⟩, some ⟨"y", "100"⟩]
      bindings := [("x", "50"), ("y", "100")]
      readers := { reads := [(1, ["x"])], readers := [("x", [1])] }
      cursorLine := 1
      cursorColumn := 9 }
  have built : ofLines ["x = 5", "y = x * 2", ""] = .ok start := by decide +kernel
  have done : start.run [.moveTo 0 5, .insert "0", .moveTo 2 0, .delete] = .ok last := by
    decide +kernel
  obtain ⟨consistent, inside⟩ := consistent_of_run (.ofLines built) done
  exact ⟨start, last, built, done, rfl, rfl, consistent, inside (by decide) (by decide +kernel)⟩

/-- A reference that becomes shorter when its line is joined leaves the cursor outside. -/
theorem cursor_outside_after_joining :
    ∃ start last, ofLines ["line10", ""] = .ok start ∧
      start.run [.moveTo 1 0, .delete] = .ok last ∧
      last.lines = ["line9"] ∧ last.cursorLine = 0 ∧ last.cursorColumn = 6 ∧
      ¬last.CursorInside := by
  let start : Notebook :=
    { lines := ["line10", ""]
      results := [none, none]
      assignments := [none, none]
      bindings := []
      readers := {} }
  let last : Notebook :=
    { lines := ["line9"]
      results := [none]
      assignments := [none]
      bindings := []
      readers := {}
      cursorColumn := 6 }
  have built : ofLines ["line10", ""] = .ok start := by decide +kernel
  have done : start.run [.moveTo 1 0, .delete] = .ok last := by decide +kernel
  exact ⟨start, last, built, done, rfl, rfl, rfl, by unfold CursorInside; decide⟩

end Notebook

end NoteCalc
