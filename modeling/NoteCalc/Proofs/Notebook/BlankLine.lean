import NoteCalc.Proofs.Notebook.History
import NoteCalc.Proofs.Notebook.ShiftedLines

/-!
# A blank line

Splitting a line behind its last character inserts an empty line.  All other lines are renumbered,
and every one of them shows what it showed before.
-/

namespace NoteCalc

open NoteCalc.Text

/-! ## Renumbering around an inserted line -/

namespace Renumbering

/-- A text differs from a line at most inside the spans of the references of the line. -/
def DiffersInReferences (line new : String) : Prop :=
  ∃ scanned edits, scan line = .ok scanned ∧ Replaces 0 line.toList edits new.toList ∧
    ∀ edit ∈ edits, ∃ token ∈ scanned.tokens,
      token.span = edit.1 ∧ ∃ written, token.kind = .reference written

/-- Edits of references make a text that differs from a line in its references. -/
theorem differsInReferences_of_mapM {respell : Nat → Except UnreadableDigit (Option String)}
    {line new : String} {scanned : Scan} {edits : List (Option (Span × List Char))}
    (isScan : scan line = .ok scanned) (edited : scanned.tokens.mapM (edit? respell) = .ok edits)
    (replaces : Replaces 0 line.toList (edits.filterMap id) new.toList) :
    DiffersInReferences line new := by
  refine ⟨scanned, _, isScan, replaces, fun edit member => ?_⟩
  obtain ⟨token, isToken, written, text, kind, -, rfl⟩ :=
    exists_reference_of_mem_edits edited member
  exact ⟨token, isToken, rfl, written, kind⟩

/-- One line is another one, renumbered for a line that is inserted at a place. -/
structure MovesTo (place : Nat) (text moved : String) : Prop where
  renumbered : afterInsertion place text = .ok moved
  readable : ReaderIndex.Readable moved
  differs : DiffersInReferences text moved

theorem movesTo_of_afterInsertion {place : Nat} {text moved : String}
    (renumbered : afterInsertion place text = .ok moved) : MovesTo place text moved := by
  obtain ⟨-, rescanned, -, isRescan, -⟩ :=
    Respelling.scan_of_respellReferences (writes_insertion place) renumbered
  obtain ⟨scanned, edits, isScan, edited, replaces⟩ :=
    Respelling.replaces_of_respellReferences (writes_insertion place) renumbered
  exact ⟨renumbered, ⟨rescanned, isRescan⟩, differsInReferences_of_mapM isScan edited replaces⟩

/-- A line can be renumbered if it can be scanned and all its references can be moved. -/
theorem exists_movesTo_iff {place : Nat} {text : String} (readable : ReaderIndex.Readable text) :
    (∃ moved, MovesTo place text moved) ↔ MovableFrom place text := by
  constructor
  · rintro ⟨moved, moves⟩
    obtain ⟨scanned, isScan, succeeds⟩ := exists_scan_of_respellReferences moves.renumbered
    exact (succeeds_insertion_iff isScan).mp succeeds
  · intro movable
    obtain ⟨scanned, isScan⟩ := readable
    have succeeds := (succeeds_insertion_iff isScan).mpr movable
    have renumbered := Respelling.respellReferences_eq_text (writes_insertion place) isScan succeeds
    exact ⟨_, movesTo_of_afterInsertion renumbered⟩

variable {place first skipped : Nat} {lines renumbered : List String}

theorem exists_allMoveTo_iff (readable : ∀ line ∈ lines, ReaderIndex.Readable line) :
    (∃ moved, List.Forall₂ (MovesTo place) lines moved) ↔
      ∀ line ∈ lines, MovableFrom place line := by
  rw [RelatedLists.exists_right_iff]
  exact forall₂_congr fun line member => exists_movesTo_iff (readable line member)

/-- Below the skipped line every line is renumbered. -/
theorem allAfterInsertion_below_eq_ok_iff (below : skipped < first) :
    allAfterInsertion place (some (skipped : Int)) first lines = .ok renumbered ↔
      List.Forall₂ (MovesTo place) lines renumbered := by
  induction lines generalizing first renumbered with
  | nil => rw [allAfterInsertion, Except.ok.injEq, List.forall₂_nil_left_iff, eq_comm]
  | cons line lines induction =>
      have other : some (skipped : Int) ≠ some (first : Int) := by simp; omega
      rw [allAfterInsertion_cons_eq_ok_iff, List.forall₂_cons_left_iff]
      simp only [if_neg other, induction (Nat.lt_succ_of_lt below)]
      constructor
      · rintro ⟨moved, rest, rfl, isMoved, moves⟩
        exact ⟨moved, rest, movesTo_of_afterInsertion isMoved, moves, rfl⟩
      · rintro ⟨moved, rest, move, moves, rfl⟩
        exact ⟨moved, rest, rfl, move.renumbered, moves⟩

/-- With an inserted line that is skipped, all other lines are renumbered. -/
theorem allAfterInsertion_insertIdx_eq_ok_iff {inserted : String}
    (inside : skipped ≤ lines.length) :
    allAfterInsertion place (some ((first + skipped : Nat) : Int)) first
        (lines.insertIdx skipped inserted) = .ok renumbered ↔
      ∃ moved, List.Forall₂ (MovesTo place) lines moved ∧
        moved.insertIdx skipped inserted = renumbered := by
  -- The induction walks down to the inserted line; below it nothing is skipped any more.
  induction skipped generalizing first lines renumbered with
  | zero =>
      rw [List.insertIdx_zero, allAfterInsertion_cons_eq_ok_iff]
      simp only [Nat.add_zero, if_true, Except.ok.injEq,
        allAfterInsertion_below_eq_ok_iff (Nat.lt_succ_self first), List.insertIdx_zero]
      constructor
      · rintro ⟨_, rest, rfl, rfl, moves⟩
        exact ⟨rest, moves, rfl⟩
      · rintro ⟨moved, moves, rfl⟩
        exact ⟨_, moved, rfl, rfl, moves⟩
  | succ skipped induction =>
      cases lines with
      | nil => exact absurd inside (Nat.not_succ_le_zero skipped)
      | cons line lines =>
          have other : some ((first + (skipped + 1) : Nat) : Int) ≠ some (first : Int) := by
            simp; omega
          have rest (others : List String) :=
            @induction (first + 1) lines others (Nat.le_of_succ_le_succ inside)
          rw [Nat.add_right_comm, Nat.add_assoc] at rest
          rw [List.insertIdx_succ_cons, allAfterInsertion_cons_eq_ok_iff]
          simp only [if_neg other, rest]
          constructor
          · rintro ⟨respelt, _, rfl, isRespelt, moved, moves, rfl⟩
            exact ⟨respelt :: moved, .cons (movesTo_of_afterInsertion isRespelt) moves, rfl⟩
          · rintro ⟨_, allMove, rfl⟩
            obtain ⟨respelt, moved, move, moves, rfl⟩ := List.forall₂_cons_left_iff.mp allMove
            exact ⟨respelt, _, rfl, move.renumbered, moved, moves, rfl⟩

end Renumbering

open Renumbering

/-! ## Inserting a blank line -/

namespace Bindings

theorem foldl_assignAny_eq_foldl_filterMap (assignments : List (Option Assignment))
    (bindings : Bindings) :
    assignments.foldl assignAny bindings =
      (assignments.filterMap id).foldl (fun bindings made => assign made bindings) bindings := by
  induction assignments generalizing bindings with
  | nil => rfl
  | cons assignment assignments induction =>
      cases assignment with
      | none => exact induction bindings
      | some made => exact induction (assign made bindings)

/-- Lines that assign nothing do not count for the bindings. -/
theorem ofAssignments_congr {first second : List (Option Assignment)}
    (same : first.filterMap id = second.filterMap id) :
    ofAssignments first = ofAssignments second := by
  rw [ofAssignments_eq_foldl, ofAssignments_eq_foldl, foldl_assignAny_eq_foldl_filterMap, same,
    foldl_assignAny_eq_foldl_filterMap]

end Bindings

namespace Notebook

variable {notebook : Notebook} {place : Nat} {moved : List String} {readers : ReaderIndex}

/-- A notebook with an empty line inserted at a place, the other lines moved, and the cursor on the
new line. -/
def withBlankLine (notebook : Notebook) (place : Nat) (moved : List String)
    (readers : ReaderIndex) : Notebook where
  lines := moved.insertIdx place ""
  results := notebook.results.insertIdx place none
  assignments := notebook.assignments.insertIdx place none
  bindings := notebook.bindings
  readers := readers
  cursorLine := place

theorem ofAssignments_take_insertIdx_shift (assignments : List (Option Assignment))
    (place line : Nat) :
    Bindings.ofAssignments ((assignments.insertIdx place none).take (shift place line)) =
      Bindings.ofAssignments (assignments.take line) :=
  Bindings.ofAssignments_congr (filterMap_take_insertIdx_shift assignments place line)

theorem ofAssignments_insertIdx (assignments : List (Option Assignment)) (place : Nat) :
    Bindings.ofAssignments (assignments.insertIdx place none) =
      Bindings.ofAssignments assignments := by
  have whole : (assignments.insertIdx place none).length ≤ shift place assignments.length :=
    Nat.le_of_eq (length_insertIdx_shift assignments none place)
  have same := ofAssignments_take_insertIdx_shift assignments place assignments.length
  rwa [List.take_of_length_le whole, List.take_length] at same

/-- The results and the assignments of a notebook are those of another one and nothing for an
inserted line. -/
structure AddsNothingAt (larger : Notebook) (place : Nat) (notebook : Notebook) : Prop where
  results : larger.results = notebook.results.insertIdx place none
  assignments : larger.assignments = notebook.assignments.insertIdx place none

/-- A line shows its value at its new place if and only if it did at its old one. -/
theorem AddsNothingAt.showsValueAt_shift_iff {larger : Notebook} {line : Nat}
    (adds : larger.AddsNothingAt place notebook)
    (alike : evaluateLine
        ⟨some (Bindings.ofAssignments (notebook.assignments.take line)),
          notebook.results.insertIdx place none, shift place line⟩
        (larger.lineAt (shift place line)) =
      evaluateLine (notebook.surroundings line) (notebook.lineAt line)) :
    larger.ShowsValueAt (shift place line) ↔ notebook.ShowsValueAt line := by
  have shown : larger.shownAt (shift place line) = notebook.shownAt line := by
    unfold shownAt assignmentAt
    simp only [adds.results, adds.assignments, getElem?_insertIdx_shift]
  unfold ShowsValueAt
  rw [shown, ← alike, surroundings, adds.results, adds.assignments,
    ofAssignments_take_insertIdx_shift]

theorem withBlankLine_inStep (inStep : notebook.InStep)
    (moves : List.Forall₂ (MovesTo place) notebook.lines moved)
    (indexed : ReaderIndex.ofLines (moved.insertIdx place "") = .ok readers) :
    (notebook.withBlankLine place moved readers).InStep where
  results := by
    unfold withBlankLine
    rw [length_insertIdx_shift, length_insertIdx_shift, inStep.results, moves.length_eq]
  assignments := by
    unfold withBlankLine
    rw [length_insertIdx_shift, length_insertIdx_shift, inStep.assignments, moves.length_eq]
  readable := (ReaderIndex.ofLines_eq_ok_iff.mp indexed).1
  readers := (ReaderIndex.ofLines_eq_ok_iff.mp indexed).2
  bindings := by
    unfold withBlankLine
    rw [ofAssignments_insertIdx, inStep.bindings]

theorem evaluateLine_blank (surroundings : Surroundings) :
    evaluateLine surroundings "" = .ok {} := by
  have nothing : scan "" = .ok {} := Scan.scan_eq_ok_iff.mpr .done
  have refused : tokens? "" = .ok none := by
    unfold tokens?
    rw [nothing]
    rfl
  exact evaluateLine_of_refused refused surroundings

theorem withBlankLine_showsValueAt_blank (inStep : notebook.InStep)
    (moves : List.Forall₂ (MovesTo place) notebook.lines moved)
    (inside : place ≤ notebook.lines.length) :
    (notebook.withBlankLine place moved readers).ShowsValueAt place := by
  have isMoved : place ≤ moved.length := moves.length_eq ▸ inside
  have isResult : place ≤ notebook.results.length := inStep.results.symm ▸ inside
  have isAssignment : place ≤ notebook.assignments.length := inStep.assignments.symm ▸ inside
  have blank : (notebook.withBlankLine place moved readers).lineAt place = "" := by
    simp [lineAt, withBlankLine, List.getElem?_insertIdx_self, isMoved]
  have shown : (notebook.withBlankLine place moved readers).shownAt place = {} := by
    simp [shownAt, assignmentAt, withBlankLine, List.getElem?_insertIdx_self, isResult,
      isAssignment]
  unfold ShowsValueAt
  rw [blank, shown]
  exact evaluateLine_blank _

/-- A moved line shows what the line showed. -/
theorem withBlankLine_showsValueAt_shift (positive : 0 < place) {line : Nat}
    (isLine : line < notebook.lines.length)
    (moves : List.Forall₂ (MovesTo place) notebook.lines moved)
    (shows : notebook.ShowsValueAt line) :
    (notebook.withBlankLine place moved readers).ShowsValueAt (shift place line) := by
  have isMoved : line < moved.length := moves.length_eq ▸ isLine
  have move := (List.forall₂_iff_get.mp moves).2 line isLine isMoved
  have here : notebook.lineAt line = notebook.lines[line] := by
    simp [lineAt, isLine]
  have there : (notebook.withBlankLine place moved readers).lineAt (shift place line) =
      moved[line] := by
    unfold lineAt withBlankLine
    simp only [getElem?_insertIdx_shift, List.getElem?_eq_getElem isMoved, Option.getD_some]
  have renumbered : afterInsertion place (notebook.lineAt line) =
      .ok ((notebook.withBlankLine place moved readers).lineAt (shift place line)) := by
    rw [here, there]
    exact move.renumbered
  have adds : (notebook.withBlankLine place moved readers).AddsNothingAt place notebook :=
    ⟨rfl, rfl⟩
  exact (adds.showsValueAt_shift_iff (evaluateLine_movedDown positive renumbered)).mpr shows

/-- With a blank line inserted below its first line, a coherent notebook is coherent again. -/
theorem Coherent.withBlankLine (coherent : notebook.Coherent) (positive : 0 < place)
    (moves : List.Forall₂ (MovesTo place) notebook.lines moved)
    (inside : place ≤ notebook.lines.length)
    (indexed : ReaderIndex.ofLines (moved.insertIdx place "") = .ok readers) :
    (notebook.withBlankLine place moved readers).Coherent := by
  obtain ⟨inStep, shows⟩ := coherent_iff.mp coherent
  refine coherent_iff.mpr ⟨withBlankLine_inStep inStep moves indexed, ?_⟩
  intro other isLine
  by_cases here : other = place
  · rw [here]
    exact withBlankLine_showsValueAt_blank inStep moves inside
  · -- Any other place is the new place of a line.
    obtain ⟨line, rfl⟩ := exists_shift_of_ne here
    have isBefore : line < notebook.lines.length := by
      unfold Notebook.withBlankLine at isLine
      rw [length_insertIdx_shift, ← moves.length_eq] at isLine
      by_contra outside
      exact Nat.not_le_of_lt isLine (shift_le_shift_iff.mpr (Nat.le_of_not_lt outside))
    exact withBlankLine_showsValueAt_shift positive isBefore moves (shows line isBefore)

/-! ## Splitting a line at its end -/

/-- The results, the assignments and the bindings of a notebook are what evaluating all lines
gives. -/
def Evaluated (notebook : Notebook) : Prop :=
  ∃ recalculated, notebook.recalculate = .ok recalculated ∧
    recalculated.results = notebook.results ∧
    recalculated.assignments = notebook.assignments ∧ recalculated.bindings = notebook.bindings

/-- An evaluated notebook is coherent but for its reader index. -/
theorem Evaluated.exists_coherent (evaluated : notebook.Evaluated) :
    ∃ readers, Coherent { notebook with readers := readers } := by
  obtain ⟨recalculated, done, results, assignments, bindings⟩ := evaluated
  have coherent := coherent_of_recalculate done
  obtain ⟨readers, shown, -, -, rfl⟩ := recalculate_eq_ok_iff.mp done
  simp only at results assignments bindings
  refine ⟨readers, ?_⟩
  rw [← results, ← assignments, ← bindings]
  exact coherent

theorem splitLine_lines_atEnd (onLine : notebook.cursorLine < notebook.lines.length)
    (atEnd : notebook.currentLine.toList.length ≤ notebook.cursorColumn) :
    (notebook.lines.set notebook.cursorLine (String.ofList notebook.beforeCursor)).insertIdx
        (notebook.cursorLine + 1) (String.ofList notebook.afterCursor) =
      notebook.lines.insertIdx (notebook.cursorLine + 1) "" := by
  have column : notebook.column = notebook.currentLine.toList.length := Nat.min_eq_right atEnd
  have before : String.ofList notebook.beforeCursor = notebook.currentLine := by
    unfold beforeCursor
    rw [column, List.take_length, String.ofList_toList]
  have after : String.ofList notebook.afterCursor = "" := by
    unfold afterCursor
    rw [column, List.drop_length]
  have here : notebook.currentLine = notebook.lines[notebook.cursorLine] := by
    simp [currentLine, lineAt, onLine]
  have unchanged : notebook.lines.set notebook.cursorLine notebook.currentLine =
      notebook.lines := by
    rw [here, List.set_getElem_self]
  rw [before, after, unchanged]

theorem exists_ofLines_insertIdx (moves : List.Forall₂ (MovesTo place) notebook.lines moved) :
    ∃ readers, ReaderIndex.ofLines (moved.insertIdx place "") = .ok readers := by
  refine ReaderIndex.exists_ofLines fun line member => ?_
  rcases List.eq_or_mem_of_mem_insertIdx member with rfl | isMoved
  · exact ⟨{}, Scan.scan_eq_ok_iff.mpr .done⟩
  · exact RelatedLists.forall_right moves (fun _ _ move => move.readable) line isMoved

/-- Splitting a line of a coherent notebook behind its last character moves the other lines and
inserts a blank one. -/
theorem Coherent.splitLine_atEnd_eq_ok_iff (coherent : notebook.Coherent)
    (onLine : notebook.cursorLine < notebook.lines.length)
    (atEnd : notebook.currentLine.toList.length ≤ notebook.cursorColumn) {next : Notebook} :
    notebook.splitLine = .ok next ↔
      ∃ moved readers, List.Forall₂ (MovesTo (notebook.cursorLine + 1)) notebook.lines moved ∧
        ReaderIndex.ofLines (moved.insertIdx (notebook.cursorLine + 1) "") = .ok readers ∧
        notebook.withBlankLine (notebook.cursorLine + 1) moved readers = next := by
  have inside : notebook.cursorLine + 1 ≤ notebook.lines.length := onLine
  have renumbers (lines : List String) :=
    @allAfterInsertion_insertIdx_eq_ok_iff (notebook.cursorLine + 1) 0 _ _ lines "" inside
  rw [Nat.zero_add, Int.natCast_succ] at renumbers
  unfold splitLine
  simp only [splitLine_lines_atEnd onLine atEnd, bind_eq_ok_iff, renumbers]
  constructor
  · rintro ⟨_, ⟨moved, moves, rfl⟩, recalculated⟩
    obtain ⟨readers, indexed⟩ := exists_ofLines_insertIdx moves
    have blank := coherent.withBlankLine (Nat.succ_pos _) moves inside indexed
    have known := (recalculate_congr rfl rfl rfl).symm.trans recalculated
    exact ⟨moved, readers, moves, indexed, Except.ok.inj (blank.symm.trans known)⟩
  · rintro ⟨moved, readers, moves, indexed, rfl⟩
    have blank := coherent.withBlankLine (Nat.succ_pos _) moves inside indexed
    exact ⟨_, ⟨moved, moves, rfl⟩, (recalculate_congr rfl rfl rfl).trans blank⟩

theorem Coherent.exists_splitLine_atEnd_iff (coherent : notebook.Coherent)
    (onLine : notebook.cursorLine < notebook.lines.length)
    (atEnd : notebook.currentLine.toList.length ≤ notebook.cursorColumn) :
    (∃ next, notebook.splitLine = .ok next) ↔
      ∀ line ∈ notebook.lines, MovableFrom (notebook.cursorLine + 1) line := by
  obtain ⟨inStep, -⟩ := coherent_iff.mp coherent
  rw [← exists_allMoveTo_iff inStep.readable]
  simp only [coherent.splitLine_atEnd_eq_ok_iff onLine atEnd]
  constructor
  · rintro ⟨_, moved, _, moves, -⟩
    exact ⟨moved, moves⟩
  · rintro ⟨moved, moves⟩
    obtain ⟨readers, indexed⟩ := exists_ofLines_insertIdx moves
    exact ⟨_, moved, readers, moves, indexed, rfl⟩

/-- Splitting a line behind its last character preserves every result.  It succeeds if and only if
every reference to a line below can be moved. -/
theorem splitLine_preserves_results (evaluated : notebook.Evaluated)
    (onLine : notebook.cursorLine < notebook.lines.length)
    (atEnd : notebook.currentLine.toList.length ≤ notebook.cursorColumn) :
    ((∃ next, notebook.splitLine = .ok next) ↔
      ∀ line ∈ notebook.lines, MovableFrom (notebook.cursorLine + 1) line) ∧
    ∀ next, notebook.splitLine = .ok next →
      ∃ moved, next.results = notebook.results.insertIdx (notebook.cursorLine + 1) none ∧
        next.bindings = notebook.bindings ∧
        next.lines = moved.insertIdx (notebook.cursorLine + 1) "" ∧
        List.Forall₂ DiffersInReferences notebook.lines moved := by
  obtain ⟨readers, coherent⟩ := evaluated.exists_coherent
  refine ⟨coherent.exists_splitLine_atEnd_iff onLine atEnd, fun next split => ?_⟩
  obtain ⟨moved, _, moves, -, rfl⟩ :=
    (coherent.splitLine_atEnd_eq_ok_iff onLine atEnd).mp split
  exact ⟨moved, rfl, rfl, rfl, moves.imp fun _ _ move => move.differs⟩

/-- A blank line is inserted between a line and one that it refers to. -/
theorem splitLine_between_references :
    ∃ notebook next, notebook.results = [some "10", some "5", some "15"] ∧
      Evaluated notebook ∧ notebook.splitLine = .ok next ∧
      next.lines = ["10", "", "5", "line1 + line3"] ∧
      next.results = [some "10", none, some "5", some "15"] := by
  let notebook : Notebook :=
    { lines := ["10", "5", "line1 + line2"]
      results := [some "10", some "5", some "15"]
      assignments := [none, none, none]
      bindings := []
      readers := {}
      cursorLine := 0
      cursorColumn := 2 }
  have coherent : notebook.Coherent := by decide +kernel
  let expected : Notebook :=
    { lines := ["10", "", "5", "line1 + line3"]
      results := [some "10", none, some "5", some "15"]
      assignments := [none, none, none, none]
      bindings := []
      readers := {}
      cursorLine := 1 }
  have evaluated : notebook.Evaluated := ⟨notebook, coherent, rfl, rfl, rfl⟩
  have split : notebook.splitLine = .ok expected := by decide +kernel
  obtain ⟨-, preserves⟩ := splitLine_preserves_results evaluated (by decide) (by decide)
  obtain ⟨moved, results, -⟩ := preserves expected split
  exact ⟨notebook, expected, rfl, evaluated, split, rfl, results⟩

end Notebook

end NoteCalc
