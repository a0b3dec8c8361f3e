import NoteCalc.Proofs.Notebook.BlankLine
import NoteCalc.Proofs.Notebook.RestoredReferences

/-!
# Splitting a line and joining it again

Deleting right after a line has been split puts its two parts together again.  The other lines have
been renumbered twice, once for the new line and once for its removal, and are what they were if
their references to the lines below are spelt in the plain way.  The parts may be scanned to other
tokens than the line; what matters is that neither the line nor its first part is renumbered.
-/

namespace NoteCalc

open Renumbering

namespace Notebook

variable {notebook below : Notebook}

theorem Evaluated.readable (evaluated : notebook.Evaluated) :
    ∀ line ∈ notebook.lines, ReaderIndex.Readable line := by
  obtain ⟨recalculated, done, -⟩ := evaluated
  obtain ⟨readers, shown, indexed, -⟩ := recalculate_eq_ok_iff.mp done
  exact (ReaderIndex.ofLines_eq_ok_iff.mp indexed).1

/-! ## The split notebook -/

/-- A notebook whose current line has been split: the other lines have moved, and the second part of
the line stands below the first one, which moved with them. -/
structure IsSplit (notebook : Notebook) (moved : List String) (below : Notebook) : Prop where
  moves : List.Forall₂ (MovesTo (notebook.cursorLine + 1))
    (notebook.lines.set notebook.cursorLine (String.ofList notebook.beforeCursor)) moved
  lines : below.lines =
    moved.insertIdx (notebook.cursorLine + 1) (String.ofList notebook.afterCursor)
  cursorLine : below.cursorLine = notebook.cursorLine + 1
  cursorColumn : below.cursorColumn = 0

theorem exists_isSplit (onLine : notebook.cursorLine < notebook.lines.length)
    (split : notebook.splitLine = .ok below) : ∃ moved, notebook.IsSplit moved below := by
  have inside : notebook.cursorLine + 1 ≤
      (notebook.lines.set notebook.cursorLine (String.ofList notebook.beforeCursor)).length := by
    rw [List.length_set]
    exact onLine
  obtain ⟨renumbered, done, recalculated⟩ := bind_eq_ok_iff.mp split
  have renumbers := @allAfterInsertion_insertIdx_eq_ok_iff (notebook.cursorLine + 1) 0 _ _
    renumbered (String.ofList notebook.afterCursor) inside
  rw [Nat.zero_add, Int.natCast_succ] at renumbers
  obtain ⟨moved, moves, rfl⟩ := renumbers.mp done
  obtain ⟨readers, shown, -, -, rfl⟩ := recalculate_eq_ok_iff.mp recalculated
  exact ⟨moved, moves, rfl, rfl, rfl⟩

namespace IsSplit

variable {moved : List String} (isSplit : notebook.IsSplit moved below)
  (onLine : notebook.cursorLine < notebook.lines.length)

include isSplit onLine

theorem onMoved : notebook.cursorLine < moved.length := by
  rw [← isSplit.moves.length_eq, List.length_set]
  exact onLine

/-- The first part of the line is not renumbered if it refers to lines above its end only. -/
theorem getElem_moved (headAbove : EveryReference
      (fun _ written => written ≤ notebook.cursorLine + 1) (String.ofList notebook.beforeCursor)) :
    moved[notebook.cursorLine]? = some (String.ofList notebook.beforeCursor) := by
  have onMoved := isSplit.onMoved onLine
  have move := (List.forall₂_iff_get.mp isSplit.moves).2 notebook.cursorLine
    (isSplit.moves.length_eq.symm ▸ onMoved) onMoved
  simp only [List.get_eq_getElem, List.getElem_set_self] at move
  obtain ⟨scanned, isScan, -⟩ := exists_scan_of_respellReferences move.renumbered
  have unchanged := afterInsertion_of_above ⟨scanned, isScan⟩ headAbove
  rw [List.getElem?_eq_getElem onMoved, Except.ok.inj (unchanged.symm.trans move.renumbered)]

theorem lineAt_above (headAbove : EveryReference
      (fun _ written => written ≤ notebook.cursorLine + 1) (String.ofList notebook.beforeCursor)) :
    below.lineAt notebook.cursorLine = String.ofList notebook.beforeCursor := by
  rw [lineAt, isSplit.lines, List.getElem?_insertIdx_of_lt (Nat.lt_succ_self _),
    isSplit.getElem_moved onLine headAbove, Option.getD_some]

theorem currentLine_below : below.currentLine = String.ofList notebook.afterCursor := by
  have onMoved : notebook.cursorLine + 1 ≤ moved.length := isSplit.onMoved onLine
  rw [currentLine, isSplit.cursorLine, lineAt, isSplit.lines, List.getElem?_insertIdx_self,
    if_pos onMoved, Option.getD_some]

end IsSplit

theorem ofList_beforeCursor_append_afterCursor (notebook : Notebook) :
    String.ofList notebook.beforeCursor ++ String.ofList notebook.afterCursor =
      notebook.currentLine := by
  rw [← String.ofList_append, beforeCursor, afterCursor, List.take_append_drop,
    String.ofList_toList]

/-! ## The lines after joining -/

/-- Every other line is restored, and so is the line that was split. -/
theorem IsSplit.allAfterRemoval_moved {moved : List String}
    (isSplit : notebook.IsSplit moved below) (readable : ReaderIndex.Readable notebook.currentLine)
    (currentAbove : EveryReference (fun _ written => written ≤ notebook.cursorLine + 1)
      notebook.currentLine)
    (othersPlain : ∀ line < notebook.lines.length, line ≠ notebook.cursorLine →
      PlainFrom (notebook.cursorLine + 1) (notebook.lineAt line)) :
    allAfterRemoval (notebook.cursorLine + 1 : Nat)
        (moved.set notebook.cursorLine notebook.currentLine) = .ok notebook.lines := by
  have sameLength : notebook.lines.length = moved.length := by
    rw [← isSplit.moves.length_eq, List.length_set]
  refine mapM_eq_ok_iff.mpr (List.forall₂_iff_get.mpr ⟨?_, ?_⟩)
  · rw [List.length_set, sameLength]
  intro line isMoved isLine
  have here : notebook.lineAt line = notebook.lines[line] := by
    simp [lineAt, isLine]
  simp only [List.get_eq_getElem, ← here]
  by_cases isCurrent : line = notebook.cursorLine
  · subst isCurrent
    rw [List.getElem_set_self]
    exact afterRemoval_of_above readable currentAbove
  · rw [List.length_set] at isMoved
    have move := (List.forall₂_iff_get.mp isSplit.moves).2 line
      (by rwa [List.length_set]) isMoved
    simp only [List.get_eq_getElem] at move
    rw [List.getElem_set_ne (Ne.symm isCurrent), ← here] at move
    rw [List.getElem_set_ne (Ne.symm isCurrent)]
    exact afterRemoval_of_plainFrom (othersPlain line isLine isCurrent) move.renumbered

/-- Deleting right after a line has been split restores the notebook, with the cursor where the line
was split. -/
theorem delete_splitLine (evaluated : notebook.Evaluated)
    (onLine : notebook.cursorLine < notebook.lines.length)
    (currentAbove : EveryReference (fun _ written => written ≤ notebook.cursorLine + 1)
      notebook.currentLine)
    (headAbove : EveryReference (fun _ written => written ≤ notebook.cursorLine + 1)
      (String.ofList notebook.beforeCursor))
    (othersPlain : ∀ line < notebook.lines.length, line ≠ notebook.cursorLine →
      PlainFrom (notebook.cursorLine + 1) (notebook.lineAt line))
    (split : notebook.splitLine = .ok below) :
    ∃ joined, below.delete = .ok joined ∧ joined.lines = notebook.lines ∧
      joined.results = notebook.results ∧ joined.assignments = notebook.assignments ∧
      joined.bindings = notebook.bindings ∧ joined.cursorLine = notebook.cursorLine ∧
      joined.cursorColumn = notebook.column := by
  obtain ⟨moved, isSplit⟩ := exists_isSplit onLine split
  have isLine := List.mem_of_getElem? (lineAt_of_lt onLine)
  have restored :=
    isSplit.allAfterRemoval_moved (evaluated.readable _ isLine) currentAbove othersPlain
  have atStart : below.column = 0 := by rw [column, isSplit.cursorColumn, Nat.zero_min]
  have notFirst : below.cursorLine ≠ 0 := by
    rw [isSplit.cursorLine]
    exact Nat.succ_ne_zero _
  have above := isSplit.lineAt_above onLine headAbove
  have isAbove : below.cursorLine - 1 = notebook.cursorLine := by
    rw [isSplit.cursorLine, Nat.add_sub_cancel]
  have together : (below.lines.eraseIdx below.cursorLine).set (below.cursorLine - 1)
      (below.lineAt (below.cursorLine - 1) ++ below.currentLine) =
        moved.set notebook.cursorLine notebook.currentLine := by
    rw [isAbove, above, isSplit.currentLine_below onLine, isSplit.cursorLine, isSplit.lines,
      List.eraseIdx_insertIdx_self, ofList_beforeCursor_append_afterCursor]
  rw [← together, ← isSplit.cursorLine] at restored
  obtain ⟨recalculated, done, results, assignments, bindings⟩ := evaluated
  obtain ⟨index, shown, indexed, isShown, rfl⟩ := recalculate_eq_ok_iff.mp done
  let joined : Notebook :=
    { lines := notebook.lines
      results := shown.map Formula.LineValue.result
      assignments := shown.map Formula.LineValue.assignment
      bindings := Bindings.ofAssignments (shown.map Formula.LineValue.assignment)
      readers := index
      cursorLine := below.cursorLine - 1
      cursorColumn := (below.lineAt (below.cursorLine - 1)).toList.length }
  have isJoined : below.joinLines = .ok joined := bind_eq_ok_iff.mpr
    ⟨notebook.lines, restored, recalculate_eq_ok_iff.mpr ⟨index, shown, indexed, isShown, rfl⟩⟩
  have column : joined.cursorColumn = notebook.column := by
    have within : notebook.column ≤ notebook.currentLine.toList.length := Nat.min_le_right ..
    simp only [joined, isAbove, above, String.toList_ofList, beforeCursor,
      List.length_take_of_le within]
  exact ⟨joined, (delete_eq_joinLines atStart notFirst).trans isJoined, rfl, results,
    assignments, bindings, isAbove, column⟩

/-- A line is split inside a number, above a line that refers to one below the split. -/
theorem delete_splitLine_inside_number :
    ∃ notebook below joined : Notebook, notebook.lines = ["x = 12 + 34", "7", "line2 * x"] ∧
      notebook.cursorLine = 0 ∧ notebook.cursorColumn = 5 ∧ notebook.Evaluated ∧
      notebook.splitLine = .ok below ∧
      below.lines = ["x = 1", "2 + 34", "7", "line3 * x"] ∧
      below.results = [some "1", some "36", some "7", some "7"] ∧
      below.delete = .ok joined ∧ joined.lines = notebook.lines ∧
      joined.results = [some "46", some "7", some "322"] ∧ joined.cursorLine = 0 ∧
      joined.cursorColumn = 5 := by
  let notebook : Notebook :=
    { lines := ["x = 12 + 34", "7", "line2 * x"]
      results := [some "46", some "7", some "322"]
      assignments := [some ⟨"x", "46"⟩, none, none]
      bindings := [("x", "46")]
      readers := { reads := [(2, ["x"])], readers := [("x", [2])] }
      cursorColumn := 5 }
  let below : Notebook :=
    { lines := ["x = 1", "2 + 34", "7", "line3 * x"]
      results := [some "1", some "36", some "7", some "7"]
      assignments := [some ⟨"x", "1"⟩, none, none, none]
      bindings := [("x", "1")]
      readers := { reads := [(3, ["x"])], readers := [("x", [3])] }
      cursorLine := 1 }
  have coherent : notebook.Coherent := by decide +kernel
  have split : notebook.splitLine = .ok below := by decide +kernel
  have evaluated : notebook.Evaluated := ⟨notebook, coherent, rfl, rfl, rfl⟩
  have currentAbove : EveryReference (fun _ written => written ≤ notebook.cursorLine + 1)
      notebook.currentLine := by decide +kernel
  have headAbove : EveryReference (fun _ written => written ≤ notebook.cursorLine + 1)
      (String.ofList notebook.beforeCursor) := by decide +kernel
  have othersPlain : ∀ line < notebook.lines.length, line ≠ notebook.cursorLine →
      PlainFrom (notebook.cursorLine + 1) (notebook.lineAt line) := by decide +kernel
  obtain ⟨joined, done, lines, results, -, -, cursorLine, cursorColumn⟩ :=
    delete_splitLine evaluated (by decide) currentAbove headAbove othersPlain split
  exact ⟨notebook, below, joined, rfl, rfl, rfl, evaluated, split, rfl, rfl, done, lines, results,
    cursorLine, cursorColumn.trans (by decide +kernel)⟩

end Notebook

end NoteCalc
