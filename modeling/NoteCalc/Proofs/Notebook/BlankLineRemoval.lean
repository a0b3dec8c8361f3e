import NoteCalc.Proofs.Notebook.BlankLine
import NoteCalc.Proofs.Notebook.RestoredReferences

/-!
# Removing a blank line

Deleting on an empty line joins it to the line above, to which it adds nothing.  If no line refers
to the empty one, the renumbered lines are such that inserting an empty line would make the old ones
of them, so every line shows what it showed before.
-/

namespace NoteCalc

open NoteCalc.Text

namespace Renumbering

variable {place : Nat} {text moved line new : String} {scanned : Scan}

/-- A line becomes another one by giving other numbers to some of its references. -/
def RenamesReferences (line new : String) : Prop :=
  ∃ scanned edits, scan line = .ok scanned ∧ Replaces 0 line.toList edits new.toList ∧
    ∀ edit ∈ edits, (∃ token ∈ scanned.tokens,
      token.span = edit.1 ∧ ∃ written, token.kind = .reference written) ∧
      ∃ number : Nat, edit.2 = (plainName number).toList

theorem holdsName_iff (isScan : scan line = .ok scanned) {name : String} :
    HoldsName line name ↔ .identifier name ∈ scanned.tokens.map Token.kind := by
  have named (token : Token) :
      token.variableName? = some name ↔ token.kind = .identifier name := by
    unfold Token.variableName?
    split
    · rename_i found kind
      rw [kind, Option.some.injEq, Token.Kind.identifier.injEq]
    · rename_i other
      exact iff_of_false (by simp) (other name)
  rw [List.mem_map]
  constructor
  · rintro ⟨known, isKnown, token, member, isName⟩
    rw [isScan] at isKnown
    obtain rfl := Except.ok.inj isKnown
    exact ⟨token, member, (named token).mp isName⟩
  · rintro ⟨token, member, isName⟩
    exact ⟨scanned, isScan, token, member, (named token).mpr isName⟩

theorem movedUp_eq_identifier_iff {kind : Token.Kind} (other : kind ≠ .reference (place + 1))
    {name : String} : movedUp place kind = .identifier name ↔ kind = .identifier name := by
  constructor
  · intro isName
    rw [← movedDown_movedUp other, isName]
    rfl
  · rintro rfl
    rfl

/-! ## Lines that do not refer to the removed line -/

/-- One line is another one, renumbered for the removal of a line that it does not refer to. -/
structure MovesUpTo (place : Nat) (text moved : String) : Prop where
  unreferenced : ¬RefersTo text (place + 1)
  renumbered : afterRemoval place text = .ok moved

theorem exists_movesUpTo (readable : ReaderIndex.Readable text)
    (unreferenced : ¬RefersTo text (place + 1)) : ∃ moved, MovesUpTo place text moved := by
  obtain ⟨scanned, isScan⟩ := readable
  have renumbered :=
    Respelling.respellReferences_eq_text (writes_removal place) isScan (succeeds_removal isScan)
  exact ⟨_, unreferenced, renumbered⟩

theorem exists_allMoveUpTo {lines : List String}
    (readable : ∀ line ∈ lines, ReaderIndex.Readable line)
    (unreferenced : ∀ line ∈ lines, ¬RefersTo line (place + 1)) :
    ∃ moved, List.Forall₂ (MovesUpTo place) lines moved :=
  RelatedLists.exists_right_iff.mpr fun line member =>
    exists_movesUpTo (readable line member) (unreferenced line member)

namespace MovesUpTo

theorem exists_scans (moves : MovesUpTo place text moved) :
    ∃ scanned rescanned, scan text = .ok scanned ∧ scan moved = .ok rescanned ∧
      (∀ token ∈ scanned.tokens, token.kind ≠ .reference (place + 1)) ∧
      rescanned.tokens.map Token.kind =
        scanned.tokens.map (fun token => movedUp place token.kind) := by
  obtain ⟨scanned, rescanned, isScan, isRescan, kinds⟩ :=
    Respelling.scan_of_respellReferences (writes_removal place) moves.renumbered
  simp only [kind_removal] at kinds
  refine ⟨scanned, rescanned, isScan, isRescan, ?_, kinds⟩
  intro token member isReference
  exact moves.unreferenced ⟨scanned, isScan, token, member, isReference⟩

theorem readable (moves : MovesUpTo place text moved) : ReaderIndex.Readable moved := by
  obtain ⟨-, rescanned, -, isRescan, -⟩ := moves.exists_scans
  exact ⟨rescanned, isRescan⟩

theorem renamesReferences (moves : MovesUpTo place text moved) : RenamesReferences text moved := by
  obtain ⟨scanned, edits, isScan, edited, replaces⟩ :=
    Respelling.replaces_of_respellReferences (writes_removal place) moves.renumbered
  refine ⟨scanned, _, isScan, replaces, ?_⟩
  intro edit isEdit
  obtain ⟨token, member, written, new, kind, respelt, rfl⟩ :=
    exists_reference_of_mem_edits edited isEdit
  refine ⟨⟨token, member, rfl, written, kind⟩, written - 1, ?_⟩
  have other : written ≠ place + 1 := fun same =>
    moves.unreferenced ⟨scanned, isScan, token, member, same ▸ kind⟩
  have spells := (writes_removal place).agrees respelt
  obtain ⟨-, same⟩ := Option.ite_none_right_eq_some.mp ((if_neg other).symm.trans spells)
  rw [Option.some.inj same]

theorem holdsName_iff (moves : MovesUpTo place text moved) (name : String) :
    HoldsName moved name ↔ HoldsName text name := by
  obtain ⟨scanned, rescanned, isScan, isRescan, others, kinds⟩ := moves.exists_scans
  rw [Renumbering.holdsName_iff isScan, Renumbering.holdsName_iff isRescan, kinds, List.mem_map,
    List.mem_map]
  refine exists_congr fun token => and_congr_right fun member => ?_
  exact movedUp_eq_identifier_iff (others token member)

theorem eq_of_above (moves : MovesUpTo place text moved)
    (above : EveryReference (fun _ written => written ≤ place + 1) text) : moved = text := by
  obtain ⟨scanned, -, isScan, -, others, -⟩ := moves.exists_scans
  have isAbove : EveryReference (fun _ written => written ≤ place) text := by
    intro known isKnown token member written kind
    obtain rfl := Except.ok.inj (isScan.symm.trans isKnown)
    have other : written ≠ place + 1 := fun same => others token member (same ▸ kind)
    have atMost := above scanned isScan token member written kind
    omega
  exact Except.ok.inj
    (moves.renumbered.symm.trans (afterRemoval_of_above ⟨scanned, isScan⟩ isAbove))

/-- A line shows at its new place what it showed at its old one. -/
theorem evaluateLine_shift (moves : MovesUpTo place text moved) (positive : 0 < place)
    {bindings : Bindings} {results : List (Option String)} {line : Nat} :
    evaluateLine ⟨some bindings, results.insertIdx place none, shift place line⟩ text =
      evaluateLine ⟨some bindings, results, line⟩ moved := by
  obtain ⟨scanned, rescanned, isScan, isRescan, others, kinds⟩ := moves.exists_scans
  refine NoteCalc.evaluateLine_shift positive isRescan isScan ?_
  calc
    scanned.tokens.map Token.kind =
        scanned.tokens.map (fun token => movedDown place (movedUp place token.kind)) :=
      List.map_congr_left fun token member => (movedDown_movedUp (others token member)).symm
    _ = (rescanned.tokens.map Token.kind).map (movedDown place) := by
      rw [kinds, List.map_map]
      rfl
    _ = rescanned.tokens.map fun token => movedDown place token.kind := List.map_map

end MovesUpTo

end Renumbering

open Renumbering

namespace Notebook

variable {notebook : Notebook} {moved : List String} {readers : ReaderIndex}

/-- A notebook without the line of the cursor, the other lines moved, and the cursor where the line
above ended. -/
def withoutLine (notebook : Notebook) (moved : List String) (readers : ReaderIndex) :
    Notebook where
  lines := moved
  results := notebook.results.eraseIdx notebook.cursorLine
  assignments := notebook.assignments.eraseIdx notebook.cursorLine
  bindings := notebook.bindings
  readers := readers
  cursorLine := notebook.cursorLine - 1
  cursorColumn := (notebook.lineAt (notebook.cursorLine - 1)).toList.length

theorem insertIdx_eraseIdx_of_join {α : Type} {entries : List (Option α)} {place : Nat}
    (inside : place < entries.length) (nothing : entries[place]?.join = none) :
    entries = (entries.eraseIdx place).insertIdx place none := by
  rw [List.getElem?_eq_getElem inside, Option.join_some] at nothing
  rw [← nothing, List.insertIdx_eraseIdx_getElem inside]

theorem Coherent.addsNothingAt (coherent : notebook.Coherent)
    (onLine : notebook.cursorLine < notebook.lines.length) (blank : notebook.currentLine = "") :
    notebook.AddsNothingAt notebook.cursorLine (notebook.withoutLine moved readers) := by
  obtain ⟨inStep, shows⟩ := coherent_iff.mp coherent
  have shown := shows notebook.cursorLine onLine
  have here : notebook.lineAt notebook.cursorLine = "" := blank
  unfold ShowsValueAt at shown
  rw [here, evaluateLine_blank, Except.ok.injEq] at shown
  constructor
  · refine insertIdx_eraseIdx_of_join (inStep.results.symm ▸ onLine) ?_
    exact (congrArg Formula.LineValue.result shown).symm
  · refine insertIdx_eraseIdx_of_join (inStep.assignments.symm ▸ onLine) ?_
    exact (congrArg Formula.LineValue.assignment shown).symm

theorem withoutLine_movesUpTo (onLine : notebook.cursorLine < notebook.lines.length)
    (moves : List.Forall₂ (MovesUpTo notebook.cursorLine)
      (notebook.lines.eraseIdx notebook.cursorLine) moved)
    {line : Nat} (isLine : line < moved.length) :
    MovesUpTo notebook.cursorLine (notebook.lineAt (shift notebook.cursorLine line))
      ((notebook.withoutLine moved readers).lineAt line) := by
  have isKept : line < (notebook.lines.eraseIdx notebook.cursorLine).length :=
    moves.length_eq.symm ▸ isLine
  have kept := getElem?_insertIdx_shift (notebook.lines.eraseIdx notebook.cursorLine)
    notebook.lines[notebook.cursorLine] notebook.cursorLine line
  rw [List.insertIdx_eraseIdx_getElem onLine, List.getElem?_eq_getElem isKept] at kept
  have new : (notebook.withoutLine moved readers).lineAt line = moved[line] := by
    simp [lineAt, withoutLine, isLine]
  rw [lineAt, kept, Option.getD_some, new]
  exact (List.forall₂_iff_get.mp moves).2 line isKept isLine

/-- A blank line can be taken out of a coherent notebook in which nothing refers to it. -/
theorem Coherent.withoutLine (coherent : notebook.Coherent) (notFirst : notebook.cursorLine ≠ 0)
    (onLine : notebook.cursorLine < notebook.lines.length) (blank : notebook.currentLine = "")
    (moves : List.Forall₂ (MovesUpTo notebook.cursorLine)
      (notebook.lines.eraseIdx notebook.cursorLine) moved)
    (indexed : ReaderIndex.ofLines moved = .ok readers) :
    (notebook.withoutLine moved readers).Coherent := by
  obtain ⟨inStep, shows⟩ := coherent_iff.mp coherent
  have adds := @Coherent.addsNothingAt _ moved readers coherent onLine blank
  have sameLength : moved.length = notebook.lines.length - 1 := by
    rw [← moves.length_eq, List.length_eraseIdx_of_lt onLine]
  have bindings : (notebook.withoutLine moved readers).bindings =
      Bindings.ofAssignments (notebook.withoutLine moved readers).assignments := by
    rw [← ofAssignments_insertIdx _ notebook.cursorLine, ← adds.assignments]
    exact inStep.bindings
  have results : (notebook.withoutLine moved readers).results.length = moved.length := by
    unfold Notebook.withoutLine
    rw [List.length_eraseIdx_of_lt (inStep.results.symm ▸ onLine), inStep.results, sameLength]
  have assignments : (notebook.withoutLine moved readers).assignments.length = moved.length := by
    unfold Notebook.withoutLine
    rw [List.length_eraseIdx_of_lt (inStep.assignments.symm ▸ onLine), inStep.assignments,
      sameLength]
  obtain ⟨readable, indexes⟩ := ReaderIndex.ofLines_eq_ok_iff.mp indexed
  refine coherent_iff.mpr ⟨⟨⟨results, assignments, readable, indexes⟩, bindings⟩, ?_⟩
  intro line isLine
  have isMoved : line < moved.length := isLine
  have before : shift notebook.cursorLine line < notebook.lines.length := by
    unfold shift
    split <;> omega
  have move := @withoutLine_movesUpTo _ _ readers onLine moves _ isMoved
  refine (adds.showsValueAt_shift_iff ?_).mp (shows _ before)
  exact move.evaluateLine_shift (Nat.pos_of_ne_zero notFirst)

theorem joinLines_lines_blank (notFirst : notebook.cursorLine ≠ 0)
    (onLine : notebook.cursorLine < notebook.lines.length) (blank : notebook.currentLine = "") :
    (notebook.lines.eraseIdx notebook.cursorLine).set (notebook.cursorLine - 1)
        (notebook.lineAt (notebook.cursorLine - 1) ++ notebook.currentLine) =
      notebook.lines.eraseIdx notebook.cursorLine := by
  have isAbove : notebook.cursorLine - 1 < notebook.cursorLine := by omega
  have above : (notebook.lines.eraseIdx notebook.cursorLine)[notebook.cursorLine - 1]? =
      some (notebook.lineAt (notebook.cursorLine - 1)) := by
    rw [List.getElem?_eraseIdx_of_lt isAbove, lineAt_of_lt (isAbove.trans onLine)]
  obtain ⟨inside, same⟩ := List.getElem?_eq_some_iff.mp above
  rw [blank, String.append_empty, ← same, List.set_getElem_self]

/-- Joining an empty line to the one above it takes it out of the notebook. -/
theorem Coherent.joinLines_blank (coherent : notebook.Coherent)
    (notFirst : notebook.cursorLine ≠ 0)
    (onLine : notebook.cursorLine < notebook.lines.length) (blank : notebook.currentLine = "")
    (unreferenced : ∀ line ∈ notebook.lines, ¬RefersTo line (notebook.cursorLine + 1)) :
    ∃ moved readers, notebook.joinLines = .ok (notebook.withoutLine moved readers) ∧
      List.Forall₂ (MovesUpTo notebook.cursorLine)
        (notebook.lines.eraseIdx notebook.cursorLine) moved := by
  obtain ⟨inStep, -⟩ := coherent_iff.mp coherent
  obtain ⟨moved, moves⟩ := exists_allMoveUpTo
    (fun line member => inStep.readable line (List.mem_of_mem_eraseIdx member))
    (fun line member => unreferenced line (List.mem_of_mem_eraseIdx member))
  have readable : ∀ line ∈ moved, ReaderIndex.Readable line :=
    RelatedLists.forall_right moves fun _ _ move => move.readable
  obtain ⟨readers, indexed⟩ := ReaderIndex.exists_ofLines readable
  have renumbered : allAfterRemoval notebook.cursorLine
      (notebook.lines.eraseIdx notebook.cursorLine) = .ok moved :=
    mapM_eq_ok_iff.mpr (moves.imp fun _ _ move => move.renumbered)
  rw [← joinLines_lines_blank notFirst onLine blank] at renumbered
  refine ⟨moved, readers, bind_eq_ok_iff.mpr ⟨moved, renumbered, ?_⟩, moves⟩
  exact (recalculate_congr rfl rfl rfl).trans
    (coherent.withoutLine notFirst onLine blank moves indexed)

/-- Deleting on an empty line that nothing refers to leaves the results of the other lines and the
bindings alone, and makes no reference invalid.  The cursor stands where the line above ended; that
is its end, unless a reference in it moves. -/
theorem delete_blank_preserves_results (evaluated : notebook.Evaluated)
    (notFirst : notebook.cursorLine ≠ 0)
    (onLine : notebook.cursorLine < notebook.lines.length) (blank : notebook.currentLine = "")
    (unreferenced : ∀ line ∈ notebook.lines, ¬RefersTo line (notebook.cursorLine + 1)) :
    ∃ next, notebook.delete = .ok next ∧
      next.results = notebook.results.eraseIdx notebook.cursorLine ∧
      next.assignments = notebook.assignments.eraseIdx notebook.cursorLine ∧
      next.bindings = notebook.bindings ∧
      List.Forall₂ (fun line moved => RenamesReferences line moved ∧
          ∀ name, HoldsName moved name ↔ HoldsName line name)
        (notebook.lines.eraseIdx notebook.cursorLine) next.lines ∧
      next.cursorLine = notebook.cursorLine - 1 ∧
      next.cursorColumn = (notebook.lineAt (notebook.cursorLine - 1)).toList.length ∧
      (EveryReference (fun _ written => written ≤ notebook.cursorLine + 1)
          (notebook.lineAt (notebook.cursorLine - 1)) →
        next.cursorColumn = (next.lineAt next.cursorLine).toList.length) := by
  obtain ⟨readers, coherent⟩ := evaluated.exists_coherent
  obtain ⟨moved, _, joined, moves⟩ :=
    coherent.joinLines_blank notFirst onLine blank unreferenced
  have atStart : notebook.column = 0 := by simp [column, blank]
  have done := (delete_eq_joinLines atStart notFirst).trans joined
  refine ⟨_, done, rfl, rfl, rfl, ?_, rfl, rfl, ?_⟩
  · exact moves.imp fun _ _ move => ⟨move.renamesReferences, move.holdsName_iff⟩
  · intro above
    have isMoved : notebook.cursorLine - 1 < moved.length := by
      have sameLength := moves.length_eq
      rw [List.length_eraseIdx_of_lt onLine] at sameLength
      omega
    have move := @withoutLine_movesUpTo _ _ readers onLine moves _ isMoved
    have stays : shift notebook.cursorLine (notebook.cursorLine - 1) =
        notebook.cursorLine - 1 := if_neg (by omega)
    rw [stays] at move
    exact congrArg (fun text => text.toList.length) (move.eq_of_above above).symm

/-- A blank line is removed from between a line and one that it refers to. -/
theorem delete_blank_between_references :
    ∃ notebook next : Notebook, notebook.lines = ["10", "", "5", "line1 + line3"] ∧
      notebook.cursorLine = 1 ∧ notebook.Evaluated ∧ notebook.delete = .ok next ∧
      notebook.results = [some "10", none, some "5", some "15"] ∧
      next.results = [some "10", some "5", some "15"] ∧ next.cursorLine = 0 ∧
      next.cursorColumn = 2 := by
  let notebook : Notebook :=
    { lines := ["10", "", "5", "line1 + line3"]
      results := [some "10", none, some "5", some "15"]
      assignments := [none, none, none, none]
      bindings := []
      readers := {}
      cursorLine := 1 }
  have coherent : notebook.Coherent := by decide +kernel
  have evaluated : notebook.Evaluated := ⟨notebook, coherent, rfl, rfl, rfl⟩
  have unreferenced : ∀ line ∈ notebook.lines, ¬RefersTo line 2 := by decide +kernel
  obtain ⟨next, done, results, -, -, -, cursorLine, cursorColumn, -⟩ :=
    delete_blank_preserves_results evaluated (by decide) (by decide) rfl unreferenced
  exact ⟨notebook, next, rfl, rfl, evaluated, done, rfl, results, cursorLine,
    cursorColumn.trans (by decide +kernel)⟩

/-- A reference that becomes shorter leaves the cursor behind the end of the line above. -/
theorem delete_blank_below_shortened_reference :
    ∃ notebook next : Notebook, notebook.lines = ["line10", ""] ∧ notebook.cursorLine = 1 ∧
      notebook.Evaluated ∧ notebook.currentLine = "" ∧
      (∀ line ∈ notebook.lines, ¬RefersTo line 2) ∧ notebook.delete = .ok next ∧
      next.lines = ["line9"] ∧ next.cursorLine = 0 ∧ next.cursorColumn = 6 ∧
      next.cursorColumn ≠ (next.lineAt next.cursorLine).toList.length := by
  let notebook : Notebook :=
    { lines := ["line10", ""]
      results := [none, none]
      assignments := [none, none]
      bindings := []
      readers := {}
      cursorLine := 1 }
  let next : Notebook :=
    { lines := ["line9"]
      results := [none]
      assignments := [none]
      bindings := []
      readers := {}
      cursorColumn := 6 }
  have coherent : notebook.Coherent := by decide +kernel
  have done : notebook.delete = .ok next := by decide +kernel
  have unreferenced : ∀ line ∈ notebook.lines, ¬RefersTo line 2 := by decide +kernel
  exact ⟨notebook, next, rfl, rfl, ⟨notebook, coherent, rfl, rfl, rfl⟩, rfl, unreferenced, done,
    rfl, rfl, rfl, by decide⟩

end Notebook

end NoteCalc
