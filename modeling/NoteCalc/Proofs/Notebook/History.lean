import NoteCalc.Proofs.Notebook.ContentLines
import NoteCalc.Proofs.Notebook.LineEditing

/-!
# The histories of a notebook

Whatever is done to a notebook, its tables stay in step with its lines and every line that the
reader index tracks shows its value.  An operation that evaluates all lines leaves the notebook
coherent.  Editing within a line does not reach the lines that observe results through references
or the running total; a line can be out of date only if it is such a line itself, or if it reads a
name that a line above it, which is out of date, assigns.
-/

namespace NoteCalc

namespace Renumbering

theorem allAfterInsertion_cons_eq_ok_iff {place : Int} {skipped : Option Int} {line : Nat}
    {text : String} {texts renumbered : List String} :
    allAfterInsertion place skipped line (text :: texts) = .ok renumbered ↔
      ∃ first rest, renumbered = first :: rest ∧
        (if skipped = some (line : Int) then .ok text else afterInsertion place text) =
          .ok first ∧
        allAfterInsertion place skipped (line + 1) texts = .ok rest := by
  have unfolded : allAfterInsertion place skipped line (text :: texts) =
      (if skipped = some (line : Int) then .ok text else afterInsertion place text) >>=
        fun first => allAfterInsertion place skipped (line + 1) texts >>= fun rest =>
          .ok (first :: rest) := by
    rw [allAfterInsertion]
    split <;> rfl
  rw [unfolded]
  simp only [bind_eq_ok_iff, Except.ok.injEq]
  constructor
  · rintro ⟨first, respelt, rest, isRest, rfl⟩
    exact ⟨first, rest, rfl, respelt, isRest⟩
  · rintro ⟨first, rest, rfl, respelt, isRest⟩
    exact ⟨first, respelt, rest, isRest, rfl⟩

theorem allAfterInsertion_length {place : Int} {skipped : Option Int} {line : Nat}
    {lines renumbered : List String}
    (done : allAfterInsertion place skipped line lines = .ok renumbered) :
    renumbered.length = lines.length := by
  induction lines generalizing line renumbered with
  | nil =>
      rw [allAfterInsertion] at done
      rw [← Except.ok.inj done]
  | cons text lines induction =>
      obtain ⟨first, rest, rfl, -, isRest⟩ := allAfterInsertion_cons_eq_ok_iff.mp done
      rw [List.length_cons, List.length_cons, induction isRest]

theorem allAfterRemoval_length {place : Int} {lines renumbered : List String}
    (done : allAfterRemoval place lines = .ok renumbered) :
    renumbered.length = lines.length :=
  (mapM_eq_ok_iff.mp done).length_eq.symm

end Renumbering

namespace Notebook

/-! ## Operations -/

/-- One operation on a notebook that succeeds. -/
inductive Step (notebook next : Notebook) : Prop where
  | insert (text : String) (done : notebook.insert text = .ok next)
  | delete (done : notebook.delete = .ok next)
  | splitLine (done : notebook.splitLine = .ok next)
  | moveTo (line column : Int) (moved : next = notebook.moveTo line column)
  | update (place : Int) (done : notebook.update place = .ok next)
  | recalculate (done : notebook.recalculate = .ok next)
  | setContent (content : String) (done : notebook.setContent content = .ok next)

/-- The notebooks that operations lead to, from an empty notebook or from given lines. -/
inductive Reached : Notebook → Prop where
  | empty : Reached empty
  | ofLines {lines : List String} {notebook : Notebook}
      (done : ofLines lines = .ok notebook) : Reached notebook
  | step {notebook next : Notebook} (reached : Reached notebook) (step : notebook.Step next) :
      Reached next

/-- The notebooks in which only the cursor has moved since all lines were evaluated: at the start,
by an explicit recalculation, or because lines were split, joined or replaced. -/
inductive Rebuilt : Notebook → Prop where
  | ofLines {lines : List String} {notebook : Notebook}
      (done : ofLines lines = .ok notebook) : Rebuilt notebook
  | splitLine {notebook next : Notebook} (done : notebook.splitLine = .ok next) : Rebuilt next
  | joinLines {notebook next : Notebook} (atStart : notebook.column = 0)
      (notFirst : notebook.cursorLine ≠ 0) (done : notebook.delete = .ok next) : Rebuilt next
  | recalculate {notebook next : Notebook} (done : notebook.recalculate = .ok next) : Rebuilt next
  | setContent {notebook next : Notebook} {content : String}
      (done : notebook.setContent content = .ok next) : Rebuilt next
  | moveTo {notebook : Notebook} (rebuilt : Rebuilt notebook) (line column : Int) :
      Rebuilt (notebook.moveTo line column)

/-! ## Operations that evaluate all lines -/

theorem delete_eq_joinLines {notebook : Notebook} (atStart : notebook.column = 0)
    (notFirst : notebook.cursorLine ≠ 0) : notebook.delete = notebook.joinLines := by
  have outside : ¬0 < notebook.column := by omega
  unfold Notebook.delete
  rw [if_neg outside, if_neg notFirst]

theorem joinLines_of_delete {notebook next : Notebook} (atStart : notebook.column = 0)
    (notFirst : notebook.cursorLine ≠ 0) (done : notebook.delete = .ok next) :
    notebook.joinLines = .ok next :=
  (delete_eq_joinLines atStart notFirst).symm.trans done

theorem splitLine_coherent {notebook next : Notebook} (done : notebook.splitLine = .ok next) :
    next.Coherent := by
  obtain ⟨lines, -, rest⟩ := bind_eq_ok_iff.mp done
  exact coherent_of_recalculate rest

theorem joinLines_coherent {notebook next : Notebook} (done : notebook.joinLines = .ok next) :
    next.Coherent := by
  obtain ⟨lines, -, rest⟩ := bind_eq_ok_iff.mp done
  exact coherent_of_recalculate rest

/-- Moving the cursor changes nothing about the lines. -/
theorem InStep.moveTo {notebook : Notebook} (inStep : notebook.InStep) (line column : Int) :
    (notebook.moveTo line column).InStep where
  results := inStep.results
  assignments := inStep.assignments
  readable := inStep.readable
  readers := inStep.readers
  bindings := inStep.bindings

theorem Coherent.moveTo {notebook : Notebook} (coherent : notebook.Coherent) (line column : Int) :
    (notebook.moveTo line column).Coherent := by
  obtain ⟨inStep, shows⟩ := coherent_iff.mp coherent
  exact coherent_iff.mpr ⟨inStep.moveTo line column, shows⟩

theorem Rebuilt.coherent {notebook : Notebook} (rebuilt : notebook.Rebuilt) :
    notebook.Coherent := by
  induction rebuilt with
  | ofLines done => exact coherent_of_recalculate done
  | splitLine done => exact splitLine_coherent done
  | joinLines atStart notFirst done =>
      exact joinLines_coherent (joinLines_of_delete atStart notFirst done)
  | recalculate done => exact coherent_of_recalculate done
  | setContent done => exact coherent_of_recalculate done
  | moveTo rebuilt line column induction => exact induction.moveTo line column

/-! ## The cursor is on a line -/

theorem recalculate_lines {notebook recalculated : Notebook}
    (done : notebook.recalculate = .ok recalculated) :
    recalculated.lines = notebook.lines ∧ recalculated.cursorLine = notebook.cursorLine := by
  obtain ⟨readers, shown, -, -, rfl⟩ := recalculate_eq_ok_iff.mp done
  exact ⟨rfl, rfl⟩

theorem ofLines_inside {lines : List String} {notebook : Notebook}
    (done : ofLines lines = .ok notebook) : notebook.cursorLine < notebook.lines.length := by
  obtain ⟨sameLines, sameCursor⟩ := recalculate_lines done
  rw [sameLines, sameCursor]
  cases lines with
  | nil => exact Nat.zero_lt_one
  | cons line lines => exact Nat.zero_lt_succ _

theorem splitLine_inside {notebook next : Notebook}
    (inside : notebook.cursorLine < notebook.lines.length)
    (done : notebook.splitLine = .ok next) : next.cursorLine < next.lines.length := by
  obtain ⟨lines, renumbered, rest⟩ := bind_eq_ok_iff.mp done
  obtain ⟨sameLines, sameCursor⟩ := recalculate_lines rest
  have longer := Renumbering.allAfterInsertion_length renumbered
  have below : notebook.cursorLine + 1 ≤
      (notebook.lines.set notebook.cursorLine (String.ofList notebook.beforeCursor)).length := by
    rw [List.length_set]
    exact inside
  rw [List.length_insertIdx_of_le_length below, List.length_set] at longer
  rw [sameLines, sameCursor]
  exact longer ▸ Nat.succ_lt_succ inside

theorem joinLines_inside {notebook next : Notebook} (notFirst : notebook.cursorLine ≠ 0)
    (inside : notebook.cursorLine < notebook.lines.length)
    (done : notebook.joinLines = .ok next) : next.cursorLine < next.lines.length := by
  obtain ⟨lines, renumbered, rest⟩ := bind_eq_ok_iff.mp done
  obtain ⟨sameLines, sameCursor⟩ := recalculate_lines rest
  have shorter := Renumbering.allAfterRemoval_length renumbered
  rw [List.length_set, List.length_eraseIdx_of_lt inside] at shorter
  rw [sameLines, sameCursor]
  have isBefore : notebook.cursorLine - 1 < lines.length := by omega
  exact isBefore

theorem setContent_inside {notebook next : Notebook} {content : String}
    (done : notebook.setContent content = .ok next) : next.cursorLine < next.lines.length := by
  obtain ⟨sameLines, sameCursor⟩ := recalculate_lines done
  rw [sameLines, sameCursor]
  apply List.length_pos_iff.mpr
  exact linesOfContent_ne_nil content

theorem moveTo_inside {notebook : Notebook} (nonempty : 0 < notebook.lines.length)
    (line column : Int) :
    (notebook.moveTo line column).cursorLine < (notebook.moveTo line column).lines.length := by
  have clamped : (max 0 (min line ((notebook.lines.length : Int) - 1))).toNat <
      notebook.lines.length := by omega
  exact clamped

theorem editLine_inside {notebook edited : Notebook} {text : List Char} {column : Nat}
    (inside : notebook.cursorLine < notebook.lines.length)
    (done : notebook.editLine text column = .ok edited) :
    edited.cursorLine < edited.lines.length := by
  rw [editLine_lines done, editLine_cursorLine done, List.length_set]
  exact inside

/-! ## What every operation keeps -/

/-- The tables are sound and the cursor is on a line. -/
structure Kept (notebook : Notebook) : Prop extends notebook.Sound where
  inside : notebook.cursorLine < notebook.lines.length

theorem kept_of_coherent {notebook : Notebook} (coherent : notebook.Coherent)
    (inside : notebook.cursorLine < notebook.lines.length) : notebook.Kept :=
  ⟨coherent.sound, inside⟩

theorem Kept.editLine {notebook edited : Notebook} (kept : notebook.Kept) {text : List Char}
    {column : Nat} (done : notebook.editLine text column = .ok edited) : edited.Kept :=
  ⟨editLine_sound kept.toSound kept.inside done, editLine_inside kept.inside done⟩

theorem Kept.splitLine {notebook next : Notebook} (kept : notebook.Kept)
    (done : notebook.splitLine = .ok next) : next.Kept :=
  kept_of_coherent (splitLine_coherent done) (splitLine_inside kept.inside done)

theorem Kept.insert {notebook next : Notebook} (kept : notebook.Kept) {text : String}
    (done : notebook.insert text = .ok next) : next.Kept := by
  unfold Notebook.insert at done
  split at done
  · exact kept.splitLine done
  · exact kept.editLine done

theorem Kept.delete {notebook next : Notebook} (kept : notebook.Kept)
    (done : notebook.delete = .ok next) : next.Kept := by
  unfold Notebook.delete at done
  split at done
  · exact kept.editLine done
  · split at done
    · rw [← Except.ok.inj done]
      exact kept
    · rename_i notFirst
      exact kept_of_coherent (joinLines_coherent done)
        (joinLines_inside notFirst kept.inside done)

theorem Kept.moveTo {notebook : Notebook} (kept : notebook.Kept) (line column : Int) :
    (notebook.moveTo line column).Kept where
  toInStep := kept.toInStep.moveTo line column
  shows := kept.shows
  inside := moveTo_inside (Nat.zero_lt_of_lt kept.inside) line column

theorem Kept.update {notebook next : Notebook} (kept : notebook.Kept) {place : Int}
    (done : notebook.update place = .ok next) : next.Kept := by
  unfold Notebook.update at done
  split at done
  · rename_i isLine
    have inside : place.toNat < notebook.lines.length := by omega
    have refreshed := mapError_eq_ok_iff.mp done
    refine ⟨refresh_sound kept.toFitsLines inside ?_ refreshed, ?_⟩
    · intro line isInside tracked _
      exact kept.shows line isInside tracked
    · rw [refresh_lines refreshed, refresh_cursorLine refreshed]
      exact kept.inside
  · exact absurd done (by simp)

/-- Every operation keeps the tables sound and the cursor on a line. -/
theorem Kept.step {notebook next : Notebook} (kept : notebook.Kept)
    (step : notebook.Step next) : next.Kept := by
  cases step with
  | insert text done => exact kept.insert done
  | delete done => exact kept.delete done
  | splitLine done => exact kept.splitLine done
  | moveTo line column moved =>
      rw [moved]
      exact kept.moveTo line column
  | update place done => exact kept.update done
  | recalculate done =>
      obtain ⟨sameLines, sameCursor⟩ := recalculate_lines done
      refine kept_of_coherent (coherent_of_recalculate done) ?_
      rw [sameLines, sameCursor]
      exact kept.inside
  | setContent content done =>
      exact kept_of_coherent (coherent_of_recalculate done) (setContent_inside done)

/-- Every notebook that is reached has sound tables and the cursor on a line. -/
theorem Reached.kept {notebook : Notebook} (reached : notebook.Reached) : notebook.Kept := by
  induction reached with
  | empty => exact kept_of_coherent (by decide +kernel) Nat.zero_lt_one
  | ofLines done => exact kept_of_coherent (coherent_of_recalculate done) (ofLines_inside done)
  | step reached step induction => exact induction.step step

/-! ## Lines that are out of date -/

/-- Why a line may show something else than it does when all lines are evaluated: it observes more
than the reader index tracks, or it reads a name that is assigned differently by a line above for
which there is such a reason. -/
inductive Excused (notebook recalculated : Notebook) : Nat → Prop where
  | untracked {place : Nat} (untracked : ¬notebook.TrackedAt place) :
      Excused notebook recalculated place
  | reads {place line : Nat} (isAbove : line < place) (made : Assignment)
      (differs : notebook.assignmentAt line ≠ recalculated.assignmentAt line)
      (assigned : made ∈ (notebook.assignmentAt line).toList ++
        (recalculated.assignmentAt line).toList)
      (isRead : made.name ∈ ReaderIndex.namesReadBy (notebook.lineAt place))
      (above : Excused notebook recalculated line) : Excused notebook recalculated place

theorem exists_evaluateLines {lines : List String}
    (readable : ∀ line ∈ lines, ReaderIndex.Readable line) (results : List (Option String))
    (bindings : Bindings) : ∃ shown, evaluateLines results bindings lines = .ok shown := by
  induction lines generalizing results bindings with
  | nil => exact ⟨[], rfl⟩
  | cons line lines induction =>
      obtain ⟨first, isFirst⟩ := exists_evaluateLine (readable line (List.mem_cons_self ..))
        ⟨some bindings, results, results.length⟩
      obtain ⟨rest, isRest⟩ := induction
        (fun other member => readable other (List.mem_cons_of_mem line member))
        (results ++ [first.result])
        (first.assignment.elim bindings (Bindings.assign · bindings))
      refine ⟨first :: rest, ?_⟩
      rw [evaluateLines, isFirst]
      exact bind_eq_ok_iff.mpr ⟨first, rfl, bind_eq_ok_iff.mpr ⟨rest, isRest, rfl⟩⟩

theorem exists_recalculate_of_readable {notebook : Notebook}
    (readable : ∀ line ∈ notebook.lines, ReaderIndex.Readable line) :
    ∃ recalculated, notebook.recalculate = .ok recalculated := by
  obtain ⟨readers, indexed⟩ := ReaderIndex.exists_ofLines readable
  obtain ⟨shown, evaluated⟩ := exists_evaluateLines readable [] []
  exact ⟨_, recalculate_eq_ok_iff.mpr ⟨readers, shown, indexed, evaluated, rfl⟩⟩

/-- Evaluating all lines of a sound notebook succeeds. -/
theorem FitsLines.exists_recalculate {notebook : Notebook} (fits : notebook.FitsLines) :
    ∃ recalculated, notebook.recalculate = .ok recalculated ∧
      recalculated.lines = notebook.lines ∧ recalculated.readers = notebook.readers := by
  obtain ⟨shown, evaluated⟩ := exists_evaluateLines fits.readable [] []
  have indexed := ReaderIndex.ofLines_eq_ok_iff.mpr ⟨fits.readable, fits.readers⟩
  exact ⟨_, recalculate_eq_ok_iff.mpr ⟨notebook.readers, shown, indexed, evaluated, rfl⟩, rfl, rfl⟩

theorem Sound.excused {notebook recalculated : Notebook} (sound : notebook.Sound)
    (done : notebook.recalculate = .ok recalculated) {place : Nat}
    (inside : place < notebook.lines.length)
    (stale : notebook.shownAt place ≠ recalculated.shownAt place) :
    Excused notebook recalculated place := by
  obtain ⟨inStep, shows⟩ := coherent_iff.mp (coherent_of_recalculate done)
  have sameLines := (recalculate_lines done).1
  induction place using Nat.strongRecOn with
  | ind place induction =>
      by_contra unexcused
      have tracked : notebook.TrackedAt place := by
        by_contra untracked
        exact unexcused (.untracked untracked)
      -- A line above that assigns a name differently is excused itself, and would excuse this one.
      have names : ∀ name ∈ ReaderIndex.namesReadBy (notebook.lineAt place),
          (Bindings.ofAssignments (notebook.assignments.take place)).lookup name =
            (Bindings.ofAssignments (recalculated.assignments.take place)).lookup name := by
        intro name isRead
        apply Bindings.lookup_ofAssignments_congr
        · rw [List.length_take, List.length_take, sound.assignments, inStep.assignments, sameLines]
        · intro line isLine
          have isAbove : line < place := by
            rw [List.length_take] at isLine
            omega
          rw [List.getElem?_take_of_lt isAbove, List.getElem?_take_of_lt isAbove]
          by_contra differs
          obtain ⟨differs, named⟩ := not_or.mp differs
          refine named fun made assigned sameName => unexcused ?_
          have lineStale : notebook.shownAt line ≠ recalculated.shownAt line := fun same =>
            differs (congrArg Formula.LineValue.assignment same)
          exact .reads isAbove made differs assigned (sameName ▸ isRead)
            (induction line isAbove (Nat.lt_trans isAbove inside) lineStale)
      have value : evaluateLine (recalculated.surroundings place) (notebook.lineAt place) =
          .ok (notebook.shownAt place) :=
        evaluateLine_congr_names names tracked.1 tracked.2 (sound.shows place inside tracked)
      have recalculatedValue := shows place (sameLines ▸ inside)
      unfold ShowsValueAt at recalculatedValue
      have sameLine : recalculated.lineAt place = notebook.lineAt place := by
        unfold lineAt
        rw [sameLines]
      rw [sameLine, value] at recalculatedValue
      exact stale (Except.ok.inj recalculatedValue)

/-- What a notebook that has been reached keeps about its lines, compared with evaluating all of
them: the tables are in step with the lines, a line that is out of date is excused, and none is
when all lines have just been evaluated. -/
theorem stale_lines_excused {notebook : Notebook} (reached : notebook.Reached) :
    notebook.InStep ∧
      (notebook.Rebuilt → notebook.Coherent) ∧
      ∃ recalculated, notebook.recalculate = .ok recalculated ∧
        recalculated.lines = notebook.lines ∧ recalculated.readers = notebook.readers ∧
        ∀ place < notebook.lines.length,
          notebook.shownAt place ≠ recalculated.shownAt place →
            Excused notebook recalculated place := by
  have sound := reached.kept.toSound
  obtain ⟨recalculated, done, sameLines, sameReaders⟩ := sound.toFitsLines.exists_recalculate
  refine ⟨sound.toInStep, Rebuilt.coherent, recalculated, done, sameLines, sameReaders, ?_⟩
  intro place inside stale
  exact sound.excused done inside stale

/-- The first line has been edited after the second, which refers to it, was evaluated. -/
def editedAboveReference : Notebook where
  lines := ["12", "line1"]
  results := [some "12", some "1"]
  assignments := [none, none]
  bindings := []
  readers := {}
  cursorLine := 0
  cursorColumn := 2

theorem reached_editedAboveReference : editedAboveReference.Reached := by
  let start : Notebook :=
    { lines := ["1", "line1"]
      results := [some "1", some "1"]
      assignments := [none, none]
      bindings := []
      readers := {} }
  have built : ofLines ["1", "line1"] = .ok start := by decide +kernel
  have loaded : Reached start := .ofLines built
  have moved : Reached (start.moveTo 0 1) := .step loaded (.moveTo 0 1 rfl)
  exact .step moved (.insert "2" (by decide +kernel))

/-- A reference is out of date after an edit of the line that it refers to. -/
theorem not_coherent_after_edit_above_reference :
    editedAboveReference.Reached ∧ ¬editedAboveReference.Coherent :=
  ⟨reached_editedAboveReference, by decide +kernel⟩

/-- The line above a reference has been edited, and what the line of the reference assigns is read
below. -/
def editedAboveReader : Notebook where
  lines := ["12", "x = line1", "x + 1"]
  results := [some "12", some "1", some "2"]
  assignments := [none, some ⟨"x", "1"⟩, none]
  bindings := [("x", "1")]
  readers := { reads := [(2, ["x"])], readers := [("x", [2])] }
  cursorLine := 0
  cursorColumn := 2

theorem reached_editedAboveReader : editedAboveReader.Reached := by
  let start : Notebook :=
    { editedAboveReader with
      lines := ["1", "x = line1", "x + 1"]
      results := [some "1", some "1", some "2"]
      cursorColumn := 0 }
  have built : ofLines ["1", "x = line1", "x + 1"] = .ok start := by decide +kernel
  have loaded : Reached start := .ofLines built
  have moved : Reached (start.moveTo 0 1) := .step loaded (.moveTo 0 1 rfl)
  exact .step moved (.insert "2" (by decide +kernel))

/-- The line of the reference is out of date since it observes a result, and the line below it since
it reads what is assigned there; all that it observes is tracked. -/
theorem reference_excused_after_edit_above :
    editedAboveReader.Reached ∧
      ∃ recalculated, editedAboveReader.recalculate = .ok recalculated ∧
        recalculated.results = [some "12", some "12", some "13"] ∧
        editedAboveReader.shownAt 1 ≠ recalculated.shownAt 1 ∧
        ¬editedAboveReader.TrackedAt 1 ∧ Excused editedAboveReader recalculated 1 ∧
        editedAboveReader.shownAt 2 ≠ recalculated.shownAt 2 ∧
        editedAboveReader.TrackedAt 2 ∧ Excused editedAboveReader recalculated 2 := by
  let upToDate : Notebook :=
    { editedAboveReader with
      results := [some "12", some "12", some "13"]
      assignments := [none, some ⟨"x", "12"⟩, none]
      bindings := [("x", "12")] }
  have known : editedAboveReader.recalculate = .ok upToDate := by decide +kernel
  obtain ⟨-, -, recalculated, done, -, -, excused⟩ :=
    stale_lines_excused reached_editedAboveReader
  obtain rfl : upToDate = recalculated := Except.ok.inj (known.symm.trans done)
  have staleReference : editedAboveReader.shownAt 1 ≠ upToDate.shownAt 1 := by decide +kernel
  have staleReader : editedAboveReader.shownAt 2 ≠ upToDate.shownAt 2 := by decide +kernel
  have untracked : ¬editedAboveReader.TrackedAt 1 := by
    unfold TrackedAt
    decide +kernel
  have tracked : editedAboveReader.TrackedAt 2 := by
    unfold TrackedAt
    decide +kernel
  exact ⟨reached_editedAboveReader, upToDate, done, rfl, staleReference, untracked,
    excused 1 (by decide) staleReference, staleReader, tracked, excused 2 (by decide) staleReader⟩

end Notebook

end NoteCalc
