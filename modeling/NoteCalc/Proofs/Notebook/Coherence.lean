import Mathlib.Data.List.Basic
import NoteCalc.Proofs.Notebook.LineObservation

/-!
# Coherent notebooks

A notebook is coherent when everything it keeps about its lines is what evaluating all lines from
top to bottom gives.  This is a statement about the whole notebook; it holds exactly when the
tables are in step with the lines and every line shows what evaluating that line alone gives, in
the surroundings that the tables themselves provide.  The latter can be checked line by line.
-/

namespace NoteCalc

namespace Bindings

theorem ofAssignments_append (assignments : List (Option Assignment))
    (assignment : Option Assignment) :
    ofAssignments (assignments ++ [assignment]) =
      assignment.elim (ofAssignments assignments) (assign · (ofAssignments assignments)) := by
  simp [ofAssignments, List.foldl_append]

end Bindings

deriving instance DecidableEq for Notebook

namespace Notebook

/-- Evaluating all lines changes nothing. -/
def Coherent (notebook : Notebook) : Prop :=
  notebook.recalculate = .ok notebook

instance (notebook : Notebook) : Decidable notebook.Coherent :=
  inferInstanceAs (Decidable (notebook.recalculate = .ok notebook))

/-- What is kept about the line at a place. -/
def shownAt (notebook : Notebook) (place : Nat) : Formula.LineValue :=
  ⟨notebook.results[place]?.join, notebook.assignmentAt place⟩

/-- What is kept about the line at a place is what evaluating that line gives. -/
def ShowsValueAt (notebook : Notebook) (place : Nat) : Prop :=
  evaluateLine (notebook.surroundings place) (notebook.lineAt place) =
    .ok (notebook.shownAt place)

/-- There is a result and an assignment for every line, and the index is that of the lines, all of
which can be scanned. -/
structure FitsLines (notebook : Notebook) : Prop where
  results : notebook.results.length = notebook.lines.length
  assignments : notebook.assignments.length = notebook.lines.length
  readable : ∀ line ∈ notebook.lines, ReaderIndex.Readable line
  readers : notebook.readers.Indexes notebook.lines

/-- The tables of a notebook fit its lines, and its bindings are those of the assignments. -/
structure InStep (notebook : Notebook) : Prop extends notebook.FitsLines where
  bindings : notebook.bindings = Bindings.ofAssignments notebook.assignments

/-! ## Evaluating all lines -/

/-- Successive lines show what each of them shows in the surroundings that the lines before it
leave. -/
theorem evaluateLines_eq_ok_iff {lines : List String} {results : List (Option String)}
    {assignments : List (Option Assignment)} {shown : List Formula.LineValue} :
    evaluateLines results (Bindings.ofAssignments assignments) lines = .ok shown ↔
      shown.length = lines.length ∧
        ∀ place line, lines[place]? = some line → ∃ value, shown[place]? = some value ∧
          evaluateLine
            ⟨some (Bindings.ofAssignments
                (assignments ++ (shown.take place).map Formula.LineValue.assignment)),
              results ++ (shown.take place).map Formula.LineValue.result,
              ((results.length + place : Nat) : Int)⟩ line = .ok value := by
  -- Every line adds to what the lines after it are evaluated with.
  induction lines generalizing results assignments shown with
  | nil =>
      simp only [evaluateLines, Except.ok.injEq, List.length_nil, List.getElem?_nil]
      constructor
      · rintro rfl
        exact ⟨rfl, by simp⟩
      · rintro ⟨empty, -⟩
        exact (List.length_eq_zero_iff.mp empty).symm
  | cons line lines induction =>
      have unfolded : evaluateLines results (Bindings.ofAssignments assignments) (line :: lines) =
          .ok shown ↔ ∃ first rest, shown = first :: rest ∧
            evaluateLine ⟨some (Bindings.ofAssignments assignments), results, results.length⟩
              line = .ok first ∧
            evaluateLines (results ++ [first.result])
              (Bindings.ofAssignments (assignments ++ [first.assignment])) lines = .ok rest := by
        rw [evaluateLines]
        simp only [bind_eq_ok_iff, Bindings.ofAssignments_append, pure, Except.pure,
          Except.ok.injEq]
        constructor
        · rintro ⟨first, isFirst, rest, isRest, rfl⟩
          exact ⟨first, rest, rfl, isFirst, isRest⟩
        · rintro ⟨first, rest, rfl, isFirst, isRest⟩
          exact ⟨first, isFirst, rest, isRest, rfl⟩
      rw [unfolded]
      constructor
      · rintro ⟨first, rest, rfl, isFirst, isRest⟩
        obtain ⟨sameLength, values⟩ := induction.mp isRest
        refine ⟨by simp [sameLength], ?_⟩
        intro place found isFound
        cases place with
        | zero =>
            obtain rfl := Option.some.inj isFound
            exact ⟨first, rfl, by simpa using isFirst⟩
        | succ place =>
            obtain ⟨value, isValue, evaluated⟩ := values place found isFound
            refine ⟨value, isValue, ?_⟩
            simpa [Nat.add_assoc, Nat.add_comm 1 place] using evaluated
      · rintro ⟨sameLength, values⟩
        cases shown with
        | nil => exact absurd sameLength (by simp)
        | cons first rest =>
            obtain ⟨value, isValue, evaluated⟩ := values 0 line rfl
            obtain rfl := Option.some.inj isValue
            refine ⟨first, rest, rfl, by simpa using evaluated, ?_⟩
            refine induction.mpr ⟨by simpa using sameLength, ?_⟩
            intro place found isFound
            obtain ⟨value, isValue, evaluated⟩ := values (place + 1) found isFound
            refine ⟨value, isValue, ?_⟩
            simpa [Nat.add_assoc, Nat.add_comm 1 place] using evaluated

theorem recalculate_eq_ok_iff {notebook recalculated : Notebook} :
    notebook.recalculate = .ok recalculated ↔
      ∃ readers shown, ReaderIndex.ofLines notebook.lines = .ok readers ∧
        evaluateLines [] [] notebook.lines = .ok shown ∧
        recalculated = { notebook with
          results := shown.map Formula.LineValue.result
          assignments := shown.map Formula.LineValue.assignment
          bindings := Bindings.ofAssignments (shown.map Formula.LineValue.assignment)
          readers := readers } := by
  unfold recalculate
  simp only [bind_eq_ok_iff, pure, Except.pure, Except.ok.injEq]
  constructor
  · rintro ⟨readers, indexed, shown, evaluated, rfl⟩
    exact ⟨readers, shown, indexed, evaluated, rfl⟩
  · rintro ⟨readers, shown, indexed, evaluated, rfl⟩
    exact ⟨readers, indexed, shown, evaluated, rfl⟩

/-- What evaluating all lines gives depends on the lines and the cursor only. -/
theorem recalculate_congr {first second : Notebook} (lines : first.lines = second.lines)
    (cursorLine : first.cursorLine = second.cursorLine)
    (cursorColumn : first.cursorColumn = second.cursorColumn) :
    first.recalculate = second.recalculate := by
  unfold recalculate
  rw [lines, cursorLine, cursorColumn]

/-- Evaluating all lines makes a notebook coherent. -/
theorem coherent_of_recalculate {notebook recalculated : Notebook}
    (done : notebook.recalculate = .ok recalculated) : recalculated.Coherent := by
  obtain ⟨readers, shown, indexed, evaluated, rfl⟩ := recalculate_eq_ok_iff.mp done
  exact recalculate_eq_ok_iff.mpr ⟨readers, shown, indexed, evaluated, rfl⟩

/-! ## Line by line -/

theorem coherent_iff_exists_shown {notebook : Notebook} :
    notebook.Coherent ↔
      ReaderIndex.ofLines notebook.lines = .ok notebook.readers ∧
        notebook.bindings = Bindings.ofAssignments notebook.assignments ∧
        ∃ shown, evaluateLines [] [] notebook.lines = .ok shown ∧
          notebook.results = shown.map Formula.LineValue.result ∧
          notebook.assignments = shown.map Formula.LineValue.assignment := by
  unfold Coherent
  rw [recalculate_eq_ok_iff]
  constructor
  · rintro ⟨readers, shown, indexed, evaluated, same⟩
    rw [same]
    exact ⟨indexed, rfl, shown, evaluated, rfl, rfl⟩
  · rintro ⟨indexed, bound, shown, evaluated, results, assignments⟩
    refine ⟨notebook.readers, shown, indexed, evaluated, ?_⟩
    rw [← results, ← assignments, ← bound]

theorem lineAt_of_lt {notebook : Notebook} {place : Nat} (inside : place < notebook.lines.length) :
    notebook.lines[place]? = some (notebook.lineAt place) := by
  unfold lineAt
  rw [List.getElem?_eq_getElem inside]
  rfl

theorem map_shownAt_result {notebook : Notebook} (fits : notebook.FitsLines) {count : Nat}
    (within : count ≤ notebook.lines.length) :
    ((List.range count).map notebook.shownAt).map Formula.LineValue.result =
      notebook.results.take count := by
  refine List.ext_getElem (by simp [fits.results, within]) ?_
  intro place inRange inTable
  have inside : place < notebook.results.length := by
    rw [List.length_take] at inTable
    omega
  simp [shownAt, List.getElem?_eq_getElem inside]

theorem map_shownAt_assignment {notebook : Notebook} (fits : notebook.FitsLines) {count : Nat}
    (within : count ≤ notebook.lines.length) :
    ((List.range count).map notebook.shownAt).map Formula.LineValue.assignment =
      notebook.assignments.take count := by
  refine List.ext_getElem (by simp [fits.assignments, within]) ?_
  intro place inRange inTable
  have inside : place < notebook.assignments.length := by
    rw [List.length_take] at inTable
    omega
  simp [shownAt, assignmentAt, List.getElem?_eq_getElem inside]

/-- A notebook is coherent exactly when its tables are in step with its lines and every line shows
its value. -/
theorem coherent_iff {notebook : Notebook} :
    notebook.Coherent ↔
      notebook.InStep ∧ ∀ place < notebook.lines.length, notebook.ShowsValueAt place := by
  have start : ([] : Bindings) = Bindings.ofAssignments [] := rfl
  rw [coherent_iff_exists_shown, ReaderIndex.ofLines_eq_ok_iff, start]
  simp only [evaluateLines_eq_ok_iff, List.nil_append, List.length_nil, Nat.zero_add]
  constructor
  · rintro ⟨⟨readable, indexes⟩, bound, shown, ⟨sameLength, values⟩, results, assignments⟩
    refine ⟨⟨⟨by simp [results, sameLength], by simp [assignments, sameLength], readable,
      indexes⟩, bound⟩, ?_⟩
    intro place inside
    obtain ⟨value, isValue, evaluated⟩ := values place _ (lineAt_of_lt inside)
    have kept : notebook.shownAt place = value := by
      simp [shownAt, assignmentAt, results, assignments, isValue]
    have above : notebook.results.take place =
        ((shown.take place).map Formula.LineValue.result).take place := by
      rw [results, List.map_take, List.take_take, Nat.min_self]
    unfold ShowsValueAt surroundings
    rw [kept, assignments, ← List.map_take, evaluateLine_congr_results _ _ above]
    exact evaluated
  · rintro ⟨inStep, shows⟩
    have allResults := map_shownAt_result inStep.toFitsLines (Nat.le_refl _)
    have allAssignments := map_shownAt_assignment inStep.toFitsLines (Nat.le_refl _)
    rw [← inStep.results, List.take_length, inStep.results] at allResults
    rw [← inStep.assignments, List.take_length, inStep.assignments] at allAssignments
    refine ⟨⟨inStep.readable, inStep.readers⟩, inStep.bindings,
      (List.range notebook.lines.length).map notebook.shownAt, ⟨by simp, ?_⟩,
      allResults.symm, allAssignments.symm⟩
    intro place line isLine
    obtain ⟨inside, -⟩ := List.getElem?_eq_some_iff.mp isLine
    have here : line = notebook.lineAt place :=
      Option.some.inj (isLine.symm.trans (lineAt_of_lt inside))
    have prefixRange : ((List.range notebook.lines.length).map notebook.shownAt).take place =
        (List.range place).map notebook.shownAt := by
      rw [← List.map_take, List.take_range, Nat.min_eq_left (Nat.le_of_lt inside)]
    have above : (notebook.results.take place).take place = notebook.results.take place := by
      rw [List.take_take, Nat.min_self]
    refine ⟨notebook.shownAt place, by simp [inside], ?_⟩
    rw [prefixRange, map_shownAt_result inStep.toFitsLines (Nat.le_of_lt inside),
      map_shownAt_assignment inStep.toFitsLines (Nat.le_of_lt inside), here,
      evaluateLine_congr_results _ _ above]
    exact shows place inside

end Notebook

end NoteCalc
