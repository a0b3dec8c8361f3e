import NoteCalc.Proofs.Notebook.History

/-!
# Evaluating all lines and evaluating one

Three facts about evaluating all lines from top to bottom.  It is the same as evaluating the lines
in place one after the other, whatever the tables hold at the start; what it gives for the upper
lines is what it gives without the lower ones; and afterwards updating any line changes nothing.
All three rest on one observation, that a line looks at no place from its own on.
-/

namespace NoteCalc

namespace Notebook

/-! ## In place -/

/-- Evaluate as many successive lines in place as `count` says, from `place` on. -/
def sweep (notebook : Notebook) (place : Nat) : (count : Nat) → Except UnreadableDigit Notebook
  | 0 => .ok notebook
  | count + 1 => do (← notebook.reevaluate place).sweep (place + 1) count

theorem sweep_altersFrom {notebook swept : Notebook} {place count : Nat}
    (done : notebook.sweep place count = .ok swept) : AltersFrom place notebook swept := by
  induction count generalizing notebook place with
  | zero =>
      rw [sweep] at done
      rw [← Except.ok.inj done]
      exact .refl place notebook
  | succ count induction =>
      obtain ⟨middle, evaluated, rest⟩ := bind_eq_ok_iff.mp done
      exact (reevaluate_altersFrom evaluated).trans
        ((induction rest).mono (Nat.le_succ place))

/-- A swept line shows its value: sweeping on alters only lines below it. -/
theorem sweep_showsValueAt {notebook swept : Notebook} {place count : Nat}
    (fits : notebook.FitsLines) (within : place + count ≤ notebook.lines.length)
    (done : notebook.sweep place count = .ok swept) :
    ∀ line, place ≤ line → line < place + count → swept.ShowsValueAt line := by
  induction count generalizing notebook place with
  | zero =>
      intro line fromPlace toEnd
      omega
  | succ count induction =>
      obtain ⟨middle, evaluated, rest⟩ := bind_eq_ok_iff.mp done
      have alters := reevaluate_altersFrom evaluated
      intro line fromPlace toEnd
      rcases Nat.eq_or_lt_of_le fromPlace with rfl | below
      · refine ((sweep_altersFrom rest).showsValueAt_iff (Nat.lt_succ_self place)).mpr ?_
        exact reevaluate_showsValueAt fits (by omega) evaluated
      · have withinRest : place + 1 + count ≤ middle.lines.length := by
          rw [alters.lines]
          omega
        exact induction (alters.fitsLines fits) withinRest rest line below (by omega)

theorem FitsLines.exists_reevaluate {notebook : Notebook} {place : Nat}
    (fits : notebook.FitsLines) (inside : place < notebook.lines.length) :
    ∃ revised, notebook.reevaluate place = .ok revised :=
  exists_reevaluate_of_readable (fits.readable _ (List.mem_of_getElem? (lineAt_of_lt inside)))

theorem FitsLines.exists_sweep {notebook : Notebook} {place count : Nat}
    (fits : notebook.FitsLines) (within : place + count ≤ notebook.lines.length) :
    ∃ swept, notebook.sweep place count = .ok swept := by
  induction count generalizing notebook place with
  | zero => exact ⟨notebook, rfl⟩
  | succ count induction =>
      have inside : place < notebook.lines.length := by omega
      obtain ⟨middle, evaluated⟩ := fits.exists_reevaluate inside
      have alters := reevaluate_altersFrom evaluated
      have withinRest : place + 1 + count ≤ middle.lines.length := by
        rw [alters.lines]
        omega
      obtain ⟨swept, rest⟩ := induction (alters.fitsLines fits) withinRest
      exact ⟨swept, bind_eq_ok_iff.mpr ⟨middle, evaluated, rest⟩⟩

/-- Evaluating all lines is evaluating them in place from top to bottom, whatever the tables hold
before a line is reached. -/
theorem recalculate_eq_sweep {notebook : Notebook} (fits : notebook.FitsLines) :
    notebook.recalculate =
      (notebook.sweep 0 notebook.lines.length).map fun swept =>
        { swept with bindings := Bindings.ofAssignments swept.assignments } := by
  obtain ⟨swept, done⟩ := fits.exists_sweep (Nat.le_of_eq (Nat.zero_add _))
  have alters := sweep_altersFrom done
  have sweptFits := alters.fitsLines fits
  have shows := sweep_showsValueAt fits (Nat.le_of_eq (Nat.zero_add _)) done
  have coherent :
      Coherent { swept with bindings := Bindings.ofAssignments swept.assignments } := by
    refine coherent_iff.mpr ⟨⟨⟨sweptFits.results, sweptFits.assignments, sweptFits.readable,
      sweptFits.readers⟩, rfl⟩, ?_⟩
    intro line isLine
    have isSwept : line < swept.lines.length := isLine
    rw [alters.lines] at isSwept
    exact shows line (Nat.zero_le line) (by omega)
  rw [done]
  exact (recalculate_congr alters.lines.symm alters.cursorLine.symm
    alters.cursorColumn.symm).trans coherent

/-! ## From the top only -/

theorem evaluateLines_take {lines : List String} {results : List (Option String)}
    {bindings : Bindings} {shown : List Formula.LineValue}
    (done : evaluateLines results bindings lines = .ok shown) (count : Nat) :
    evaluateLines results bindings (lines.take count) = .ok (shown.take count) := by
  induction lines generalizing results bindings shown count with
  | nil =>
      rw [evaluateLines] at done
      rw [← Except.ok.inj done, List.take_nil, List.take_nil, evaluateLines]
  | cons line lines induction =>
      obtain ⟨first, isFirst, others⟩ := bind_eq_ok_iff.mp done
      obtain ⟨rest, isRest, joined⟩ := bind_eq_ok_iff.mp others
      rw [← Except.ok.inj joined]
      cases count with
      | zero => rfl
      | succ count =>
          rw [List.take_succ_cons, List.take_succ_cons]
          exact bind_eq_ok_iff.mpr
            ⟨first, isFirst, bind_eq_ok_iff.mpr ⟨_, induction isRest count, rfl⟩⟩

/-- What the lines of a coherent notebook show is a function of the texts of those lines and of the
lines above them. -/
theorem Coherent.shows_congr {first second : Notebook} (coherent : first.Coherent)
    (coherentToo : second.Coherent) {count : Nat}
    (sameLines : first.lines.take count = second.lines.take count) :
    first.results.take count = second.results.take count ∧
      first.assignments.take count = second.assignments.take count := by
  obtain ⟨-, -, shown, evaluated, results, assignments⟩ := coherent_iff_exists_shown.mp coherent
  obtain ⟨-, -, shownToo, evaluatedToo, resultsToo, assignmentsToo⟩ :=
    coherent_iff_exists_shown.mp coherentToo
  have upper := evaluateLines_take evaluated count
  rw [sameLines, evaluateLines_take evaluatedToo count] at upper
  have same : shownToo.take count = shown.take count := Except.ok.inj upper
  rw [results, resultsToo, assignments, assignmentsToo]
  simp only [← List.map_take, same, and_self]

/-- If all lines can be evaluated, the first of them can be without the others. -/
theorem exists_recalculate_upper {notebook recalculated : Notebook}
    (done : notebook.recalculate = .ok recalculated) (count : Nat) :
    ∃ part, recalculate { notebook with lines := notebook.lines.take count } = .ok part := by
  obtain ⟨index, shown, indexed, -⟩ := recalculate_eq_ok_iff.mp done
  have readable : ∀ line ∈ notebook.lines.take count, ReaderIndex.Readable line :=
    fun line member =>
      (ReaderIndex.ofLines_eq_ok_iff.mp indexed).1 line (List.mem_of_mem_take member)
  exact exists_recalculate_of_readable readable

theorem ofLines_of_ne_nil {lines : List String} (nonempty : lines ≠ []) :
    ofLines lines = recalculate { empty with lines := lines } := by
  have some : ¬lines.isEmpty = true := by simpa using nonempty
  unfold ofLines
  rw [if_neg some]

/-- Data flows downwards only: the first lines of a notebook show what they show in a notebook of
their own, whatever stands below them. -/
theorem ofLines_append_keeps_upper {upper lower : List String} {whole : Notebook}
    (nonempty : upper ≠ []) (done : ofLines (upper ++ lower) = .ok whole) :
    ∃ part, ofLines upper = .ok part ∧ part.results = whole.results.take upper.length ∧
      part.assignments = whole.assignments.take upper.length := by
  rw [ofLines_of_ne_nil (by simp [nonempty])] at done
  obtain ⟨part, partDone⟩ := exists_recalculate_upper done upper.length
  rw [List.take_left] at partDone
  have coherent := coherent_of_recalculate partDone
  have partLines : part.lines = upper := (recalculate_lines partDone).1
  have wholeLines : whole.lines = upper ++ lower := (recalculate_lines done).1
  have sameLines : part.lines.take upper.length = whole.lines.take upper.length := by
    rw [partLines, wholeLines, List.take_left, List.take_length]
  obtain ⟨sameResults, sameAssignments⟩ :=
    coherent.shows_congr (coherent_of_recalculate done) sameLines
  obtain ⟨inStep, -⟩ := coherent_iff.mp coherent
  refine ⟨part, (ofLines_of_ne_nil nonempty).trans partDone, ?_, ?_⟩
  · rw [← sameResults, ← partLines, ← inStep.results, List.take_length]
  · rw [← sameAssignments, ← partLines, ← inStep.assignments, List.take_length]

/-- A reference to a line below, a reference of a line to itself, a variable that is assigned again
below and a running total below leave the upper lines alone. -/
theorem upper_lines_kept_above_redefinition :
    ∃ whole part,
      ofLines (["x = 2", "line2 + line4", "x * line1"] ++ ["x = 7", "sum_above()"]) = .ok whole ∧
      whole.results = [some "2", none, some "4", some "7", some "13"] ∧
      ofLines ["x = 2", "line2 + line4", "x * line1"] = .ok part ∧
      part.results = [some "2", none, some "4"] := by
  let upper : List String := ["x = 2", "line2 + line4", "x * line1"]
  let lower : List String := ["x = 7", "sum_above()"]
  let whole : Notebook :=
    { lines := upper ++ lower
      results := [some "2", none, some "4", some "7", some "13"]
      assignments := [some ⟨"x", "2"⟩, none, none, some ⟨"x", "7"⟩, none]
      bindings := [("x", "7")]
      readers := { reads := [(2, ["x"])], readers := [("x", [2])] } }
  have done : ofLines (upper ++ lower) = .ok whole := by decide +kernel
  obtain ⟨part, partDone, results, -⟩ := ofLines_append_keeps_upper (by decide) done
  exact ⟨whole, part, done, rfl, partDone, results⟩

/-! ## Once is enough -/

/-- Evaluating a line that shows its value changes nothing. -/
theorem reevaluate_of_showsValueAt {notebook : Notebook} {place : Nat}
    (fits : notebook.FitsLines) (inside : place < notebook.lines.length)
    (shows : notebook.ShowsValueAt place) : notebook.reevaluate place = .ok notebook := by
  have inResults : place < notebook.results.length := fits.results.symm ▸ inside
  have inAssignments : place < notebook.assignments.length := fits.assignments.symm ▸ inside
  have sameResults : notebook.results.set place (notebook.shownAt place).result =
      notebook.results := by
    simp [shownAt, List.getElem?_eq_getElem inResults]
  have sameAssignments : notebook.assignments.set place (notebook.shownAt place).assignment =
      notebook.assignments := by
    simp [shownAt, assignmentAt, List.getElem?_eq_getElem inAssignments]
  refine reevaluate_eq_ok_iff.mpr ⟨notebook.shownAt place, shows, ?_⟩
  rw [sameResults, sameAssignments]

/-- A visit changes nothing if every pending line shows its value: no line wakes another. -/
theorem propagate_of_showsValueAt {notebook : Notebook} {place count : Nat} {pending : List Int}
    (fits : notebook.FitsLines) (within : place + count ≤ notebook.lines.length)
    (shows : ∀ line < notebook.lines.length, (line : Int) ∈ pending →
      notebook.ShowsValueAt line) :
    notebook.propagate place pending count = .ok notebook := by
  induction count generalizing place with
  | zero => rfl
  | succ count induction =>
      have withinRest : place + 1 + count ≤ notebook.lines.length := by omega
      have rest := induction withinRest
      rw [propagate]
      split
      · rename_i isPending
        have inside : place < notebook.lines.length := by omega
        have isMember : (place : Int) ∈ pending := by simpa using isPending
        have unchanged := reevaluate_of_showsValueAt fits inside (shows place inside isMember)
        have asleep : pending ++ notebook.woken place (notebook.assignmentAt place)
            (notebook.assignmentAt place) = pending := by
          unfold woken
          rw [if_pos rfl, List.append_nil]
        refine bind_eq_ok_iff.mpr ⟨notebook, unchanged, ?_⟩
        simpa only [asleep] using rest
      · exact rest

/-- Updating a line that shows its value changes nothing. -/
theorem InStep.refresh_of_showsValueAt {notebook : Notebook} {place : Nat}
    (inStep : notebook.InStep) (inside : place < notebook.lines.length)
    (shows : notebook.ShowsValueAt place) : notebook.refresh place = .ok notebook := by
  have visited : notebook.propagate place [(place : Int)] (notebook.lines.length - place) =
      .ok notebook := by
    refine propagate_of_showsValueAt inStep.toFitsLines (by omega) ?_
    intro line isLine isPending
    have here : line = place := Int.ofNat_inj.mp (List.mem_singleton.mp isPending)
    exact here ▸ shows
  refine refresh_eq_ok_iff.mpr ⟨notebook, visited, ?_⟩
  rw [← inStep.bindings]

theorem update_of_inside {notebook : Notebook} {place : Nat}
    (inside : place < notebook.lines.length) :
    notebook.update place = (notebook.refresh place).mapError .unreadable := by
  have isPlace : 0 ≤ (place : Int) ∧ (place : Int) < notebook.lines.length :=
    ⟨Int.natCast_nonneg place, Int.ofNat_lt.mpr inside⟩
  unfold update
  rw [if_pos isPlace, Int.toNat_natCast]

/-- A notebook in step with its lines is coherent exactly when updating any of its lines changes
nothing. -/
theorem InStep.coherent_iff_update {notebook : Notebook} (inStep : notebook.InStep) :
    notebook.Coherent ↔
      ∀ place < notebook.lines.length, notebook.update place = .ok notebook := by
  rw [coherent_iff]
  constructor
  · rintro ⟨-, shows⟩ place inside
    rw [update_of_inside inside, mapError_eq_ok_iff]
    exact inStep.refresh_of_showsValueAt inside (shows place inside)
  · intro unchanged
    refine ⟨inStep, fun place inside => ?_⟩
    have refreshed := unchanged place inside
    rw [update_of_inside inside, mapError_eq_ok_iff] at refreshed
    exact refresh_showsValueAt inStep.toFitsLines inside refreshed

/-- After all lines have been evaluated, updating any line changes nothing. -/
theorem update_recalculated {notebook recalculated : Notebook} {place : Int}
    (done : notebook.recalculate = .ok recalculated)
    (inside : 0 ≤ place ∧ place < recalculated.lines.length) :
    recalculated.update place = .ok recalculated := by
  obtain ⟨line, rfl⟩ := Int.eq_ofNat_of_zero_le inside.1
  have coherent := coherent_of_recalculate done
  obtain ⟨inStep, -⟩ := coherent_iff.mp coherent
  exact inStep.coherent_iff_update.mp coherent line (Int.ofNat_lt.mp inside.2)

/-- Updating the second assignment of a name leaves a notebook alone in which a line refers to one
below it, a name is assigned twice and an assignment has no value. -/
theorem update_recalculated_redefinition :
    ∃ notebook recalculated : Notebook, notebook.recalculate = .ok recalculated ∧
      recalculated.results = [some "5", none, some "10", none, some "25"] ∧
      recalculated.update 2 = .ok recalculated := by
  let notebook : Notebook :=
    { empty with lines := ["x = 5", "line3 + x", "x = x * 2", "y =", "sum_above() + x"] }
  let recalculated : Notebook :=
    { notebook with
      results := [some "5", none, some "10", none, some "25"]
      assignments := [some ⟨"x", "5"⟩, none, some ⟨"x", "10"⟩, none, none]
      bindings := [("x", "10")]
      readers := { reads := [(1, ["x"]), (2, ["x"]), (4, ["x"])], readers := [("x", [1, 2, 4])] } }
  have done : notebook.recalculate = .ok recalculated := by decide +kernel
  exact ⟨notebook, recalculated, done, rfl, update_recalculated done (by decide)⟩

end Notebook

end NoteCalc
