import NoteCalc.Notebook.Editing
import NoteCalc.Proofs.Notebook.Coherence

/-!
# The cascade of a changed line

When a line has changed, the lines from it on are visited in order, and those that are pending are
evaluated again.  A line whose assignment changes makes the readers of the names concerned
pending.  The invariant of the visit is about the lines that the reader index tracks: those behind
the visit, and those ahead of it that are not pending, show their values in the notebook as it
stands.  At the end every tracked line does.
-/

namespace NoteCalc

namespace Bindings

/-- Bind what a line assigns, if it assigns anything. -/
def assignAny (bindings : Bindings) (assignment : Option Assignment) : Bindings :=
  assignment.elim bindings (assign · bindings)

theorem ofAssignments_eq_foldl (assignments : List (Option Assignment)) :
    ofAssignments assignments = assignments.foldl assignAny [] :=
  rfl

theorem lookup_assignAny_of_unnamed {assignment : Option Assignment} {name : String}
    (unnamed : ∀ made ∈ assignment, made.name ≠ name) (bindings : Bindings) :
    (bindings.assignAny assignment).lookup name = bindings.lookup name := by
  cases assignment with
  | none => rfl
  | some made =>
      have different : name ≠ made.name := fun same => unnamed made rfl same.symm
      exact (lookup_assign made bindings name).trans (if_neg different)

theorem lookup_assignAny_congr {first second : Bindings} {name : String}
    (same : first.lookup name = second.lookup name) (assignment : Option Assignment) :
    (first.assignAny assignment).lookup name = (second.assignAny assignment).lookup name := by
  cases assignment with
  | none => exact same
  | some made =>
      simp only [assignAny, Option.elim_some, lookup_assign]
      rw [same]

theorem lookup_foldl_congr {first second : List (Option Assignment)} {left right : Bindings}
    {name : String} (agree : left.lookup name = right.lookup name)
    (sameLength : first.length = second.length)
    (same : ∀ place < first.length, first[place]?.join = second[place]?.join ∨
      ∀ made ∈ first[place]?.join.toList ++ second[place]?.join.toList, made.name ≠ name) :
    (first.foldl assignAny left).lookup name = (second.foldl assignAny right).lookup name := by
  induction first generalizing second left right with
  | nil =>
      rw [List.length_eq_zero_iff.mp sameLength.symm]
      exact agree
  | cons assignment first induction =>
      cases second with
      | nil => simp at sameLength
      | cons other second =>
          rw [List.foldl_cons, List.foldl_cons]
          refine induction ?_ (by simpa using sameLength) ?_
          · have atStart := same 0 (Nat.zero_lt_succ _)
            simp only [List.getElem?_cons_zero, Option.join_some] at atStart
            rcases atStart with equal | unnamed
            · rw [equal]
              exact lookup_assignAny_congr agree other
            · have unnamedFirst : ∀ made ∈ assignment, made.name ≠ name := fun made member =>
                unnamed made (List.mem_append_left _ (Option.mem_toList.mpr member))
              have unnamedOther : ∀ made ∈ other, made.name ≠ name := fun made member =>
                unnamed made (List.mem_append_right _ (Option.mem_toList.mpr member))
              rw [lookup_assignAny_of_unnamed unnamedFirst,
                lookup_assignAny_of_unnamed unnamedOther]
              exact agree
          · intro place inside
            exact same (place + 1) (Nat.succ_lt_succ inside)

/-- Assignments give a name the same value if they differ in assignments to other names only. -/
theorem lookup_ofAssignments_congr {first second : List (Option Assignment)} {name : String}
    (sameLength : first.length = second.length)
    (same : ∀ place < first.length, first[place]?.join = second[place]?.join ∨
      ∀ made ∈ first[place]?.join.toList ++ second[place]?.join.toList, made.name ≠ name) :
    (ofAssignments first).lookup name = (ofAssignments second).lookup name := by
  rw [ofAssignments_eq_foldl, ofAssignments_eq_foldl]
  exact lookup_foldl_congr rfl sameLength same

end Bindings

namespace Notebook

/-- The reader index tracks all that the line at a place observes: the line observes no results,
and if it is an assignment it has a value. -/
def TrackedAt (notebook : Notebook) (place : Nat) : Prop :=
  ¬ObservesResults (notebook.lineAt place) ∧
    (StartsAssignment (notebook.lineAt place) → (notebook.assignmentAt place).isSome = true)

/-- A notebook differs from another at most in what lines from a place on show. -/
structure AltersFrom (place : Nat) (notebook revised : Notebook) : Prop where
  lines : revised.lines = notebook.lines
  bindings : revised.bindings = notebook.bindings
  readers : revised.readers = notebook.readers
  cursorLine : revised.cursorLine = notebook.cursorLine
  cursorColumn : revised.cursorColumn = notebook.cursorColumn
  resultsLength : revised.results.length = notebook.results.length
  assignmentsLength : revised.assignments.length = notebook.assignments.length
  results : revised.results.take place = notebook.results.take place
  assignments : revised.assignments.take place = notebook.assignments.take place

namespace AltersFrom

variable {place later : Nat} {notebook middle revised : Notebook}

theorem refl (place : Nat) (notebook : Notebook) : AltersFrom place notebook notebook :=
  ⟨rfl, rfl, rfl, rfl, rfl, rfl, rfl, rfl, rfl⟩

theorem mono (alters : AltersFrom later notebook revised) (earlier : place ≤ later) :
    AltersFrom place notebook revised where
  __ := alters
  results := by
    have shorter := congrArg (List.take place) alters.results
    rwa [List.take_take, List.take_take, Nat.min_eq_left earlier] at shorter
  assignments := by
    have shorter := congrArg (List.take place) alters.assignments
    rwa [List.take_take, List.take_take, Nat.min_eq_left earlier] at shorter

theorem trans (first : AltersFrom place notebook middle)
    (second : AltersFrom place middle revised) : AltersFrom place notebook revised where
  lines := second.lines.trans first.lines
  bindings := second.bindings.trans first.bindings
  readers := second.readers.trans first.readers
  cursorLine := second.cursorLine.trans first.cursorLine
  cursorColumn := second.cursorColumn.trans first.cursorColumn
  resultsLength := second.resultsLength.trans first.resultsLength
  assignmentsLength := second.assignmentsLength.trans first.assignmentsLength
  results := second.results.trans first.results
  assignments := second.assignments.trans first.assignments

theorem fitsLines (alters : AltersFrom place notebook revised) (fits : notebook.FitsLines) :
    revised.FitsLines where
  results := by rw [alters.resultsLength, alters.lines, fits.results]
  assignments := by rw [alters.assignmentsLength, alters.lines, fits.assignments]
  readable := by
    rw [alters.lines]
    exact fits.readable
  readers := by
    rw [alters.lines, alters.readers]
    exact fits.readers

theorem shownAt_eq (alters : AltersFrom later notebook revised) (above : place < later) :
    revised.shownAt place = notebook.shownAt place := by
  unfold shownAt assignmentAt
  rw [← List.getElem?_take_of_lt above, alters.results, List.getElem?_take_of_lt above,
    ← List.getElem?_take_of_lt (l := revised.assignments) above, alters.assignments,
    List.getElem?_take_of_lt above]

/-- A line above the altered ones shows its value in one notebook if it does in the other. -/
theorem showsValueAt_iff (alters : AltersFrom later notebook revised) (above : place < later) :
    revised.ShowsValueAt place ↔ notebook.ShowsValueAt place := by
  have upTo := alters.mono (Nat.le_of_lt above)
  have same : evaluateLine (revised.surroundings place) (revised.lineAt place) =
      evaluateLine (notebook.surroundings place) (notebook.lineAt place) := by
    unfold surroundings lineAt
    rw [upTo.assignments, upTo.lines]
    exact evaluateLine_congr_results _ _ upTo.results
  unfold ShowsValueAt
  rw [same, alters.shownAt_eq above]

theorem trackedAt_iff (alters : AltersFrom later notebook revised) (above : place < later) :
    revised.TrackedAt place ↔ notebook.TrackedAt place := by
  have same : revised.assignmentAt place = notebook.assignmentAt place :=
    congrArg Formula.LineValue.assignment (alters.shownAt_eq above)
  unfold TrackedAt lineAt
  rw [same, alters.lines]

end AltersFrom

/-! ## Evaluating one line anew -/

theorem reevaluate_eq_ok_iff {notebook revised : Notebook} {place : Nat} :
    notebook.reevaluate place = .ok revised ↔
      ∃ shown, evaluateLine (notebook.surroundings place) (notebook.lineAt place) = .ok shown ∧
        revised = { notebook with
          results := notebook.results.set place shown.result
          assignments := notebook.assignments.set place shown.assignment } := by
  unfold reevaluate
  simp only [bind_eq_ok_iff, pure, Except.pure, Except.ok.injEq]
  exact exists_congr fun shown => and_congr_right fun _ => eq_comm

/-- A line that can be scanned can be evaluated anew. -/
theorem exists_reevaluate_of_readable {notebook : Notebook} {place : Nat}
    (readable : ReaderIndex.Readable (notebook.lineAt place)) :
    ∃ revised, notebook.reevaluate place = .ok revised := by
  obtain ⟨shown, evaluated⟩ := exists_evaluateLine readable (notebook.surroundings place)
  exact ⟨_, reevaluate_eq_ok_iff.mpr ⟨shown, evaluated, rfl⟩⟩

theorem reevaluate_altersFrom {notebook revised : Notebook} {place : Nat}
    (evaluated : notebook.reevaluate place = .ok revised) :
    AltersFrom place notebook revised := by
  obtain ⟨shown, -, rfl⟩ := reevaluate_eq_ok_iff.mp evaluated
  exact ⟨rfl, rfl, rfl, rfl, rfl, by simp, by simp, List.take_set_of_le (Nat.le_refl place),
    List.take_set_of_le (Nat.le_refl place)⟩

/-- A line that has been evaluated anew shows its value. -/
theorem reevaluate_showsValueAt {notebook revised : Notebook} {place : Nat}
    (fits : notebook.FitsLines) (inside : place < notebook.lines.length)
    (evaluated : notebook.reevaluate place = .ok revised) : revised.ShowsValueAt place := by
  have alters := reevaluate_altersFrom evaluated
  obtain ⟨shown, value, rfl⟩ := reevaluate_eq_ok_iff.mp evaluated
  have kept : shownAt { notebook with
      results := notebook.results.set place shown.result
      assignments := notebook.assignments.set place shown.assignment } place = shown := by
    have inResults : place < notebook.results.length := fits.results.symm ▸ inside
    have inAssignments : place < notebook.assignments.length := fits.assignments.symm ▸ inside
    simp [shownAt, assignmentAt, inResults, inAssignments]
  unfold ShowsValueAt
  rw [kept, ← value]
  unfold surroundings
  rw [alters.assignments]
  exact evaluateLine_congr_results _ _ alters.results

/-- A line below one that is evaluated anew shows its value still, if it is tracked and has not
been made pending. -/
theorem reevaluate_showsValueAt_below {notebook revised : Notebook} {place below : Nat}
    (fits : notebook.FitsLines) (inside : below < notebook.lines.length)
    (evaluated : notebook.reevaluate place = .ok revised) (isBelow : place < below)
    (asleep : (below : Int) ∉
      notebook.woken place (notebook.assignmentAt place) (revised.assignmentAt place))
    (tracked : notebook.TrackedAt below) (shows : notebook.ShowsValueAt below) :
    revised.ShowsValueAt below := by
  obtain ⟨shown, -, rfl⟩ := reevaluate_eq_ok_iff.mp evaluated
  have inAssignments : place < notebook.assignments.length := by
    rw [fits.assignments]
    exact Nat.lt_trans isBelow inside
  have before : notebook.assignments[place] = notebook.assignmentAt place := by
    simp [assignmentAt, List.getElem?_eq_getElem inAssignments]
  have after : assignmentAt { notebook with
      results := notebook.results.set place shown.result
      assignments := notebook.assignments.set place shown.assignment } place =
        shown.assignment := by
    simp [assignmentAt, inAssignments]
  rw [after] at asleep
  have unchanged : shownAt { notebook with
      results := notebook.results.set place shown.result
      assignments := notebook.assignments.set place shown.assignment } below =
        notebook.shownAt below := by
    have different : place ≠ below := Nat.ne_of_lt isBelow
    simp [shownAt, assignmentAt, different]
  have names : ∀ name ∈ ReaderIndex.namesReadBy (notebook.lineAt below),
      (Bindings.ofAssignments (notebook.assignments.take below)).lookup name =
        (Bindings.ofAssignments
          ((notebook.assignments.set place shown.assignment).take below)).lookup name := by
    intro name reads
    have reading : name ∈ notebook.readers.namesOf below := by
      rw [fits.readers.names]
      simpa [ReaderIndex.namesAt, lineAt_of_lt inside] using reads
    refine Bindings.lookup_ofAssignments_congr (by simp) ?_
    intro line isAbove
    -- Only the visited line can assign differently now, and then the readers of its names wake.
    by_cases here : line = place
    · subst here
      by_cases same : shown.assignment = notebook.assignmentAt line
      · left
        simp [isBelow, inAssignments, before, same]
      · right
        intro made member equal
        apply asleep
        unfold woken
        rw [if_neg same]
        refine List.mem_flatMap.mpr ⟨made, ?_, ?_⟩
        · simpa [isBelow, inAssignments, before] using member
        · refine fits.readers.wellFormed.mem_readersAfter.mpr ⟨Int.ofNat_lt.mpr isBelow, ?_⟩
          rw [equal]
          exact reading
    · left
      rw [List.take_set, List.getElem?_set_ne (Ne.symm here)]
  unfold ShowsValueAt
  rw [unchanged]
  exact evaluateLine_congr_names names tracked.1 tracked.2 shows

/-! ## The visit -/

/-- The tracked lines before a place, and those from it on that are not pending, show their
values. -/
def Settled (notebook : Notebook) (place : Nat) (pending : List Int) : Prop :=
  ∀ line < notebook.lines.length, notebook.TrackedAt line →
    line < place ∨ (line : Int) ∉ pending → notebook.ShowsValueAt line

theorem Settled.idle {notebook : Notebook} {place : Nat} {pending : List Int}
    (settled : notebook.Settled place pending) (idle : (place : Int) ∉ pending) :
    notebook.Settled (place + 1) pending := by
  intro line inside tracked behindOrAsleep
  apply settled line inside tracked
  rcases behindOrAsleep with behind | asleep
  · rcases Nat.lt_succ_iff_lt_or_eq.mp behind with before | here
    · exact .inl before
    · exact .inr (here ▸ idle)
  · exact .inr asleep

/-- One visit: evaluating a pending line anew settles it and keeps the others settled. -/
theorem Settled.reevaluate {notebook revised : Notebook} {place : Nat} {pending : List Int}
    (fits : notebook.FitsLines) (settled : notebook.Settled place pending)
    (evaluated : notebook.reevaluate place = .ok revised) :
    revised.Settled (place + 1) (pending ++
      notebook.woken place (notebook.assignmentAt place) (revised.assignmentAt place)) := by
  have alters := reevaluate_altersFrom evaluated
  intro line inside tracked behindOrAsleep
  rw [alters.lines] at inside
  rcases Nat.lt_trichotomy line place with before | here | below
  · refine (alters.showsValueAt_iff before).mpr ?_
    exact settled line inside ((alters.trackedAt_iff before).mp tracked) (.inl before)
  · subst here
    exact reevaluate_showsValueAt fits inside evaluated
  · have asleep := behindOrAsleep.resolve_left (Nat.not_lt.mpr below)
    obtain ⟨notPending, notWoken⟩ := not_or.mp (mt List.mem_append.mpr asleep)
    have sameAssignment : revised.assignmentAt line = notebook.assignmentAt line := by
      obtain ⟨shown, -, rfl⟩ := reevaluate_eq_ok_iff.mp evaluated
      simp [assignmentAt, Nat.ne_of_lt below]
    have wasTracked : notebook.TrackedAt line := by
      unfold TrackedAt lineAt at tracked ⊢
      rwa [sameAssignment, alters.lines] at tracked
    exact reevaluate_showsValueAt_below fits inside evaluated below notWoken wasTracked
      (settled line inside wasTracked (.inr notPending))

theorem propagate_altersFrom {notebook revised : Notebook} {place count : Nat}
    {pending : List Int} (ran : notebook.propagate place pending count = .ok revised) :
    AltersFrom place notebook revised := by
  induction count generalizing notebook place pending with
  | zero =>
      rw [propagate] at ran
      rw [← Except.ok.inj ran]
      exact .refl place notebook
  | succ count induction =>
      rw [propagate] at ran
      split at ran
      · obtain ⟨middle, evaluated, rest⟩ := bind_eq_ok_iff.mp ran
        exact (reevaluate_altersFrom evaluated).trans
          ((induction rest).mono (Nat.le_succ place))
      · exact (induction ran).mono (Nat.le_succ place)

/-- A whole visit: what is settled at its start is settled at its end, with the visited lines
behind it. -/
theorem propagate_settled {notebook revised : Notebook} {place count : Nat} {pending : List Int}
    (fits : notebook.FitsLines) (settled : notebook.Settled place pending)
    (ran : notebook.propagate place pending count = .ok revised) :
    ∃ left, revised.Settled (place + count) left := by
  induction count generalizing notebook place pending with
  | zero =>
      rw [propagate] at ran
      rw [← Except.ok.inj ran]
      exact ⟨pending, settled⟩
  | succ count induction =>
      have shift : place + (count + 1) = place + 1 + count := by omega
      rw [propagate] at ran
      rw [shift]
      split at ran
      · obtain ⟨middle, evaluated, rest⟩ := bind_eq_ok_iff.mp ran
        exact induction ((reevaluate_altersFrom evaluated).fitsLines fits)
          (settled.reevaluate fits evaluated) rest
      · rename_i idle
        exact induction fits (settled.idle (by simpa using idle)) ran

/-- The first line of a visit shows its value at the end, if it is pending at the start. -/
theorem propagate_showsValueAt_first {notebook revised : Notebook} {place count : Nat}
    {pending : List Int} (fits : notebook.FitsLines) (inside : place < notebook.lines.length)
    (isPending : (place : Int) ∈ pending)
    (ran : notebook.propagate place pending (count + 1) = .ok revised) :
    revised.ShowsValueAt place := by
  have contains : pending.contains (place : Int) = true := by simpa using isPending
  rw [propagate, if_pos contains] at ran
  obtain ⟨middle, evaluated, rest⟩ := bind_eq_ok_iff.mp ran
  refine ((propagate_altersFrom rest).showsValueAt_iff (Nat.lt_succ_self place)).mpr ?_
  exact reevaluate_showsValueAt fits inside evaluated

/-! ## Refreshing a line -/

/-- The tables are in step with the lines, and every line that the reader index tracks shows its
value. -/
structure Sound (notebook : Notebook) : Prop extends notebook.InStep where
  shows : ∀ line < notebook.lines.length, notebook.TrackedAt line → notebook.ShowsValueAt line

theorem refresh_eq_ok_iff {notebook refreshed : Notebook} {place : Nat} :
    notebook.refresh place = .ok refreshed ↔
      ∃ visited, notebook.propagate place [(place : Int)] (notebook.lines.length - place) =
          .ok visited ∧
        refreshed =
          { visited with bindings := Bindings.ofAssignments visited.assignments } := by
  unfold refresh
  simp only [bind_eq_ok_iff, pure, Except.pure, Except.ok.injEq]
  exact exists_congr fun visited => and_congr_right fun _ => eq_comm

/-- Refreshing a line settles every line. -/
theorem refresh_sound {notebook refreshed : Notebook} {place : Nat} (fits : notebook.FitsLines)
    (inside : place < notebook.lines.length)
    (settled : notebook.Settled place [(place : Int)])
    (done : notebook.refresh place = .ok refreshed) : refreshed.Sound := by
  obtain ⟨visited, ran, rfl⟩ := refresh_eq_ok_iff.mp done
  have alters := propagate_altersFrom ran
  obtain ⟨left, allSettled⟩ := propagate_settled fits settled ran
  have visitedFits := alters.fitsLines fits
  refine ⟨⟨⟨visitedFits.results, visitedFits.assignments, visitedFits.readable,
    visitedFits.readers⟩, rfl⟩, ?_⟩
  intro line isLine tracked
  have isVisited : line < visited.lines.length := isLine
  refine allSettled line isVisited tracked (.inl ?_)
  rw [alters.lines] at isVisited
  omega

/-- A line that has been refreshed shows its value, whether it is tracked or not. -/
theorem refresh_showsValueAt {notebook refreshed : Notebook} {place : Nat}
    (fits : notebook.FitsLines) (inside : place < notebook.lines.length)
    (done : notebook.refresh place = .ok refreshed) : refreshed.ShowsValueAt place := by
  obtain ⟨visited, ran, rfl⟩ := refresh_eq_ok_iff.mp done
  have some : notebook.lines.length - place = notebook.lines.length - place - 1 + 1 := by omega
  rw [some] at ran
  have visitedShows : visited.ShowsValueAt place :=
    propagate_showsValueAt_first fits inside (List.mem_singleton.mpr rfl) ran
  exact visitedShows

/-- Refreshing a line does not touch the lines above it. -/
theorem refresh_showsValueAt_above {notebook refreshed : Notebook} {place above : Nat}
    (isAbove : above < place) (done : notebook.refresh place = .ok refreshed) :
    refreshed.ShowsValueAt above ↔ notebook.ShowsValueAt above := by
  obtain ⟨visited, ran, rfl⟩ := refresh_eq_ok_iff.mp done
  exact (propagate_altersFrom ran).showsValueAt_iff isAbove

theorem refresh_lines {notebook refreshed : Notebook} {place : Nat}
    (done : notebook.refresh place = .ok refreshed) :
    refreshed.lines = notebook.lines := by
  obtain ⟨visited, ran, rfl⟩ := refresh_eq_ok_iff.mp done
  exact (propagate_altersFrom ran).lines

theorem refresh_cursorLine {notebook refreshed : Notebook} {place : Nat}
    (done : notebook.refresh place = .ok refreshed) :
    refreshed.cursorLine = notebook.cursorLine := by
  obtain ⟨visited, ran, rfl⟩ := refresh_eq_ok_iff.mp done
  exact (propagate_altersFrom ran).cursorLine

theorem refresh_cursorColumn {notebook refreshed : Notebook} {place : Nat}
    (done : notebook.refresh place = .ok refreshed) :
    refreshed.cursorColumn = notebook.cursorColumn := by
  obtain ⟨visited, ran, rfl⟩ := refresh_eq_ok_iff.mp done
  exact (propagate_altersFrom ran).cursorColumn

end Notebook

end NoteCalc
