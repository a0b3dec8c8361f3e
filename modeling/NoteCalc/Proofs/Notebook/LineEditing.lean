import NoteCalc.Proofs.Notebook.Cascade

/-!
# Editing within a line

An edit within a line replaces the text of that line, records it anew in the reader index and
refreshes it.  Before the refresh, every line but the edited one shows what it showed; so the
refresh settles all lines, and it leaves the notebook coherent as long as the index tracks the
lines below the edited one.
-/

namespace NoteCalc

namespace Notebook

/-- The current line has another text, which the reader index knows, but nothing has been
evaluated. -/
def retype (notebook : Notebook) (line : String) (column : Nat) (readers : ReaderIndex) :
    Notebook :=
  { notebook with
    lines := notebook.lines.set notebook.cursorLine line
    cursorColumn := column
    readers := readers }

theorem editLine_eq_ok_iff {notebook edited : Notebook} {text : List Char} {column : Nat} :
    notebook.editLine text column = .ok edited ↔
      ∃ readers, notebook.readers.update notebook.cursorLine (String.ofList text) = .ok readers ∧
        (notebook.retype (String.ofList text) column readers).refresh notebook.cursorLine =
          .ok edited :=
  bind_eq_ok_iff

theorem retype_fitsLines {notebook : Notebook} {line : String} {column : Nat}
    {readers : ReaderIndex} (fits : notebook.FitsLines)
    (inside : notebook.cursorLine < notebook.lines.length)
    (recorded : notebook.readers.update notebook.cursorLine line = .ok readers) :
    (notebook.retype line column readers).FitsLines where
  results := by simp [retype, fits.results]
  assignments := by simp [retype, fits.assignments]
  readable := by
    intro other member
    rcases List.mem_or_eq_of_mem_set member with kept | replaced
    · exact fits.readable other kept
    · rw [replaced]
      exact (ReaderIndex.update_eq_ok_iff.mp recorded).1
  readers := fits.readers.update inside recorded

theorem retype_lineAt {notebook : Notebook} {line : String} {column : Nat} {readers : ReaderIndex}
    {place : Nat} (elsewhere : place ≠ notebook.cursorLine) :
    (notebook.retype line column readers).lineAt place = notebook.lineAt place := by
  simp [retype, lineAt, Ne.symm elsewhere]

theorem retype_showsValueAt_iff {notebook : Notebook} {line : String} {column : Nat}
    {readers : ReaderIndex} {place : Nat} (elsewhere : place ≠ notebook.cursorLine) :
    (notebook.retype line column readers).ShowsValueAt place ↔ notebook.ShowsValueAt place := by
  unfold ShowsValueAt
  rw [retype_lineAt elsewhere]
  exact Iff.rfl

theorem retype_trackedAt_iff {notebook : Notebook} {line : String} {column : Nat}
    {readers : ReaderIndex} {place : Nat} (elsewhere : place ≠ notebook.cursorLine) :
    (notebook.retype line column readers).TrackedAt place ↔ notebook.TrackedAt place := by
  unfold TrackedAt
  rw [retype_lineAt elsewhere]
  exact Iff.rfl

/-- Between the change of a text and the refresh, only the changed line is not settled. -/
theorem retype_settled {notebook : Notebook} {line : String} {column : Nat}
    {readers : ReaderIndex} (sound : notebook.Sound) :
    (notebook.retype line column readers).Settled notebook.cursorLine
      [(notebook.cursorLine : Int)] := by
  intro place isLine tracked behindOrAsleep
  have elsewhere : place ≠ notebook.cursorLine := by
    rcases behindOrAsleep with behind | asleep
    · exact Nat.ne_of_lt behind
    · intro here
      exact asleep (by simp [here])
  have inside : place < notebook.lines.length := by simpa [retype] using isLine
  refine (retype_showsValueAt_iff elsewhere).mpr ?_
  exact sound.shows place inside ((retype_trackedAt_iff elsewhere).mp tracked)

theorem editLine_sound {notebook edited : Notebook} {text : List Char} {column : Nat}
    (sound : notebook.Sound) (inside : notebook.cursorLine < notebook.lines.length)
    (done : notebook.editLine text column = .ok edited) : edited.Sound := by
  obtain ⟨readers, recorded, refreshed⟩ := editLine_eq_ok_iff.mp done
  refine refresh_sound (retype_fitsLines sound.toFitsLines inside recorded) ?_
    (retype_settled sound) refreshed
  simpa [retype] using inside

/-- Lines above the edited one show their values as before, and the edited line shows its value. -/
theorem editLine_showsValueAt {notebook edited : Notebook} {text : List Char} {column : Nat}
    (fits : notebook.FitsLines) (inside : notebook.cursorLine < notebook.lines.length)
    (shows : ∀ place < notebook.cursorLine, notebook.ShowsValueAt place)
    (done : notebook.editLine text column = .ok edited) :
    ∀ place ≤ notebook.cursorLine, edited.ShowsValueAt place := by
  obtain ⟨readers, recorded, refreshed⟩ := editLine_eq_ok_iff.mp done
  intro place upTo
  rcases Nat.lt_or_eq_of_le upTo with above | here
  · refine (refresh_showsValueAt_above above refreshed).mpr ?_
    exact (retype_showsValueAt_iff (Nat.ne_of_lt above)).mpr (shows place above)
  · rw [here]
    refine refresh_showsValueAt (retype_fitsLines fits inside recorded) ?_ refreshed
    simpa [retype] using inside

theorem editLine_lines {notebook edited : Notebook} {text : List Char} {column : Nat}
    (done : notebook.editLine text column = .ok edited) :
    edited.lines = notebook.lines.set notebook.cursorLine (String.ofList text) := by
  obtain ⟨readers, recorded, refreshed⟩ := editLine_eq_ok_iff.mp done
  exact refresh_lines refreshed

theorem editLine_cursorLine {notebook edited : Notebook} {text : List Char} {column : Nat}
    (done : notebook.editLine text column = .ok edited) :
    edited.cursorLine = notebook.cursorLine := by
  obtain ⟨readers, recorded, refreshed⟩ := editLine_eq_ok_iff.mp done
  have kept := refresh_cursorLine refreshed
  exact kept

theorem editLine_cursorColumn {notebook edited : Notebook} {text : List Char} {column : Nat}
    (done : notebook.editLine text column = .ok edited) : edited.cursorColumn = column := by
  obtain ⟨readers, recorded, refreshed⟩ := editLine_eq_ok_iff.mp done
  have kept := refresh_cursorColumn refreshed
  exact kept

/-- A notebook that is coherent shows the value of every line, tracked or not. -/
theorem Coherent.sound {notebook : Notebook} (coherent : notebook.Coherent) : notebook.Sound := by
  obtain ⟨inStep, shows⟩ := coherent_iff.mp coherent
  exact ⟨inStep, fun place inside _ => shows place inside⟩

/-! ## Typing and deleting -/

/-- An edit that changes the current line only: a character that does not split it is inserted, or
the character before the cursor is deleted. -/
inductive EditsLine (notebook edited : Notebook) : Prop where
  | insert {character : Char} (stays : character ≠ '\n')
      (done : notebook.insert (String.singleton character) = .ok edited)
  | delete (inLine : 0 < notebook.column) (done : notebook.delete = .ok edited)

theorem EditsLine.exists_editLine {notebook edited : Notebook}
    (edits : notebook.EditsLine edited) :
    ∃ text column, notebook.editLine text column = .ok edited := by
  cases edits with
  | @insert character stays done =>
      have onLine : String.singleton character ≠ "\n" := by
        intro same
        have characters := congrArg String.toList same
        rw [String.toList_singleton] at characters
        exact stays (List.singleton_inj.mp characters)
      unfold Notebook.insert at done
      rw [if_neg onLine] at done
      exact ⟨_, _, done⟩
  | delete inLine done =>
      unfold Notebook.delete at done
      rw [if_pos inLine] at done
      exact ⟨_, _, done⟩

/-- Typing or deleting a character in a coherent notebook leaves it coherent, if the lines below
observe no results and the assignments among them have values: refreshing the line and what reads
its variable is then as good as evaluating all lines.  The cursor is on a line, as it always is in
a notebook that operations have led to. -/
theorem coherent_of_editsLine {notebook edited : Notebook} (edits : notebook.EditsLine edited)
    (coherent : notebook.Coherent) (inside : notebook.cursorLine < notebook.lines.length)
    (silent : ∀ place < edited.lines.length, notebook.cursorLine < place →
      ¬ObservesResults (edited.lineAt place))
    (assigned : ∀ place < edited.lines.length, notebook.cursorLine < place →
      StartsAssignment (edited.lineAt place) → (edited.assignmentAt place).isSome = true) :
    edited.Coherent := by
  obtain ⟨text, column, done⟩ := edits.exists_editLine
  obtain ⟨inStep, shows⟩ := coherent_iff.mp coherent
  have sound := editLine_sound coherent.sound inside done
  refine coherent_iff.mpr ⟨sound.toInStep, ?_⟩
  intro place isLine
  rcases Nat.lt_or_ge notebook.cursorLine place with below | upTo
  · exact sound.shows place isLine ⟨silent place isLine below, assigned place isLine below⟩
  · refine editLine_showsValueAt inStep.toFitsLines inside ?_ done place upTo
    intro above isAbove
    exact shows above (Nat.lt_trans isAbove inside)

/-- Typing a digit into the first of three lines reaches the last one through the second. -/
theorem coherent_after_typing_digit :
    ∃ notebook edited, EditsLine notebook edited ∧
      notebook.results = [some "5", some "10", some "11"] ∧
      edited.results = [some "50", some "100", some "101"] ∧ edited.Coherent := by
  let readers : ReaderIndex :=
    { reads := [(1, ["x"]), (2, ["y"])], readers := [("x", [1]), ("y", [2])] }
  let notebook : Notebook :=
    { lines := ["x = 5", "y = x * 2", "y + 1"]
      results := [some "5", some "10", some "11"]
      assignments := [some ⟨"x", "5"⟩, some ⟨"y", "10"⟩, none]
      bindings := [("x", "5"), ("y", "10")]
      readers := readers
      cursorLine := 0
      cursorColumn := 5 }
  let edited : Notebook :=
    { lines := ["x = 50", "y = x * 2", "y + 1"]
      results := [some "50", some "100", some "101"]
      assignments := [some ⟨"x", "50"⟩, some ⟨"y", "100"⟩, none]
      bindings := [("x", "50"), ("y", "100")]
      readers := readers
      cursorLine := 0
      cursorColumn := 6 }
  have done : notebook.insert (String.singleton '0') = .ok edited := by decide +kernel
  have edits : EditsLine notebook edited := .insert (by decide) done
  refine ⟨notebook, edited, edits, rfl, rfl, ?_⟩
  exact coherent_of_editsLine edits (by decide +kernel) (by decide) (by decide +kernel)
    (by decide +kernel)

end Notebook

end NoteCalc
