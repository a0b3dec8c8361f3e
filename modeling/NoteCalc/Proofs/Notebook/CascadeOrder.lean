import Mathlib.Order.Bounds.Basic
import NoteCalc.Proofs.Notebook.Recalculation

/-!
# The order of a cascade

A cascade keeps a set of pending lines: the first of them is evaluated, and the readers of what it
changes become pending, until no line is pending any more.  The set grows while it is used up, but
only by lines below the one that is evaluated.  So the lines are evaluated from the top to the
bottom and each at most once, the visit of successive lines is such a cascade, and exactly those
lines are evaluated that read a name whose assignment changes above them.
-/

namespace NoteCalc

namespace ReaderIndex

variable {index : ReaderIndex} {name : String} {line reader : Int}

theorem lt_of_mem_readersAfter (member : reader ∈ index.readersAfter name line) :
    line < reader := by
  simpa using (List.mem_filter.mp member).2

theorem namesReadBy_empty : namesReadBy "" = [] := by
  decide +kernel

/-- The readers of a name are lines that read it. -/
theorem Indexes.mem_readersAfter {lines : List String} {place : Nat}
    (indexes : index.Indexes lines) :
    (place : Int) ∈ index.readersAfter name line ↔
      line < place ∧ name ∈ namesReadBy (lines[place]?.getD "") := by
  rw [indexes.wellFormed.mem_readersAfter, indexes.names]
  have same : namesAt lines place = namesReadBy (lines[place]?.getD "") := by
    change (lines[place]?.map namesReadBy).getD [] = _
    cases lines[place]? with
    | none => exact namesReadBy_empty.symm
    | some text => rfl
  rw [same]

theorem Indexes.exists_place {lines : List String} (indexes : index.Indexes lines)
    (member : reader ∈ index.readersAfter name line) :
    ∃ place < lines.length, reader = (place : Int) := by
  obtain ⟨-, reads⟩ := indexes.wellFormed.mem_readersAfter.mp member
  rw [indexes.names] at reads
  cases reader with
  | negSucc place => exact absurd reads List.not_mem_nil
  | ofNat place =>
      refine ⟨place, ?_, rfl⟩
      by_contra outside
      have nothing : lines[place]? = none := List.getElem?_eq_none (Nat.le_of_not_lt outside)
      simp [namesAt, nothing] at reads

end ReaderIndex

namespace Notebook

open ReaderIndex (namesReadBy)

/-- The lines that become pending when the assignment of the line at a place has changed from one
notebook to another. -/
def wokenLines (notebook revised : Notebook) (place : Nat) : Set Int :=
  {line | line ∈ notebook.woken place (notebook.assignmentAt place) (revised.assignmentAt place)}

/-- Evaluate the first pending line, add the lines that it wakes, and go on until no line is
pending.  The list has the lines in the order in which they are evaluated. -/
inductive Cascade : Notebook → Set Int → List Nat → Notebook → Prop where
  | done (notebook : Notebook) : Cascade notebook ∅ [] notebook
  | visit {notebook revised last : Notebook} {pending : Set Int} {place : Nat}
      {visited : List Nat} (first : IsLeast pending (place : Int))
      (evaluated : notebook.reevaluate place = .ok revised)
      (rest : Cascade revised (pending \ {(place : Int)} ∪ notebook.wokenLines revised place)
        visited last) :
      Cascade notebook pending (place :: visited) last

variable {notebook revised last : Notebook} {pending : Set Int} {visited : List Nat}

theorem mem_wokenLines {place : Nat} {line : Int} :
    line ∈ notebook.wokenLines revised place ↔
      revised.assignmentAt place ≠ notebook.assignmentAt place ∧
        ∃ made ∈ (notebook.assignmentAt place).toList ++ (revised.assignmentAt place).toList,
          line ∈ notebook.readers.readersAfter made.name place := by
  change line ∈ notebook.woken place _ _ ↔ _
  unfold woken
  split
  · rename_i same
    simp [same]
  · rename_i different
    rw [List.mem_flatMap]
    exact (and_iff_right different).symm

/-- Only lines below wake. -/
theorem lt_of_mem_wokenLines {place : Nat} {line : Int}
    (member : line ∈ notebook.wokenLines revised place) : (place : Int) < line := by
  obtain ⟨-, made, -, reader⟩ := mem_wokenLines.mp member
  exact ReaderIndex.lt_of_mem_readersAfter reader

theorem wokenLines_congr {first second : Notebook} {place : Nat}
    (readers : second.readers = first.readers)
    (before : second.assignmentAt place = first.assignmentAt place)
    {firstRevised secondRevised : Notebook}
    (after : secondRevised.assignmentAt place = firstRevised.assignmentAt place) :
    second.wokenLines secondRevised place = first.wokenLines firstRevised place := by
  unfold wokenLines woken
  rw [readers, before, after]

/-! ## A cascade runs in one way only, downwards -/

/-- The next lines are decided by the pending ones. -/
theorem Cascade.unique {other : Notebook} {otherVisited : List Nat}
    (cascade : notebook.Cascade pending visited last)
    (otherCascade : notebook.Cascade pending otherVisited other) :
    otherVisited = visited ∧ other = last := by
  induction cascade generalizing otherVisited other with
  | done notebook =>
      generalize isEmpty : (∅ : Set Int) = pending at otherCascade
      cases otherCascade with
      | done => exact ⟨rfl, rfl⟩
      | visit first => exact absurd first.1 (isEmpty ▸ Set.notMem_empty _)
  | @visit notebook revised last pending place visited first evaluated rest induction =>
      cases otherCascade with
      | done => exact absurd first.1 (Set.notMem_empty _)
      | @visit _ otherRevised _ _ otherPlace _ otherFirst otherEvaluated otherRest =>
          obtain rfl : otherPlace = place := Int.ofNat.inj (otherFirst.unique first)
          obtain rfl : otherRevised = revised :=
            Except.ok.inj (otherEvaluated.symm.trans evaluated)
          obtain ⟨rfl, rfl⟩ := induction otherRest
          exact ⟨rfl, rfl⟩

theorem Cascade.head?_visited {place : Nat} (cascade : notebook.Cascade pending visited last)
    (first : IsLeast pending (place : Int)) : visited.head? = some place := by
  cases cascade with
  | done => exact absurd first.1 (Set.notMem_empty _)
  | visit isFirst => exact congrArg some (Int.ofNat.inj (isFirst.unique first))

/-- One visit: no pending line is above the one that comes next. -/
theorem le_of_mem_pending {place : Nat} {line : Int} (first : (place : Int) ∈ lowerBounds pending)
    (member : line ∈ pending \ {(place : Int)} ∪ notebook.wokenLines revised place) :
    ((place + 1 : Nat) : Int) ≤ line := by
  rcases member with ⟨isPending, isOther⟩ | isWoken
  · have atLeast : (place : Int) ≤ line := first isPending
    have different : line ≠ place := isOther
    omega
  · have isBelow := lt_of_mem_wokenLines isWoken
    omega

/-- Lines are evaluated from the first pending one on downwards, each of them once. -/
theorem Cascade.ascending (cascade : notebook.Cascade pending visited last) {bound : Nat}
    (above : ∀ line ∈ pending, (bound : Int) ≤ line) :
    visited.Pairwise (· < ·) ∧ ∀ line ∈ visited, bound ≤ line := by
  induction cascade generalizing bound with
  | done => exact ⟨List.Pairwise.nil, by simp⟩
  | @visit _ _ _ _ place visited first _ _ induction =>
      obtain ⟨ascending, below⟩ := induction fun line => le_of_mem_pending first.2
      have atLeast : bound ≤ place := Int.ofNat_le.mp (above _ first.1)
      refine ⟨List.pairwise_cons.mpr ⟨below, ascending⟩, ?_⟩
      intro line member
      rcases List.mem_cons.mp member with rfl | later
      · exact atLeast
      · exact Nat.le_trans atLeast (Nat.le_of_succ_le (below line later))

/-! ## What a cascade leaves alone -/

theorem Cascade.altersFrom (cascade : notebook.Cascade pending visited last) :
    AltersFrom 0 notebook last := by
  induction cascade with
  | done notebook => exact .refl 0 notebook
  | visit _ evaluated _ induction =>
      exact ((reevaluate_altersFrom evaluated).mono (Nat.zero_le _)).trans induction

/-- The result and the assignment of a line are the same in two notebooks. -/
def SameAt (first second : Notebook) (line : Nat) : Prop :=
  second.results[line]? = first.results[line]? ∧
    second.assignments[line]? = first.assignments[line]?

theorem SameAt.assignmentAt {first second : Notebook} {line : Nat}
    (same : SameAt first second line) :
    second.assignmentAt line = first.assignmentAt line :=
  congrArg Option.join same.2

theorem reevaluate_sameAt {place line : Nat} (evaluated : notebook.reevaluate place = .ok revised)
    (elsewhere : line ≠ place) : SameAt notebook revised line := by
  obtain ⟨shown, -, rfl⟩ := reevaluate_eq_ok_iff.mp evaluated
  exact ⟨List.getElem?_set_ne elsewhere.symm, List.getElem?_set_ne elsewhere.symm⟩

theorem Cascade.sameAt (cascade : notebook.Cascade pending visited last) {line : Nat}
    (unvisited : line ∉ visited) : SameAt notebook last line := by
  induction cascade with
  | done => exact ⟨rfl, rfl⟩
  | visit _ evaluated _ induction =>
      obtain ⟨elsewhere, later⟩ := not_or.mp (mt List.mem_cons.mpr unvisited)
      have first := reevaluate_sameAt evaluated elsewhere
      have rest := induction later
      exact ⟨rest.1.trans first.1, rest.2.trans first.2⟩

/-- The lines that are evaluated are those that are pending at the start and those that another one
of them wakes. -/
theorem Cascade.mem_visited_iff (cascade : notebook.Cascade pending visited last) {line : Nat} :
    line ∈ visited ↔ (line : Int) ∈ pending ∨
      ∃ above ∈ visited, (line : Int) ∈ notebook.wokenLines last above := by
  induction cascade with
  | done => simp
  | @visit notebook revised last pending place visited first evaluated rest induction =>
      -- The line that is visited is not visited again, and has not changed the lines below it.
      have below : ∀ other ∈ visited, place < other :=
        (rest.ascending fun _ => le_of_mem_pending first.2).2
      have unvisited : place ∉ visited := fun member => Nat.lt_irrefl place (below place member)
      have woken : notebook.wokenLines last place = notebook.wokenLines revised place :=
        wokenLines_congr rfl rfl (rest.sameAt unvisited).assignmentAt
      have wokenLater (above : Nat) (member : above ∈ visited) :
          revised.wokenLines last above = notebook.wokenLines last above := by
        refine wokenLines_congr (reevaluate_altersFrom evaluated).readers ?_ rfl
        exact (reevaluate_sameAt evaluated (Nat.ne_of_gt (below above member))).assignmentAt
      constructor
      · intro member
        rcases List.mem_cons.mp member with rfl | later
        · exact .inl first.1
        · rcases induction.mp later with (⟨isPending, -⟩ | isWoken) | ⟨above, isAbove, isWoken⟩
          · exact .inl isPending
          · exact .inr ⟨place, List.mem_cons_self, woken ▸ isWoken⟩
          · exact .inr ⟨above, List.mem_cons_of_mem place isAbove,
              wokenLater above isAbove ▸ isWoken⟩
      · rintro (isPending | ⟨above, isAbove, isWoken⟩)
        · by_cases here : line = place
          · exact here ▸ List.mem_cons_self
          · refine List.mem_cons_of_mem place (induction.mpr (.inl (.inl ⟨isPending, ?_⟩)))
            exact fun same => here (Int.ofNat.inj same)
        · refine List.mem_cons_of_mem place (induction.mpr ?_)
          rcases List.mem_cons.mp isAbove with rfl | later
          · exact .inl (.inr (woken ▸ isWoken))
          · exact .inr ⟨above, later, (wokenLater above later).symm ▸ isWoken⟩

/-- A name is in an assignment that has changed, above a line, from one notebook to another. -/
def ChangedAbove (before after : Notebook) (line : Nat) (name : String) : Prop :=
  ∃ above < line, after.assignmentAt above ≠ before.assignmentAt above ∧
    ∃ made ∈ (before.assignmentAt above).toList ++ (after.assignmentAt above).toList,
      made.name = name

/-- Besides the first line those are evaluated that read a name whose assignment has changed. -/
theorem Cascade.mem_visited_iff_reads {place line : Nat}
    (indexes : notebook.readers.Indexes notebook.lines)
    (cascade : notebook.Cascade {(place : Int)} visited last) :
    line ∈ visited ↔ line = place ∨
      ∃ name ∈ namesReadBy (notebook.lineAt line), ChangedAbove notebook last line name := by
  rw [cascade.mem_visited_iff, Set.mem_singleton_iff, Int.ofNat_inj]
  refine or_congr_right ⟨?_, ?_⟩
  · rintro ⟨above, -, isWoken⟩
    obtain ⟨changed, made, isMade, reader⟩ := mem_wokenLines.mp isWoken
    obtain ⟨below, reads⟩ := indexes.mem_readersAfter.mp reader
    exact ⟨made.name, reads, above, Int.ofNat_lt.mp below, changed, made, isMade, rfl⟩
  · rintro ⟨name, reads, above, below, changed, made, isMade, rfl⟩
    refine ⟨above, ?_, mem_wokenLines.mpr ⟨changed, made, isMade, ?_⟩⟩
    · by_contra unvisited
      exact changed (cascade.sameAt unvisited).assignmentAt
    · exact indexes.mem_readersAfter.mpr ⟨Int.ofNat_lt.mpr below, reads⟩

/-! ## The visit of successive lines is a cascade -/

theorem exists_propagate {place count : Nat} {pending : List Int}
    (readable : ∀ line ∈ notebook.lines, ReaderIndex.Readable line)
    (within : place + count ≤ notebook.lines.length) :
    ∃ last, notebook.propagate place pending count = .ok last := by
  induction count generalizing notebook place pending with
  | zero => exact ⟨notebook, rfl⟩
  | succ count induction =>
      rw [propagate]
      split
      · have inside : place < notebook.lines.length := by omega
        have isReadable := readable _ (List.mem_of_getElem? (lineAt_of_lt inside))
        obtain ⟨middle, evaluated⟩ := exists_reevaluate_of_readable isReadable
        have lines := (reevaluate_altersFrom evaluated).lines
        obtain ⟨last, rest⟩ := @induction middle (place + 1) _ (lines ▸ readable)
          (by rw [lines]; omega)
        exact ⟨last, bind_eq_ok_iff.mpr ⟨middle, evaluated, rest⟩⟩
      · exact induction readable (by omega)

/-- The lines that are pending from a place on. -/
def pendingFrom (pending : List Int) (place : Nat) : Set Int :=
  {line | line ∈ pending ∧ (place : Int) ≤ line}

theorem pendingFrom_singleton {place : Nat} :
    pendingFrom [(place : Int)] place = {(place : Int)} := by
  ext line
  constructor
  · rintro ⟨member, -⟩
    exact List.mem_singleton.mp member
  · intro here
    exact ⟨List.mem_singleton.mpr here, le_of_eq (Set.mem_singleton_iff.mp here).symm⟩

theorem pendingFrom_of_not_mem {pending : List Int} {place : Nat} (idle : (place : Int) ∉ pending) :
    pendingFrom pending (place + 1) = pendingFrom pending place := by
  ext line
  refine and_congr_right fun isPending => ?_
  have elsewhere : line ≠ place := fun here => idle (here ▸ isPending)
  omega

/-- One visit: from the next place on those lines are pending that were so before or wake. -/
theorem pendingFrom_woken {pending : List Int} {place : Nat} :
    pendingFrom (pending ++
        notebook.woken place (notebook.assignmentAt place) (revised.assignmentAt place))
        (place + 1) =
      pendingFrom pending place \ {(place : Int)} ∪ notebook.wokenLines revised place := by
  ext line
  constructor
  · rintro ⟨member, below⟩
    rcases List.mem_append.mp member with isPending | isWoken
    · refine .inl ⟨⟨isPending, by omega⟩, fun here => ?_⟩
      have here : line = place := here
      omega
    · exact .inr isWoken
  · intro member
    have below : ((place + 1 : Nat) : Int) ≤ line := le_of_mem_pending (fun _ => And.right) member
    rcases member with ⟨⟨isPending, -⟩, -⟩ | isWoken
    · exact ⟨List.mem_append_left _ isPending, below⟩
    · exact ⟨List.mem_append_right _ isWoken, below⟩

theorem exists_cascade_of_propagate {place count : Nat} {pending : List Int}
    (indexes : notebook.readers.Indexes notebook.lines)
    (toEnd : place + count = notebook.lines.length)
    (inside : ∀ line ∈ pending, line < notebook.lines.length)
    (ran : notebook.propagate place pending count = .ok last) :
    ∃ visited, notebook.Cascade (pendingFrom pending place) visited last := by
  induction count generalizing notebook place pending with
  | zero =>
      rw [propagate] at ran
      have idle : pendingFrom pending place = ∅ := by
        refine Set.eq_empty_of_forall_notMem ?_
        rintro line ⟨isPending, atLeast⟩
        have isInside := inside line isPending
        omega
      rw [idle, ← Except.ok.inj ran]
      exact ⟨[], .done notebook⟩
  | succ count induction =>
      have toEndLater : place + 1 + count = notebook.lines.length := by omega
      rw [propagate] at ran
      split at ran
      · rename_i isPending
        obtain ⟨middle, evaluated, rest⟩ := bind_eq_ok_iff.mp ran
        have alters := reevaluate_altersFrom evaluated
        have first : IsLeast (pendingFrom pending place) (place : Int) :=
          ⟨⟨by simpa using isPending, le_refl _⟩, fun line member => member.2⟩
        have insideLater : ∀ line ∈ pending ++ notebook.woken place (notebook.assignmentAt place)
            (middle.assignmentAt place), line < middle.lines.length := by
          intro line member
          rw [alters.lines]
          rcases List.mem_append.mp member with old | isWoken
          · exact inside line old
          · obtain ⟨-, made, -, reader⟩ := mem_wokenLines.mp isWoken
            obtain ⟨below, isBelow, rfl⟩ := indexes.exists_place reader
            exact Int.ofNat_lt.mpr isBelow
        obtain ⟨visited, cascade⟩ := induction (alters.lines ▸ alters.readers ▸ indexes)
          (alters.lines ▸ toEndLater) insideLater rest
        rw [pendingFrom_woken] at cascade
        exact ⟨place :: visited, .visit first evaluated cascade⟩
      · rename_i idle
        obtain ⟨visited, cascade⟩ := induction indexes toEndLater inside ran
        rw [pendingFrom_of_not_mem (by simpa using idle)] at cascade
        exact ⟨visited, cascade⟩

/-! ## Updating a line -/

/-- Updating the line at a place evaluates the visited lines and no others, in this order, which is
that of the only cascade there is. -/
structure Updates (notebook : Notebook) (place : Nat) (visited : List Nat) (revised : Notebook) :
    Prop where
  cascade : ∃ last, notebook.Cascade {(place : Int)} visited last ∧
    revised = { last with bindings := Bindings.ofAssignments last.assignments }
  only : ∀ other last, notebook.Cascade {(place : Int)} other last → other = visited
  starts : visited.head? = some place
  ascending : visited.Pairwise (· < ·)
  visits : ∀ line, line ∈ visited ↔ line = place ∨
    ∃ name ∈ namesReadBy (notebook.lineAt line), ChangedAbove notebook revised line name
  above : ∀ line < place, SameAt notebook revised line
  unaffected : ∀ line, place < line →
    (∀ name ∈ namesReadBy (notebook.lineAt line), ¬ChangedAbove notebook revised line name) →
    SameAt notebook revised line
  lines : revised.lines = notebook.lines
  readers : revised.readers = notebook.readers
  cursorLine : revised.cursorLine = notebook.cursorLine
  cursorColumn : revised.cursorColumn = notebook.cursorColumn

theorem Cascade.updates {place : Nat} (indexes : notebook.readers.Indexes notebook.lines)
    (cascade : notebook.Cascade {(place : Int)} visited last) :
    notebook.Updates place visited
      { last with bindings := Bindings.ofAssignments last.assignments } := by
  have fromPlace : ∀ line ∈ ({(place : Int)} : Set Int), (place : Int) ≤ line :=
    fun line member => le_of_eq (Set.mem_singleton_iff.mp member).symm
  obtain ⟨ascending, below⟩ := cascade.ascending fromPlace
  have visits : ∀ line, line ∈ visited ↔ line = place ∨
      ∃ name ∈ namesReadBy (notebook.lineAt line), ChangedAbove notebook last line name :=
    fun line => cascade.mem_visited_iff_reads indexes
  have unvisited : ∀ line, line ∉ visited → SameAt notebook last line :=
    fun line isOther => cascade.sameAt isOther
  have alters := cascade.altersFrom
  exact {
    cascade := ⟨last, cascade, rfl⟩
    only := fun other otherLast otherCascade => (cascade.unique otherCascade).1
    starts := cascade.head?_visited isLeast_singleton
    ascending := ascending
    visits := visits
    above := fun line isAbove =>
      unvisited line fun member => Nat.not_lt.mpr (below line member) isAbove
    unaffected := by
      intro line isBelow unaffected
      refine unvisited line fun member => ?_
      rcases (visits line).mp member with here | ⟨name, reads, changed⟩
      · exact absurd here (Nat.ne_of_gt isBelow)
      · exact unaffected name reads changed
    lines := alters.lines
    readers := alters.readers
    cursorLine := alters.cursorLine
    cursorColumn := alters.cursorColumn }

/-- Every line of a notebook can be updated, whatever the notebook shows, if its index is that of
its lines.  The update evaluates lines downwards from this one, each at most once: those that read a
name whose assignment changes above them.  All else is left as it was. -/
theorem update_cascade {place : Nat}
    (indexed : ReaderIndex.ofLines notebook.lines = .ok notebook.readers)
    (inside : place < notebook.lines.length) :
    ∃ revised visited, notebook.update place = .ok revised ∧
      notebook.Updates place visited revised := by
  obtain ⟨readable, indexes⟩ := ReaderIndex.ofLines_eq_ok_iff.mp indexed
  have toEnd : place + (notebook.lines.length - place) = notebook.lines.length := by omega
  obtain ⟨last, ran⟩ :=
    @exists_propagate notebook _ _ [(place : Int)] readable (Nat.le_of_eq toEnd)
  have refreshed : notebook.refresh place =
      .ok { last with bindings := Bindings.ofAssignments last.assignments } :=
    refresh_eq_ok_iff.mpr ⟨last, ran, rfl⟩
  have inLines : ∀ line ∈ [(place : Int)], line < notebook.lines.length := by
    intro line member
    rw [List.mem_singleton.mp member]
    exact Int.ofNat_lt.mpr inside
  obtain ⟨visited, cascade⟩ := exists_cascade_of_propagate indexes toEnd inLines ran
  rw [pendingFrom_singleton] at cascade
  refine ⟨_, visited, ?_, cascade.updates indexes⟩
  rw [update_of_inside inside, refreshed]
  rfl

/-- In a notebook that shows something else everywhere, a changed chain is put right and the line
in the midst of it is not. -/
theorem update_cascade_of_chain :
    ∃ (notebook revised : Notebook) (visited : List Nat),
      notebook.lines = ["x = 1", "y = x", "7", "x + y"] ∧
      notebook.results = [none, none, some "9", some "9"] ∧
      notebook.update 0 = .ok revised ∧
      revised.results = [some "1", some "1", some "9", some "2"] ∧
      notebook.Updates 0 visited revised := by
  let notebook : Notebook :=
    { lines := ["x = 1", "y = x", "7", "x + y"]
      results := [none, none, some "9", some "9"]
      assignments := [none, none, none, some ⟨"z", "9"⟩]
      bindings := []
      readers :=
        { reads := [(1, ["x"]), (3, ["x", "y"])], readers := [("x", [1, 3]), ("y", [3])] } }
  have indexed : ReaderIndex.ofLines notebook.lines = .ok notebook.readers := by decide +kernel
  have inside : 0 < notebook.lines.length := by decide
  have refreshed : notebook.refresh 0 = .ok
      { notebook with
        results := [some "1", some "1", some "9", some "2"]
        assignments := [some ⟨"x", "1"⟩, some ⟨"y", "1"⟩, none, none]
        bindings := [("x", "1"), ("y", "1")] } := by decide +kernel
  obtain ⟨revised, visited, updated, updates⟩ := update_cascade indexed inside
  refine ⟨notebook, revised, visited, rfl, rfl, updated, ?_, updates⟩
  rw [update_of_inside inside, refreshed] at updated
  rw [← Except.ok.inj updated]

end Notebook

end NoteCalc
