import Mathlib.Data.List.Basic
import NoteCalc.Notebook.ReaderIndex
import NoteCalc.Proofs.Ordered.Extensionality

/-!
# The reader index as a function of the lines

Both tables of a reader index are tables of nonempty sorted sets, and each is the inverse of the
other.  An index of this form is determined by the names it holds for every line.  Recording a
line anew replaces the names of that line and of no other, so the index that is kept up to date
while lines are edited is the one that is built from the lines as they stand.
-/

namespace NoteCalc

namespace SortedTable

variable {κ ν : Type} [Ord κ]

/-- The members of the set that a key has in a table of sets; the empty set for a missing key. -/
def members (key : κ) (entries : List (κ × List ν)) : List ν :=
  (find? key entries).getD []

/-- A table of sorted sets, none of which is empty. -/
structure HoldsSets [Ord ν] (entries : List (κ × List ν)) : Prop where
  ascending : Ascending entries
  sets : ∀ key found, find? key entries = some found → SortedSet.Ascending found ∧ found ≠ []

namespace HoldsSets

variable [Ord ν] {entries : List (κ × List ν)}

theorem nil : HoldsSets ([] : List (κ × List ν)) where
  ascending := ascending_nil
  sets := by
    intro key found isFound
    simp [find?] at isFound

theorem ascending_members (holds : HoldsSets entries) (key : κ) :
    SortedSet.Ascending (members key entries) := by
  unfold members
  cases found : find? key entries with
  | none => exact SortedSet.ascending_nil
  | some set => exact (holds.sets key set found).1

variable [Std.LawfulEqOrd κ] [DecidableEq κ]

theorem set [Std.TransOrd κ] (holds : HoldsSets entries) (key : κ) {added : List ν}
    (ascending : SortedSet.Ascending added) (nonempty : added ≠ []) :
    HoldsSets (SortedTable.set key added entries) where
  ascending := holds.ascending.set key added
  sets := by
    intro other found isFound
    rw [find?_set] at isFound
    split at isFound
    · rw [← Option.some.inj isFound]
      exact ⟨ascending, nonempty⟩
    · exact holds.sets other found isFound

theorem erase (holds : HoldsSets entries) (key : κ) :
    HoldsSets (SortedTable.erase key entries) where
  ascending := holds.ascending.erase key
  sets := by
    intro other found isFound
    rw [find?_erase] at isFound
    split at isFound
    · exact absurd isFound (Option.some_ne_none found).symm
    · exact holds.sets other found isFound

/-- A table of nonempty sets is determined by the members of its sets. -/
theorem ext [Std.TransOrd κ] {left right : List (κ × List ν)} (leftHolds : HoldsSets left)
    (rightHolds : HoldsSets right) (same : ∀ key, members key left = members key right) :
    left = right := by
  apply leftHolds.ascending.ext rightHolds.ascending
  intro key
  have equal := same key
  unfold members at equal
  cases inLeft : find? key left with
  | none =>
      cases inRight : find? key right with
      | none => rfl
      | some found =>
          rw [inLeft, inRight] at equal
          exact absurd equal.symm (rightHolds.sets key found inRight).2
  | some found =>
      cases inRight : find? key right with
      | none =>
          rw [inLeft, inRight] at equal
          exact absurd equal (leftHolds.sets key found inLeft).2
      | some other =>
          rw [inLeft, inRight] at equal
          exact congrArg some equal

end HoldsSets

variable [Std.LawfulEqOrd κ] [DecidableEq κ]

theorem members_set (key other : κ) (added : List ν) (entries : List (κ × List ν)) :
    members other (set key added entries) =
      if other = key then added else members other entries := by
  unfold members
  rw [find?_set]
  split <;> rfl

theorem members_erase (key other : κ) (entries : List (κ × List ν)) :
    members other (erase key entries) = if other = key then [] else members other entries := by
  unfold members
  rw [find?_erase]
  split <;> rfl

end SortedTable

open SortedTable (members HoldsSets)

namespace ReaderIndex

/-- The names that a line reads according to an index. -/
def namesOf (index : ReaderIndex) (line : Int) : List String :=
  members line index.reads

/-- The lines that read a name according to an index. -/
def readersOf (index : ReaderIndex) (name : String) : List Int :=
  members name index.readers

/-- The tables of an index hold nonempty sets and are inverse to each other. -/
structure WellFormed (index : ReaderIndex) : Prop where
  reads : HoldsSets index.reads
  readers : HoldsSets index.readers
  inverse : ∀ name line, line ∈ index.readersOf name ↔ name ∈ index.namesOf line

theorem wellFormed_empty : WellFormed {} where
  reads := HoldsSets.nil
  readers := HoldsSets.nil
  inverse := by
    intro name line
    simp [readersOf, namesOf, members, SortedTable.find?]

/-- A well-formed index is determined by the names that it holds for every line. -/
theorem WellFormed.ext {left right : ReaderIndex} (leftFormed : left.WellFormed)
    (rightFormed : right.WellFormed) (same : ∀ line, left.namesOf line = right.namesOf line) :
    left = right := by
  have sameReads : left.reads = right.reads := leftFormed.reads.ext rightFormed.reads same
  have sameReaders : left.readers = right.readers := by
    apply leftFormed.readers.ext rightFormed.readers
    intro name
    refine (leftFormed.readers.ascending_members name).ext
      (rightFormed.readers.ascending_members name) ?_
    intro line
    have inLeft := leftFormed.inverse name line
    have inRight := rightFormed.inverse name line
    rw [same line] at inLeft
    exact inLeft.trans inRight.symm
  cases left
  cases right
  simp_all

/-! ## Adding and removing a line -/

variable {readers : List (String × List Int)} {line : Int}

theorem members_addReader (name other : String) :
    members other (addReader line readers name) =
      if other = name then SortedSet.insert line (members name readers)
      else members other readers :=
  SortedTable.members_set name other _ readers

theorem members_removeReader (name other : String) :
    members other (removeReader line readers name) =
      if other = name then SortedSet.erase line (members name readers)
      else members other readers := by
  unfold removeReader
  simp only
  split
  · rename_i isEmpty
    have nothing : SortedSet.erase line (members name readers) = [] :=
      List.isEmpty_iff.mp isEmpty
    rw [SortedTable.members_erase, nothing]
  · exact SortedTable.members_set name other _ readers

theorem holdsSets_addReader (holds : HoldsSets readers) (line : Int) (name : String) :
    HoldsSets (addReader line readers name) := by
  refine holds.set name ((holds.ascending_members name).insert line) ?_
  intro isNil
  have member : line ∈ SortedSet.insert line (members name readers) :=
    SortedSet.mem_insert.mpr (.inl rfl)
  unfold members at member
  rw [isNil] at member
  exact List.not_mem_nil member

theorem holdsSets_removeReader (holds : HoldsSets readers) (line : Int) (name : String) :
    HoldsSets (removeReader line readers name) := by
  unfold removeReader
  simp only
  split
  · exact holds.erase name
  · rename_i nonempty
    refine holds.set name ((holds.ascending_members name).erase line) ?_
    intro isNil
    exact nonempty (List.isEmpty_iff.mpr isNil)

/-- Adding a line to the readers of some names. -/
theorem addReaders (holds : HoldsSets readers) (line : Int) (names : List String) :
    HoldsSets (names.foldl (addReader line) readers) ∧
      ∀ name reader, reader ∈ members name (names.foldl (addReader line) readers) ↔
        reader = line ∧ name ∈ names ∨ reader ∈ members name readers := by
  induction names generalizing readers with
  | nil => exact ⟨holds, by simp⟩
  | cons first names induction =>
      obtain ⟨tailHolds, tailMembers⟩ := induction (holdsSets_addReader holds line first)
      refine ⟨tailHolds, ?_⟩
      intro name reader
      rw [List.foldl_cons, tailMembers, members_addReader]
      by_cases here : name = first
      · rw [if_pos here, SortedSet.mem_insert, here]
        simp only [List.mem_cons, true_or, and_true]
        tauto
      · simp [here]

/-- Removing a line from the readers of some names. -/
theorem removeReaders (holds : HoldsSets readers) (line : Int) (names : List String) :
    HoldsSets (names.foldl (removeReader line) readers) ∧
      ∀ name reader, reader ∈ members name (names.foldl (removeReader line) readers) ↔
        ¬(reader = line ∧ name ∈ names) ∧ reader ∈ members name readers := by
  induction names generalizing readers with
  | nil => exact ⟨holds, by simp⟩
  | cons first names induction =>
      obtain ⟨tailHolds, tailMembers⟩ :=
        induction (holdsSets_removeReader holds line first)
      refine ⟨tailHolds, ?_⟩
      intro name reader
      rw [List.foldl_cons, tailMembers, members_removeReader]
      by_cases here : name = first
      · rw [if_pos here, SortedSet.mem_erase, here]
        simp only [List.mem_cons, true_or, and_true]
        tauto
      · simp [here]

/-! ## Replacing what a line reads -/

theorem namesOf_setReads (index : ReaderIndex) (line other : Int) (names : List String) :
    (index.setReads line names).namesOf other =
      if other = line then names else index.namesOf other := by
  unfold setReads namesOf
  simp only
  split
  · rename_i isEmpty
    rw [SortedTable.members_erase, List.isEmpty_iff.mp isEmpty]
  · rw [SortedTable.members_set, SortedTable.members_erase]
    split <;> rfl

theorem WellFormed.setReads {index : ReaderIndex} (formed : index.WellFormed) (line : Int)
    {names : List String} (ascending : SortedSet.Ascending names) :
    (index.setReads line names).WellFormed := by
  obtain ⟨removedHold, removedMembers⟩ :=
    removeReaders formed.readers line (index.namesOf line)
  obtain ⟨addedHold, addedMembers⟩ := addReaders removedHold line names
  refine ⟨?_, addedHold, ?_⟩
  · unfold ReaderIndex.setReads
    simp only
    split
    · exact formed.reads.erase line
    · rename_i nonempty
      exact (formed.reads.erase line).set line ascending
        fun isNil => nonempty (List.isEmpty_iff.mpr isNil)
  · intro name reader
    rw [namesOf_setReads]
    refine (addedMembers name reader).trans ?_
    rw [removedMembers]
    have inverse : reader ∈ members name index.readers ↔ name ∈ index.namesOf reader :=
      formed.inverse name reader
    rw [inverse]
    by_cases here : reader = line
    · simp [here]
    · simp [here]

/-- The readers of a name below a line are the later lines that read it. -/
theorem WellFormed.mem_readersAfter {index : ReaderIndex} (formed : index.WellFormed)
    {name : String} {line reader : Int} :
    reader ∈ index.readersAfter name line ↔ line < reader ∧ name ∈ index.namesOf reader := by
  have inverse : reader ∈ (SortedTable.find? name index.readers).getD [] ↔
      name ∈ index.namesOf reader := formed.inverse name reader
  rw [readersAfter, List.mem_filter, inverse, decide_eq_true_iff]
  exact and_comm

/-! ## The index of some lines -/

/-- Whether a line can be scanned. -/
def Readable (text : String) : Prop :=
  ∃ scanned, scan text = .ok scanned

/-- The names that a text reads; none if it cannot be scanned. -/
def namesReadBy (text : String) : List String :=
  match scan text with
  | .ok scanned => namesRead scanned.tokens
  | .error _ => []

theorem ascending_namesReadBy (text : String) : SortedSet.Ascending (namesReadBy text) := by
  unfold namesReadBy
  split
  · exact SortedSet.ascending_ofList _
  · exact SortedSet.ascending_nil

theorem update_eq_ok_iff {index updated : ReaderIndex} {line : Int} {text : String} :
    index.update line text = .ok updated ↔
      Readable text ∧ updated = index.setReads line (namesReadBy text) := by
  unfold update Readable namesReadBy
  cases scanned : scan text with
  | error digit => simp [Except.map]
  | ok found => simp [Except.map, eq_comm]

/-- The names that the line at a place reads; none where there is no line. -/
def namesAt (lines : List String) : Int → List String
  | .ofNat place => (lines[place]?.map namesReadBy).getD []
  | .negSucc _ => []

/-- An index holds, for every place, the names that the line there reads. -/
structure Indexes (index : ReaderIndex) (lines : List String) : Prop where
  wellFormed : index.WellFormed
  names : ∀ place, index.namesOf place = namesAt lines place

theorem Indexes.unique {left right : ReaderIndex} {lines : List String}
    (leftIndexes : left.Indexes lines) (rightIndexes : right.Indexes lines) : left = right := by
  apply leftIndexes.wellFormed.ext rightIndexes.wellFormed
  intro place
  rw [leftIndexes.names, rightIndexes.names]

/-- Recording the new text of a line keeps an index up to date. -/
theorem Indexes.update {index updated : ReaderIndex} {lines : List String} {place : Nat}
    {text : String} (indexes : index.Indexes lines) (inside : place < lines.length)
    (recorded : index.update place text = .ok updated) :
    updated.Indexes (lines.set place text) := by
  obtain ⟨-, rfl⟩ := update_eq_ok_iff.mp recorded
  refine ⟨indexes.wellFormed.setReads place (ascending_namesReadBy text), ?_⟩
  intro other
  rw [namesOf_setReads, indexes.names]
  cases other with
  | negSucc other => simp [namesAt]
  | ofNat other =>
      by_cases here : other = place
      · subst here
        simp [namesAt, inside]
      · have elsewhere : (Int.ofNat other : Int) ≠ (place : Int) := by
          intro equal
          exact here (Int.ofNat.inj equal)
        rw [if_neg elsewhere]
        simp [namesAt, Ne.symm here]

/-- Lines recorded one after the other. -/
theorem updateFrom_eq_ok_iff {index updated : ReaderIndex} {done lines : List String}
    (indexes : index.Indexes done) :
    index.updateFrom done.length lines = .ok updated ↔
      (∀ line ∈ lines, Readable line) ∧ updated.Indexes (done ++ lines) := by
  induction lines generalizing index done with
  | nil =>
      simp only [updateFrom, List.append_nil, Except.ok.injEq, List.not_mem_nil, false_imp_iff,
        implies_true, true_and]
      constructor
      · rintro rfl
        exact indexes
      · exact indexes.unique
  | cons line lines induction =>
      have extended (readable : Readable line) :
          (index.setReads done.length (namesReadBy line)).Indexes (done ++ [line]) := by
        refine ⟨indexes.wellFormed.setReads _ (ascending_namesReadBy line), ?_⟩
        intro place
        rw [namesOf_setReads, indexes.names]
        cases place with
        | negSucc place => simp [namesAt]
        | ofNat place =>
            by_cases here : place = done.length
            · subst here
              simp [namesAt]
            · have elsewhere : (Int.ofNat place : Int) ≠ (done.length : Int) := by
                intro equal
                exact here (Int.ofNat.inj equal)
              rw [if_neg elsewhere]
              rcases Nat.lt_or_gt_of_ne here with before | after
              · simp [namesAt, List.getElem?_append_left before]
              · have pastDone : done.length ≤ place := Nat.le_of_lt after
                have pastLine : (done ++ [line]).length ≤ place := by
                  rw [List.length_append, List.length_singleton]
                  exact after
                simp [namesAt, List.getElem?_eq_none pastDone, List.getElem?_eq_none pastLine]
      have unfolded : index.updateFrom done.length (line :: lines) =
          (index.update done.length line).bind fun index =>
            index.updateFrom (done.length + 1) lines := rfl
      rw [unfolded]
      by_cases readable : Readable line
      · have recorded := update_eq_ok_iff.mpr
          ⟨readable, (rfl : index.setReads done.length (namesReadBy line) = _)⟩
        have rest := induction (extended readable)
        rw [List.length_append, List.length_singleton] at rest
        rw [recorded]
        simp only [Except.bind]
        rw [rest, List.append_assoc]
        simp [readable]
      · have refused : ∀ index', index.update done.length line ≠ .ok index' :=
          fun index' recorded => readable (update_eq_ok_iff.mp recorded).1
        cases result : index.update done.length line with
        | ok index' => exact absurd result (refused index')
        | error digit => simp [Except.bind, readable]

/-- Building an index succeeds when every line can be scanned, and gives the index of the lines. -/
theorem ofLines_eq_ok_iff {lines : List String} {index : ReaderIndex} :
    ofLines lines = .ok index ↔ (∀ line ∈ lines, Readable line) ∧ index.Indexes lines := by
  have start : Indexes {} [] := by
    refine ⟨wellFormed_empty, ?_⟩
    intro place
    cases place <;> simp [namesOf, namesAt, members, SortedTable.find?]
  have built : updateFrom {} 0 lines = .ok index ↔
      (∀ line ∈ lines, Readable line) ∧ index.Indexes ([] ++ lines) := updateFrom_eq_ok_iff start
  rwa [List.nil_append] at built

theorem exists_updateFrom {lines : List String} (readable : ∀ line ∈ lines, Readable line)
    (index : ReaderIndex) (place : Nat) :
    ∃ updated, index.updateFrom place lines = .ok updated := by
  induction lines generalizing index place with
  | nil => exact ⟨index, rfl⟩
  | cons line lines induction =>
      obtain ⟨⟨scanned, isScan⟩, readableRest⟩ := List.forall_mem_cons.mp readable
      obtain ⟨updated, rest⟩ := induction readableRest
        (index.setReads place (namesRead scanned.tokens)) (place + 1)
      refine ⟨updated, ?_⟩
      rw [updateFrom, update, isScan]
      exact rest

/-- Lines that can be scanned have an index. -/
theorem exists_ofLines {lines : List String} (readable : ∀ line ∈ lines, Readable line) :
    ∃ index, ofLines lines = .ok index :=
  exists_updateFrom readable {} 0

end ReaderIndex

end NoteCalc
