import NoteCalc.Proofs.Notebook.ReaderIndexing

/-!
# The reader index after any series of recordings

Lines may be recorded one by one, at any places and in any order, and all of them may be recorded
anew.  The index then depends on the latest text of every line only: it holds the names which that
text reads, and the readers of a name are the lines whose latest text reads it.
-/

namespace NoteCalc

open SortedTable (members HoldsSets find?)

namespace ReaderIndex

/-- One change of what an index has recorded. -/
inductive Recording where
  /-- Forget everything, and record the texts of successive lines from the first place on. -/
  | rebuild (lines : List String)
  /-- Record the text of one line anew. -/
  | update (line : Int) (text : String)
deriving Repr, DecidableEq

namespace Recording

/-- The texts that are recorded. -/
def texts : Recording → List String
  | .rebuild lines => lines
  | .update _ text => [text]

/-- The text that is known of a line afterwards, given what was known of every line before. -/
def latest (known : Int → Option String) : Recording → Int → Option String
  | .rebuild lines, line => if 0 ≤ line then lines[line.toNat]? else none
  | .update place text, line => if line = place then some text else known line

end Recording

/-- Carry out a change. -/
def record (index : ReaderIndex) : Recording → Except UnreadableDigit ReaderIndex
  | .rebuild lines => ofLines lines
  | .update line text => index.update line text

/-- Carry out a series of changes. -/
def recordAll (index : ReaderIndex) (recordings : List Recording) :
    Except UnreadableDigit ReaderIndex :=
  recordings.foldlM record index

/-- The latest text of every line in a series of changes, given what was known before. -/
def latestTexts (known : Int → Option String) (recordings : List Recording) :
    Int → Option String :=
  recordings.foldl Recording.latest known

/-- The names that a line reads, according to what is known of its text. -/
def namesKnown (known : Int → Option String) (line : Int) : List String :=
  (known line).elim [] namesReadBy

/-- An index is well-formed and holds the names that the known texts read. -/
structure Holds (index : ReaderIndex) (known : Int → Option String) : Prop where
  wellFormed : index.WellFormed
  names : ∀ line, index.namesOf line = namesKnown known line

/-! ## Every series of recordings -/

variable {index : ReaderIndex} {known : Int → Option String}

theorem holds_empty : Holds {} fun _ => none where
  wellFormed := wellFormed_empty
  names _ := rfl

theorem Holds.unique {other : ReaderIndex} (holds : index.Holds known)
    (otherHolds : other.Holds known) : index = other := by
  apply holds.wellFormed.ext otherHolds.wellFormed
  intro line
  rw [holds.names, otherHolds.names]

theorem Indexes.holds {lines : List String} (indexes : index.Indexes lines) :
    index.Holds ((Recording.rebuild lines).latest known) where
  wellFormed := indexes.wellFormed
  names line := by
    rw [indexes.names]
    cases line with
    | ofNat place => cases isLine : lines[place]? <;> simp [namesAt, namesKnown, Recording.latest,
        isLine]
    | negSucc place => simp [namesAt, namesKnown, Recording.latest]

/-- One change: recorded texts that can be scanned become the known ones. -/
theorem Holds.record (holds : index.Holds known) {recording : Recording}
    (readable : ∀ text ∈ recording.texts, Readable text) :
    ∃ next, index.record recording = .ok next ∧
      next.Holds (recording.latest known) := by
  cases recording with
  | rebuild lines =>
      obtain ⟨next, built⟩ := exists_ofLines readable
      exact ⟨next, built, (ofLines_eq_ok_iff.mp built).2.holds⟩
  | update line text =>
      have isReadable : Readable text := readable text (List.mem_singleton.mpr rfl)
      refine ⟨_, update_eq_ok_iff.mpr ⟨isReadable, rfl⟩,
        holds.wellFormed.setReads line (ascending_namesReadBy text), ?_⟩
      intro other
      rw [namesOf_setReads, holds.names]
      unfold namesKnown
      rw [Recording.latest]
      split <;> rfl

/-- A whole series of changes. -/
theorem Holds.recordAll (holds : index.Holds known) {recordings : List Recording}
    (readable : ∀ recording ∈ recordings, ∀ text ∈ recording.texts, Readable text) :
    ∃ last, index.recordAll recordings = .ok last ∧ last.Holds (latestTexts known recordings) := by
  induction recordings generalizing index known with
  | nil => exact ⟨index, rfl, holds⟩
  | cons recording recordings induction =>
      obtain ⟨readableFirst, readableRest⟩ := List.forall_mem_cons.mp readable
      obtain ⟨next, recorded, nextHolds⟩ := holds.record readableFirst
      obtain ⟨last, rest, lastHolds⟩ := induction nextHolds readableRest
      refine ⟨last, ?_, lastHolds⟩
      unfold ReaderIndex.recordAll at rest ⊢
      rw [List.foldlM_cons, recorded]
      exact rest

/-! ## What the index answers -/

/-- A line reads a name, according to what is known of its text. -/
def Reads (known : Int → Option String) (line : Int) (name : String) : Prop :=
  ∃ text, known line = some text ∧ name ∈ namesReadBy text

theorem mem_namesKnown {line : Int} {name : String} :
    name ∈ namesKnown known line ↔ Reads known line name := by
  unfold namesKnown Reads
  cases known line <;> simp

/-- An index answers every question about the known texts: it lists what every line reads, in lines
that read anything, and who reads every name, among names that anyone reads. -/
structure Answers (index : ReaderIndex) (known : Int → Option String) : Prop where
  reads : ∀ line names, find? line index.reads = some names ↔
    ∃ text, known line = some text ∧ namesReadBy text = names ∧ names ≠ []
  readers : ∀ name lines, find? name index.readers = some lines →
    lines ≠ [] ∧ ∀ line, line ∈ lines ↔ Reads known line name
  contains : ∀ name, index.contains name = true ↔ ∃ line, Reads known line name
  ascending : ∀ name line, (index.readersAfter name line).Pairwise (· < ·)
  after : ∀ name line reader, reader ∈ index.readersAfter name line ↔
    line < reader ∧ Reads known reader name

theorem Holds.find?_reads (holds : index.Holds known) (line : Int) (names : List String) :
    find? line index.reads = some names ↔
      ∃ text, known line = some text ∧ namesReadBy text = names ∧ names ≠ [] := by
  have isNames : (find? line index.reads).getD [] = namesKnown known line := holds.names line
  unfold namesKnown at isNames
  constructor
  · intro found
    have nonempty := (holds.wellFormed.reads.sets line names found).2
    rw [found, Option.getD_some] at isNames
    cases isText : known line with
    | none =>
        rw [isText] at isNames
        exact absurd isNames nonempty
    | some text =>
        rw [isText] at isNames
        exact ⟨text, rfl, isNames.symm, nonempty⟩
  · rintro ⟨text, isText, rfl, nonempty⟩
    rw [isText, Option.elim_some] at isNames
    cases found : find? line index.reads with
    | none =>
        rw [found] at isNames
        exact absurd isNames.symm nonempty
    | some names =>
        rw [found] at isNames
        exact congrArg some isNames

theorem Holds.mem_readersOf (holds : index.Holds known) {name : String} {line : Int} :
    line ∈ index.readersOf name ↔ Reads known line name := by
  rw [holds.wellFormed.inverse, holds.names, mem_namesKnown]

theorem Holds.contains_iff (holds : index.Holds known) (name : String) :
    index.contains name = true ↔ ∃ line, Reads known line name := by
  unfold contains
  have isReader (line : Int) : line ∈ members name index.readers ↔ Reads known line name :=
    holds.mem_readersOf
  unfold members at isReader
  cases found : find? name index.readers with
  | none => simpa [found] using isReader
  | some lines =>
      obtain ⟨line, member⟩ :=
        List.exists_mem_of_ne_nil lines (holds.wellFormed.readers.sets name lines found).2
      exact ⟨fun _ => ⟨line, (isReader line).mp (by rwa [found])⟩, fun _ => rfl⟩

theorem Holds.answers (holds : index.Holds known) : index.Answers known where
  reads := holds.find?_reads
  readers name lines found := by
    refine ⟨(holds.wellFormed.readers.sets name lines found).2, fun line => ?_⟩
    rw [← holds.mem_readersOf, readersOf, members, found, Option.getD_some]
  contains := holds.contains_iff
  ascending name line := by
    have sorted := holds.wellFormed.readers.ascending_members name
    unfold SortedSet.Ascending at sorted
    exact (sorted.imp Int.compare_eq_lt.mp).filter _
  after name line reader := by
    rw [holds.wellFormed.mem_readersAfter, holds.names, mem_namesKnown]

/-- Recording texts that can be scanned always succeeds.  The index then answers for the latest text
of every line, and it is the same after any other series that leaves the same texts. -/
theorem recordAll_answers {recordings : List Recording}
    (readable : ∀ recording ∈ recordings, ∀ text ∈ recording.texts, Readable text) :
    ∃ index, recordAll {} recordings = .ok index ∧
      index.Answers (latestTexts (fun _ => none) recordings) ∧
      ∀ others, (∀ recording ∈ others, ∀ text ∈ recording.texts, Readable text) →
        latestTexts (fun _ => none) others = latestTexts (fun _ => none) recordings →
        recordAll {} others = .ok index := by
  obtain ⟨index, recorded, holds⟩ := holds_empty.recordAll readable
  refine ⟨index, recorded, holds.answers, ?_⟩
  intro others readableToo same
  obtain ⟨other, recordedToo, otherHolds⟩ := holds_empty.recordAll readableToo
  rw [recordedToo, otherHolds.unique (same ▸ holds)]

/-- The reader of a name goes when its line is recorded anew, and an assigned name is not read. -/
theorem recordAll_answers_rewritten :
    ∃ (recordings : List Recording) (index : ReaderIndex),
      recordings = [.rebuild ["x = 5", "x * 2"], .update 1 "y * 2", .update 7 "x + y",
        .update 0 "y"] ∧
      recordAll {} recordings = .ok index ∧
      index.Answers (latestTexts (fun _ => none) recordings) ∧
      index.readersAfter "y" 0 = [1, 7] ∧ index.readersAfter "x" 0 = [7] := by
  let recordings : List Recording :=
    [.rebuild ["x = 5", "x * 2"], .update 1 "y * 2", .update 7 "x + y", .update 0 "y"]
  have built : ofLines ["x = 5", "x * 2", "y * 2", "x + y", "y"] = .ok
      { reads := [(1, ["x"]), (2, ["y"]), (3, ["x", "y"]), (4, ["y"])]
        readers := [("x", [1, 3]), ("y", [2, 3, 4])] } := by decide +kernel
  have allReadable := (ofLines_eq_ok_iff.mp built).1
  have readable : ∀ recording ∈ recordings, ∀ text ∈ recording.texts, Readable text := by
    intro recording member text isText
    refine allReadable text ?_
    have texts : recordings.flatMap Recording.texts =
        ["x = 5", "x * 2", "y * 2", "x + y", "y"] := rfl
    exact texts ▸ List.mem_flatMap.mpr ⟨recording, member, isText⟩
  obtain ⟨index, recorded, answers, -⟩ := recordAll_answers readable
  have explicit : recordAll {} recordings = .ok
      { reads := [(0, ["y"]), (1, ["y"]), (7, ["x", "y"])]
        readers := [("x", [7]), ("y", [0, 1, 7])] } := by decide +kernel
  have same := Except.ok.inj (recorded.symm.trans explicit)
  refine ⟨recordings, index, rfl, recorded, answers, ?_⟩
  rw [same]
  decide +kernel

end ReaderIndex

end NoteCalc
