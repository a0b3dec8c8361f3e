import NoteCalc.Notebook.Saving
import NoteCalc.Proofs.Notebook.LineFeeds
import NoteCalc.Proofs.Notebook.Recalculation
import NoteCalc.Proofs.Storage.LawfulStorage

/-!
# Saved notebooks

A notebook is saved as the content of its lines, and loaded by evaluating the lines of a content.
No line of a notebook holds a line feed, and there always is a line, so a lawful storage gives the
lines back.  The loaded notebook can be evaluated, since all lines of a notebook can be read.
-/

namespace NoteCalc

namespace Notebook

variable {notebook : Notebook}

theorem ofContent_content (nonempty : notebook.lines ≠ [])
    (free : LineFeedFree notebook.lines) : ofContent notebook.content = ofLines notebook.lines := by
  rw [ofContent, setContent, content, linesOfContent_contentOfLines nonempty free,
    ofLines_of_ne_nil nonempty]
  rfl

theorem load_of_save {σ : Type} [Storage σ] [LawfulStorage σ] {storage stored later : σ}
    {path : String} (saved : notebook.save storage path = .ok stored)
    (kept : Storage.fetch later path = Storage.fetch stored path) :
    load later path = (ofContent notebook.content).mapError .unreadable := by
  unfold load
  rw [kept, LawfulStorage.fetch_store saved]

/-- A consistent notebook without line feeds is loaded as its lines. -/
theorem exists_load_of_save (consistent : notebook.Consistent) (free : LineFeedFree notebook.lines)
    {σ : Type} [Storage σ] [LawfulStorage σ] {storage stored later : σ} {path : String}
    (saved : notebook.save storage path = .ok stored)
    (kept : Storage.fetch later path = Storage.fetch stored path) :
    ∃ loaded, load later path = .ok loaded ∧ ofLines notebook.lines = .ok loaded ∧
      loaded.lines = notebook.lines ∧ loaded.cursorLine = 0 ∧ loaded.cursorColumn = 0 := by
  have readable := (ReaderIndex.ofLines_eq_ok_iff.mp consistent.readers).1
  obtain ⟨loaded, recalculated⟩ :=
    @exists_recalculate_of_readable { empty with lines := notebook.lines } readable
  have built := (ofLines_of_ne_nil consistent.lines).trans recalculated
  have isLoaded : load later path = .ok loaded := by
    rw [load_of_save saved kept, ofContent_content consistent.lines free, built]
    rfl
  obtain ⟨sameLines, cursorLine⟩ := recalculate_lines recalculated
  exact ⟨loaded, isLoaded, built, sameLines, cursorLine, recalculate_cursorColumn recalculated⟩

/-- Saving and loading loses nothing.  A content is that of its lines, and lines without line feeds
are those of their content.  After every series of operations with typed texts, no line holds a line
feed, and the notebook that is loaded after saving has the same lines, all of them evaluated, and
the cursor at the top; the storage may have changed since, but not under the path. -/
theorem load_save_keeps_lines :
    (∀ content, contentOfLines (linesOfContent content) = content) ∧
    (∀ lines, lines ≠ [] → LineFeedFree lines → linesOfContent (contentOfLines lines) = lines) ∧
    ∀ {start last : Notebook} {operations : List Operation}, start.Starts →
      LineFeedFree start.lines → (∀ text, .insert text ∈ operations → Typed text) →
      start.run operations = .ok last →
        LineFeedFree last.lines ∧
        ∀ {σ : Type} [Storage σ] [LawfulStorage σ] {storage stored later : σ} {path : String},
          last.save storage path = .ok stored →
          Storage.fetch later path = Storage.fetch stored path →
            ∃ loaded, load later path = .ok loaded ∧ ofLines last.lines = .ok loaded ∧
              loaded.lines = last.lines ∧ loaded.cursorLine = 0 ∧ loaded.cursorColumn = 0 := by
  refine ⟨contentOfLines_linesOfContent, fun lines => linesOfContent_contentOfLines, ?_⟩
  intro start last operations starts free typed done
  have freeToo := run_lineFeedFree free typed done
  exact ⟨freeToo, exists_load_of_save (starts.kept.run done).consistent freeToo⟩

/-- A line is split behind a new digit, and the last two lines are joined.  The notebook is kept as a
file, and what it was at the start as another one. -/
theorem load_saved_file :
    ∃ (start last loaded : Notebook) (stored later : FileTree),
      ofLines ["x = 5", "line1 * 2", ""] = .ok start ∧ LineFeedFree start.lines ∧
      start.run [.moveTo 0 5, .insert "0", .insert "\n", .moveTo 3 0, .delete] = .ok last ∧
      last.lines = ["x = 50", "", "line1 * 2"] ∧ LineFeedFree last.lines ∧
      last.save ({} : FileTree) "notes.pad" = .ok stored ∧
      start.save stored "start.pad" = .ok later ∧
      load later "notes.pad" = .ok loaded ∧ loaded.lines = last.lines ∧
      loaded.results = [some "50", none, some "100"] ∧ loaded.bindings = [("x", "50")] := by
  let start : Notebook :=
    { lines := ["x = 5", "line1 * 2", ""]
      results := [some "5", some "10", none]
      assignments := [some ⟨"x", "5"⟩, none, none]
      bindings := [("x", "5")]
      readers := {} }
  let last : Notebook :=
    { lines := ["x = 50", "", "line1 * 2"]
      results := [some "50", none, some "100"]
      assignments := [some ⟨"x", "50"⟩, none, none]
      bindings := [("x", "50")]
      readers := {}
      cursorLine := 2
      cursorColumn := 9 }
  have built : ofLines ["x = 5", "line1 * 2", ""] = .ok start := by decide +kernel
  have free : LineFeedFree start.lines := by decide +kernel
  have typed : ∀ text, .insert text ∈ [Operation.moveTo 0 5, .insert "0", .insert "\n",
      .moveTo 3 0, .delete] → Typed text := by
    intro text member
    have isText : text = String.singleton '0' ∨ text = String.singleton '\n' := by
      simpa using member
    rcases isText with rfl | rfl <;> exact typed_singleton _
  have done : start.run [.moveTo 0 5, .insert "0", .insert "\n", .moveTo 3 0, .delete] =
      .ok last := by decide +kernel
  obtain ⟨-, -, saves⟩ := load_save_keeps_lines
  obtain ⟨freeToo, loads⟩ := saves (.ofLines built) free typed done
  let stored := FileTree.put {} ["tmp", "/", "notes.pad"] (.file last.content.toUTF8)
  let later := stored.put ["tmp", "/", "start.pad"] (.file start.content.toUTF8)
  have saved : last.save ({} : FileTree) "notes.pad" = .ok stored := rfl
  have savedToo : start.save stored "start.pad" = .ok later := rfl
  have kept : Storage.fetch later "notes.pad" = Storage.fetch stored "notes.pad" := rfl
  obtain ⟨loaded, isLoaded, evaluated, sameLines, -, -⟩ := loads saved kept
  have known : ofLines last.lines = .ok { last with cursorLine := 0, cursorColumn := 0 } := by
    decide +kernel
  obtain rfl := Except.ok.inj (known.symm.trans evaluated)
  exact ⟨start, last, _, stored, later, built, free, done, rfl, freeToo, saved, savedToo, isLoaded,
    sameLines, rfl, rfl⟩

end Notebook

end NoteCalc
