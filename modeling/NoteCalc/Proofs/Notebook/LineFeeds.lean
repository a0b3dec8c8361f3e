import NoteCalc.Proofs.Notebook.Consistency
import NoteCalc.Proofs.Notebook.RenumberedLines

/-!
# Lines without line feeds

No operation puts a line feed into a line, as long as a text that is inserted is a line feed, which
splits the line, or holds none.  Cutting and joining lines makes no new characters, renumbering
brings in characters of words only, and a line feed is none of these.
-/

namespace NoteCalc

open NoteCalc.Text Lexeme Renumbering

/-! ## Renumbered lines -/

theorem isWordCharacter_lineFeed : isWordCharacter '\n' = false :=
  isWordCharacter_of_isBlank (by decide +kernel)

namespace Respelling

variable {respelling : Respelling}

/-- Respelling brings in word characters only. -/
theorem mem_or_isWordCharacter_of_mem_text {before : List Char} {character : Char}
    (member : character ∈ respelling.text before) :
    character ∈ before ∨ isWordCharacter character = true := by
  fun_induction respelling.text before with
  | case1 => exact .inl member
  | case2 first rest word left isWord induction =>
      rw [← word?_append isWord]
      rcases List.mem_append.mp member with inWord | later
      · rcases respelling.word_eq_or_inert word with same | ⟨-, inert⟩
        · exact .inl (List.mem_append_left left (same ▸ inWord))
        · exact .inr (isWordCharacter_of_isWord inert.isWord character inWord)
      · exact (induction later).imp_left (List.mem_append_right word)
  | case3 first rest noWord induction =>
      rcases List.mem_cons.mp member with rfl | later
      · exact .inl (List.mem_cons_self ..)
      · exact (induction later).imp_left (List.mem_cons_of_mem first)

theorem lineFeed_not_mem_of_respellReferences
    {respell : Nat → Except UnreadableDigit (Option String)} (writes : respelling.Writes respell)
    {line new : String} (absent : '\n' ∉ line.toList)
    (respelt : respellReferences respell line = .ok new) : '\n' ∉ new.toList := by
  rw [text_of_respellReferences writes respelt]
  intro member
  rcases mem_or_isWordCharacter_of_mem_text member with present | inWord
  · exact absent present
  · rw [isWordCharacter_lineFeed] at inWord
    exact absurd inWord (by simp)

end Respelling

namespace LineFeedFree

variable {lines renumbered : List String}

theorem set (free : LineFeedFree lines) {text : String} (absent : '\n' ∉ text.toList)
    (place : Nat) : LineFeedFree (lines.set place text) := by
  intro line member
  rcases List.mem_or_eq_of_mem_set member with kept | rfl
  · exact free line kept
  · exact absent

theorem insertIdx (free : LineFeedFree lines) {text : String} (absent : '\n' ∉ text.toList)
    (place : Nat) : LineFeedFree (lines.insertIdx place text) := by
  intro line member
  rcases List.eq_or_mem_of_mem_insertIdx member with rfl | kept
  · exact absent
  · exact free line kept

theorem eraseIdx (free : LineFeedFree lines) (place : Nat) : LineFeedFree (lines.eraseIdx place) :=
  fun line member => free line (List.mem_of_mem_eraseIdx member)

theorem allAfterInsertion {place : Nat} {skipped : Option Int} {first : Nat}
    (free : LineFeedFree lines)
    (done : allAfterInsertion place skipped first lines = .ok renumbered) :
    LineFeedFree renumbered := by
  induction lines generalizing first renumbered with
  | nil => exact Except.ok.inj done ▸ free
  | cons text lines induction =>
      obtain ⟨here, later⟩ := List.forall_mem_cons.mp free
      obtain ⟨respelt, rest, rfl, isFirst, isRest⟩ := allAfterInsertion_cons_eq_ok_iff.mp done
      refine List.forall_mem_cons.mpr ⟨?_, induction later isRest⟩
      split at isFirst
      · exact Except.ok.inj isFirst ▸ here
      · exact Respelling.lineFeed_not_mem_of_respellReferences (writes_insertion place) here isFirst

theorem allAfterRemoval {place : Nat} (free : LineFeedFree lines)
    (done : allAfterRemoval place lines = .ok renumbered) : LineFeedFree renumbered := by
  have pairs := (List.forall₂_and_left _ _).mpr ⟨free, mapM_eq_ok_iff.mp done⟩
  refine RelatedLists.forall_right pairs fun line respelt pair => ?_
  exact Respelling.lineFeed_not_mem_of_respellReferences (writes_removal place) pair.1 pair.2

end LineFeedFree

namespace Notebook

variable {notebook next : Notebook}

/-! ## Operations -/

theorem lineFeed_not_mem_lineAt (free : LineFeedFree notebook.lines) (line : Nat) :
    '\n' ∉ (notebook.lineAt line).toList := by
  unfold lineAt
  cases isLine : notebook.lines[line]? with
  | none => simp
  | some text => exact free text (List.mem_of_getElem? isLine)

theorem lineFeed_not_mem_beforeCursor (free : LineFeedFree notebook.lines) :
    '\n' ∉ notebook.beforeCursor :=
  fun member => lineFeed_not_mem_lineAt free _ (List.mem_of_mem_take member)

theorem lineFeed_not_mem_afterCursor (free : LineFeedFree notebook.lines) :
    '\n' ∉ notebook.afterCursor :=
  fun member => lineFeed_not_mem_lineAt free _ (List.mem_of_mem_drop member)

/-- A text that is typed: a line feed or a text without one.  A single character always is. -/
def Typed (text : String) : Prop :=
  text = "\n" ∨ '\n' ∉ text.toList

theorem typed_singleton (character : Char) : Typed (String.singleton character) := by
  by_cases isLineFeed : character = '\n'
  · exact .inl (isLineFeed ▸ rfl)
  · refine .inr ?_
    rw [String.toList_singleton]
    exact List.not_mem_cons_of_ne_of_not_mem (Ne.symm isLineFeed) List.not_mem_nil

theorem editLine_lineFeedFree (free : LineFeedFree notebook.lines) {text : List Char}
    {column : Nat} (absent : '\n' ∉ text) (done : notebook.editLine text column = .ok next) :
    LineFeedFree next.lines := by
  rw [editLine_lines done]
  refine free.set ?_ _
  rw [String.toList_ofList]
  exact absent

theorem splitLine_lineFeedFree (free : LineFeedFree notebook.lines)
    (done : notebook.splitLine = .ok next) : LineFeedFree next.lines := by
  obtain ⟨lines, renumbered, rest⟩ := bind_eq_ok_iff.mp done
  have upper : '\n' ∉ (String.ofList notebook.beforeCursor).toList := by
    rw [String.toList_ofList]
    exact lineFeed_not_mem_beforeCursor free
  have lower : '\n' ∉ (String.ofList notebook.afterCursor).toList := by
    rw [String.toList_ofList]
    exact lineFeed_not_mem_afterCursor free
  have parted := (free.set upper notebook.cursorLine).insertIdx lower (notebook.cursorLine + 1)
  rw [(recalculate_lines rest).1]
  exact @LineFeedFree.allAfterInsertion _ _ (notebook.cursorLine + 1) _ _ parted renumbered

theorem joinLines_lineFeedFree (free : LineFeedFree notebook.lines)
    (done : notebook.joinLines = .ok next) : LineFeedFree next.lines := by
  obtain ⟨lines, renumbered, rest⟩ := bind_eq_ok_iff.mp done
  have joined : '\n' ∉
      (notebook.lineAt (notebook.cursorLine - 1) ++ notebook.currentLine).toList := by
    rw [String.toList_append, List.mem_append, not_or]
    exact ⟨lineFeed_not_mem_lineAt free _, lineFeed_not_mem_lineAt free _⟩
  have merged := (free.eraseIdx notebook.cursorLine).set joined (notebook.cursorLine - 1)
  rw [(recalculate_lines rest).1]
  exact merged.allAfterRemoval renumbered

theorem insert_lineFeedFree (free : LineFeedFree notebook.lines) {text : String}
    (typed : Typed text) (done : notebook.insert text = .ok next) : LineFeedFree next.lines := by
  unfold Notebook.insert at done
  split at done
  · exact splitLine_lineFeedFree free done
  · rename_i notLineFeed
    refine editLine_lineFeedFree free ?_ done
    rw [List.mem_append, List.mem_append, not_or, not_or]
    exact ⟨⟨lineFeed_not_mem_beforeCursor free, typed.resolve_left notLineFeed⟩,
      lineFeed_not_mem_afterCursor free⟩

theorem delete_lineFeedFree (free : LineFeedFree notebook.lines)
    (done : notebook.delete = .ok next) : LineFeedFree next.lines := by
  unfold Notebook.delete at done
  split at done
  · refine editLine_lineFeedFree free ?_ done
    rw [List.mem_append, not_or]
    exact ⟨fun member => lineFeed_not_mem_beforeCursor free (List.dropLast_subset _ member),
      lineFeed_not_mem_afterCursor free⟩
  · split at done
    · exact Except.ok.inj done ▸ free
    · exact joinLines_lineFeedFree free done

theorem update_lines {place : Int} (done : notebook.update place = .ok next) :
    next.lines = notebook.lines := by
  unfold Notebook.update at done
  split at done
  · exact refresh_lines (mapError_eq_ok_iff.mp done)
  · exact absurd done (by simp)

/-- No operation puts a line feed into a line. -/
theorem perform_lineFeedFree (free : LineFeedFree notebook.lines) {operation : Operation}
    (typed : ∀ text, operation = .insert text → Typed text)
    (done : notebook.perform operation = .ok next) : LineFeedFree next.lines := by
  cases operation with
  | insert text => exact insert_lineFeedFree free (typed text rfl) (mapError_eq_ok_iff.mp done)
  | delete => exact delete_lineFeedFree free (mapError_eq_ok_iff.mp done)
  | splitLine => exact splitLine_lineFeedFree free (mapError_eq_ok_iff.mp done)
  | moveTo line column => exact Except.ok.inj done ▸ free
  | update place => exact update_lines done ▸ free
  | recalculate => exact (recalculate_lines (mapError_eq_ok_iff.mp done)).1 ▸ free
  | setContent content =>
      rw [(recalculate_lines (mapError_eq_ok_iff.mp done)).1]
      exact lineFeedFree_linesOfContent content

/-- No series of operations puts a line feed into a line. -/
theorem run_lineFeedFree (free : LineFeedFree notebook.lines) {operations : List Operation}
    {last : Notebook} (typed : ∀ text, .insert text ∈ operations → Typed text)
    (done : notebook.run operations = .ok last) : LineFeedFree last.lines := by
  induction operations generalizing notebook with
  | nil => exact Except.ok.inj done ▸ free
  | cons operation operations induction =>
      obtain ⟨next, performed, rest⟩ := run_cons_eq_ok_iff.mp done
      have first (text : String) (isInsert : operation = .insert text) : Typed text :=
        typed text (isInsert ▸ List.mem_cons_self ..)
      have others (text : String) (member : .insert text ∈ operations) : Typed text :=
        typed text (List.mem_cons_of_mem operation member)
      exact induction (perform_lineFeedFree free first performed) others rest

end Notebook

end NoteCalc
