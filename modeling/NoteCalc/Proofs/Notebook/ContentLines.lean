import NoteCalc.Notebook.Content

/-!
# Content and lines are inverse

A content is split at its line feeds, and its lines are joined with line feeds between them.
Joining the lines of a content always gives the content back.  Splitting what lines make up gives
the lines back if there is one at least and none of them holds a line feed; the lines of a content
are such lines.
-/

namespace NoteCalc

namespace Content

theorem split_eq_splitOn (content : List Char) : split content = content.splitOn '\n' := by
  induction content with
  | nil => rfl
  | cons character content induction =>
      rw [split, List.splitOn_cons_eq_if_modifyHead, ← induction]
      by_cases isLineFeed : character = '\n'
      · rw [if_pos isLineFeed, if_pos (beq_iff_eq.mpr isLineFeed)]
      · rw [if_neg isLineFeed, if_neg (mt beq_iff_eq.mp isLineFeed)]
        cases lines : split content with
        | nil => exact absurd lines (split_ne_nil content)
        | cons line lines => rfl

theorem join_eq_intercalate (lines : List (List Char)) : join lines = ['\n'].intercalate lines := by
  fun_induction join lines with
  | case1 => rfl
  | case2 line => exact List.intercalate_singleton.symm
  | case3 line next lines induction =>
      rw [induction, List.intercalate_cons_cons, List.append_assoc, List.singleton_append]

theorem join_split (content : List Char) : join (split content) = content := by
  rw [split_eq_splitOn, join_eq_intercalate, List.intercalate_splitOn]

theorem split_join {lines : List (List Char)} (nonempty : lines ≠ [])
    (free : ∀ line ∈ lines, '\n' ∉ line) : split (join lines) = lines := by
  rw [split_eq_splitOn, join_eq_intercalate, List.splitOn_intercalate '\n' free nonempty]

theorem lineFeed_not_mem_of_mem_split (content : List Char) :
    ∀ line ∈ split content, '\n' ∉ line := by
  induction content with
  | nil => simp [split]
  | cons character content induction =>
      unfold split
      split
      · exact List.forall_mem_cons.mpr ⟨List.not_mem_nil, induction⟩
      · rename_i isOther
        cases lines : split content with
        | nil => exact absurd lines (split_ne_nil content)
        | cons line lines =>
            rw [lines] at induction
            obtain ⟨first, others⟩ := List.forall_mem_cons.mp induction
            refine List.forall_mem_cons.mpr ⟨?_, others⟩
            exact List.not_mem_cons_of_ne_of_not_mem (Ne.symm isOther) first

end Content

/-- No line holds a line feed. -/
def LineFeedFree (lines : List String) : Prop :=
  ∀ line ∈ lines, '\n' ∉ line.toList

instance (lines : List String) : Decidable (LineFeedFree lines) :=
  inferInstanceAs (Decidable (∀ line ∈ lines, '\n' ∉ line.toList))

theorem linesOfContent_ne_nil (content : String) : linesOfContent content ≠ [] :=
  mt List.map_eq_nil_iff.mp (Content.split_ne_nil content.toList)

theorem lineFeedFree_linesOfContent (content : String) : LineFeedFree (linesOfContent content) := by
  intro line member
  obtain ⟨characters, isLine, rfl⟩ := List.mem_map.mp member
  rw [String.toList_ofList]
  exact Content.lineFeed_not_mem_of_mem_split content.toList characters isLine

theorem contentOfLines_linesOfContent (content : String) :
    contentOfLines (linesOfContent content) = content := by
  have asCharacters : (linesOfContent content).map String.toList = Content.split content.toList := by
    unfold linesOfContent
    rw [List.map_map]
    exact List.map_id'' (fun line => String.toList_ofList) _
  unfold contentOfLines
  rw [asCharacters, Content.join_split, String.ofList_toList]

theorem linesOfContent_contentOfLines {lines : List String} (nonempty : lines ≠ [])
    (free : LineFeedFree lines) : linesOfContent (contentOfLines lines) = lines := by
  have nonemptyToo : lines.map String.toList ≠ [] := mt List.map_eq_nil_iff.mp nonempty
  have freeToo : ∀ line ∈ lines.map String.toList, '\n' ∉ line := List.forall_mem_map.mpr free
  unfold linesOfContent contentOfLines
  rw [String.toList_ofList, Content.split_join nonemptyToo freeToo, List.map_map]
  exact List.map_id'' (fun line => String.ofList_toList) lines

/-- The last line of a content is empty if the content ends in a line feed. -/
example : linesOfContent "x = 1\n\ny = 2\n" = ["x = 1", "", "y = 2", ""] := by decide +kernel

end NoteCalc
