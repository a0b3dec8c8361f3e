import NoteCalc.Text.Blank

/-!
# Words between blanks

Trimming keeps a text without characters of the trimmed class.  The words of a text are separated at
its blanks: a run of other characters up to the first blank is the first word.
-/

namespace NoteCalc.Text

theorem isBlank_of_all {text : List Char} (noBlank : text.all (!isBlank ·) = true) :
    ∀ character ∈ text, isBlank character = false := by
  simpa using noBlank

theorem trimWhere_eq_self {drop : Char → Bool} {text : List Char}
    (kept : ∀ character ∈ text, drop character = false) : trimWhere drop text = text := by
  have dropped {text : List Char} (kept : ∀ character ∈ text, drop character = false) :
      text.dropWhile drop = text := by
    cases text with
    | nil => rfl
    | cons character text => simp [kept character List.mem_cons_self]
  have reversed : ∀ character ∈ text.reverse, drop character = false := by simpa using kept
  rw [trimWhere, dropped kept, dropped reversed, List.reverse_reverse]

theorem trimBlanks_eq_self {text : List Char}
    (kept : ∀ character ∈ text, isBlank character = false) : trimBlanks text = text :=
  trimWhere_eq_self kept

theorem blankSeparated_cons_of_isBlank {blank : Char} (isBlank : isBlank blank = true)
    (rest : List Char) : blankSeparated (blank :: rest) = blankSeparated rest := by
  cases rest <;> simp [blankSeparated, isBlank]

/-- The word up to a blank, or up to the end of a text, is separated from what follows. -/
theorem blankSeparated_append {word rest : List Char} (nonempty : word ≠ [])
    (inside : ∀ character ∈ word, isBlank character = false)
    (ends : ∀ character ∈ rest.head?, isBlank character = true) :
    blankSeparated (word ++ rest) = word :: blankSeparated rest := by
  induction word with
  | nil => exact absurd rfl nonempty
  | cons first word induction =>
      have isFirst := inside first List.mem_cons_self
      cases word with
      | nil =>
          cases rest with
          | nil => simp [blankSeparated, isFirst]
          | cons blank rest =>
              have isBlank := ends blank rfl
              simp [blankSeparated, isFirst, isBlank]
      | cons second word =>
          have isSecond := inside second (by simp)
          have separated := induction (by simp) fun character member =>
            inside character (List.mem_cons_of_mem first member)
          rw [List.cons_append, List.cons_append, blankSeparated, if_neg (by simp [isFirst]),
            if_neg (by simp [isSecond]), ← List.cons_append, separated, extendFirst]

theorem blankSeparated_word {word : List Char} (nonempty : word ≠ [])
    (inside : ∀ character ∈ word, isBlank character = false) : blankSeparated word = [word] := by
  have ends : ∀ character ∈ ([] : List Char).head?, isBlank character = true := by simp
  have separated := blankSeparated_append nonempty inside ends
  rwa [List.append_nil, blankSeparated] at separated

end NoteCalc.Text
