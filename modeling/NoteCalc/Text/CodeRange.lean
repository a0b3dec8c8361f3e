/-!
# Ranges of code points

A character class of Unicode is a union of intervals of code points.  The tables of this library
list the intervals in ascending order, and one search over such a list decides every class.
-/

namespace NoteCalc.Text

/-- An interval of code points, given by its first and its last member. -/
abbrev CodeRange := Nat × Nat

/-- Whether a code point lies in one of the ranges.  The ranges ascend, so the search ends at the
first range that starts above the code point. -/
def CodeRange.covers : List CodeRange → Nat → Bool
  | [], _ => false
  | (first, last) :: ranges, code =>
      if code < first then false
      else if code ≤ last then true
      else CodeRange.covers ranges code

/-- A covered code point lies in a listed range. -/
theorem CodeRange.exists_of_covers {ranges : List CodeRange} {code : Nat}
    (covered : CodeRange.covers ranges code = true) :
    ∃ range ∈ ranges, range.1 ≤ code ∧ code ≤ range.2 := by
  induction ranges with
  | nil => simp [CodeRange.covers] at covered
  | cons range ranges induction =>
      unfold CodeRange.covers at covered
      split at covered
      · simp at covered
      · split at covered
        · exact ⟨range, by simp, by omega, by assumption⟩
        · obtain ⟨found, member, bounds⟩ := induction covered
          exact ⟨found, by simp [member], bounds⟩

end NoteCalc.Text
