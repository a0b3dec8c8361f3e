import NoteCalc.Text.Blank
import NoteCalc.Text.Word

/-!
# How character classes lie to each other

Every digit sign is a word character, and no blank is one.  Both facts are about long tables of
ranges.  They are decided by one walk along both tables, in which every range is looked at once.
-/

namespace NoteCalc.Text

namespace CodeRange

/-- The ranges from the first on that does not lie below a code point. -/
def skipBelow (code : Nat) : List CodeRange → List CodeRange
  | [] => []
  | range :: ranges =>
      if range.1 ≤ code ∧ range.2 < code then skipBelow code ranges else range :: ranges

/-- Whether the ranges hold every run of code points that begins at one of ascending starts and
ends a given number of code points later. -/
def holdsRuns (length : Nat) : List Nat → List CodeRange → Bool
  | [], _ => true
  | start :: starts, ranges =>
      match skipBelow start ranges with
      | [] => false
      | range :: later =>
          decide (range.1 ≤ start) && decide (start + length ≤ range.2) &&
            holdsRuns length starts (range :: later)

/-- Whether ranges avoid ascending gaps. -/
def avoids : (gaps : List CodeRange) → List CodeRange → Bool
  | [], _ => true
  | gap :: gaps, ranges =>
      match skipBelow gap.1 ranges with
      | [] => true
      | range :: later => decide (gap.2 < range.1) && avoids gaps (range :: later)

theorem covers_skipBelow {first code : Nat} (above : first ≤ code) (ranges : List CodeRange) :
    covers (skipBelow first ranges) code = covers ranges code := by
  induction ranges with
  | nil => rfl
  | cons range ranges induction =>
      rw [skipBelow]
      split
      · rename_i isBelow
        have notBefore : ¬code < range.1 := by omega
        have notInside : ¬code ≤ range.2 := by omega
        rw [induction, covers, if_neg notBefore, if_neg notInside]
      · rfl

theorem covers_of_holdsRuns {length : Nat} {starts : List Nat} {ranges : List CodeRange}
    (holds : holdsRuns length starts ranges = true) (ascending : starts.Pairwise (· ≤ ·)) :
    ∀ start ∈ starts, ∀ code, start ≤ code → code ≤ start + length →
      covers ranges code = true := by
  induction starts generalizing ranges with
  | nil => simp
  | cons first starts induction =>
      rw [holdsRuns] at holds
      split at holds
      · exact absurd holds (by simp)
      · rename_i range later skipped
        simp only [Bool.and_eq_true, decide_eq_true_eq] at holds
        obtain ⟨⟨fromFirst, toLast⟩, rest⟩ := holds
        obtain ⟨isFirst, ascendingRest⟩ := List.pairwise_cons.mp ascending
        intro start member code above below
        have atLeastFirst : first ≤ code := by
          rcases List.mem_cons.mp member with rfl | inRest
          · exact above
          · exact Nat.le_trans (isFirst start inRest) above
        rw [← covers_skipBelow atLeastFirst, skipped]
        rcases List.mem_cons.mp member with rfl | inRest
        · have notBefore : ¬code < range.1 := by omega
          have inside : code ≤ range.2 := by omega
          rw [covers, if_neg notBefore, if_pos inside]
        · exact induction rest ascendingRest start inRest code above below

theorem not_covers_of_avoids {gaps ranges : List CodeRange} (avoided : avoids gaps ranges = true)
    (ascending : gaps.Pairwise (·.1 ≤ ·.1)) :
    ∀ gap ∈ gaps, ∀ code, gap.1 ≤ code → code ≤ gap.2 → covers ranges code = false := by
  induction gaps generalizing ranges with
  | nil => simp
  | cons first gaps induction =>
      obtain ⟨isFirst, ascendingRest⟩ := List.pairwise_cons.mp ascending
      intro gap member code above below
      have atLeastFirst : first.1 ≤ code := by
        rcases List.mem_cons.mp member with rfl | inRest
        · exact above
        · exact Nat.le_trans (isFirst gap inRest) above
      rw [avoids] at avoided
      rw [← covers_skipBelow atLeastFirst]
      split at avoided
      · rename_i skipped
        rw [skipped]
        rfl
      · rename_i range later skipped
        simp only [Bool.and_eq_true, decide_eq_true_eq] at avoided
        rw [skipped]
        rcases List.mem_cons.mp member with rfl | inRest
        · have isBefore : code < range.1 := by omega
          rw [covers, if_pos isBefore]
        · exact induction avoided.2 ascendingRest gap inRest code above below

/-- The code points of some ranges, one by one. -/
def codes (ranges : List CodeRange) : List Nat :=
  ranges.flatMap fun range => List.range' range.1 (range.2 + 1 - range.1)

theorem mem_codes_of_covers {ranges : List CodeRange} {code : Nat}
    (covered : covers ranges code = true) : code ∈ codes ranges := by
  obtain ⟨range, isRange, above, below⟩ := exists_of_covers covered
  exact List.mem_flatMap.mpr ⟨range, isRange, List.mem_range'_1.mpr ⟨above, by omega⟩⟩

end CodeRange

theorem exists_origin_of_isDecimal {character : Char} (decimal : isDecimal character = true) :
    ∃ origin ∈ decimalZeros, origin ≤ character.toNat ∧ character.toNat ≤ origin + 9 := by
  unfold isDecimal digitValue? at decimal
  rw [Option.isSome_map] at decimal
  obtain ⟨origin, found⟩ := Option.isSome_iff_exists.mp decimal
  have bounds := List.find?_some found
  simp only [Bool.and_eq_true, decide_eq_true_eq] at bounds
  exact ⟨origin, List.mem_of_find?_eq_some found, bounds⟩

theorem isWordCharacter_of_isDecimal {character : Char} (decimal : isDecimal character = true) :
    isWordCharacter character = true := by
  obtain ⟨origin, isOrigin, above, below⟩ := exists_origin_of_isDecimal decimal
  have holds : CodeRange.holdsRuns 9 decimalZeros alphanumericRanges = true := by
    decide +kernel
  have covered := CodeRange.covers_of_holdsRuns holds (by decide +kernel) origin isOrigin
    character.toNat above below
  simp [isWordCharacter, isAlphanumeric, covered]

theorem isWordCharacter_of_isDigitSign {character : Char} (sign : isDigitSign character = true) :
    isWordCharacter character = true := by
  rcases Bool.or_eq_true_iff.mp sign with decimal | ornamental
  · exact isWordCharacter_of_isDecimal decimal
  · have holds : CodeRange.holdsRuns 0 (CodeRange.codes ornamentalDigitRanges)
        alphanumericRanges = true := by
      decide +kernel
    have covered := CodeRange.covers_of_holdsRuns holds (by decide +kernel) character.toNat
      (CodeRange.mem_codes_of_covers ornamental) character.toNat (Nat.le_refl _) (Nat.le_refl _)
    simp [isWordCharacter, isAlphanumeric, covered]

theorem isWordCharacter_of_isBlank {character : Char} (blank : isBlank character = true) :
    isWordCharacter character = false := by
  obtain ⟨range, member, above, below⟩ := CodeRange.exists_of_covers blank
  have avoided : CodeRange.avoids blankRanges alphanumericRanges = true := by
    decide +kernel
  have uncovered := CodeRange.not_covers_of_avoids avoided (by decide) range member
    character.toNat above below
  have notUnderscore : character ≠ '_' := by
    rintro rfl
    exact absurd blank (by decide)
  simp [isWordCharacter, isAlphanumeric, uncovered, notUnderscore]

theorem isBlank_of_isDecimal {character : Char} (decimal : isDecimal character = true) :
    isBlank character = false := by
  cases blank : isBlank character with
  | false => rfl
  | true =>
      have outside := isWordCharacter_of_isBlank blank
      rw [isWordCharacter_of_isDecimal decimal] at outside
      exact absurd outside (by decide)

theorem ne_of_isDecimal {character other : Char} (decimal : isDecimal character = true)
    (notDecimal : isDecimal other = false) : character ≠ other := by
  rintro rfl
  rw [decimal] at notDecimal
  exact absurd notDecimal (by decide)

end NoteCalc.Text
