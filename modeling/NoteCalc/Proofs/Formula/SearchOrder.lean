import NoteCalc.Proofs.Formula.CandidateSearch

/-!
# The order of the search

The search tries the runs of a line that are candidates, those that start further left first and of
these the longer ones.  The whole line is the first of them.  If its failure is final, then the
search ends there; otherwise the search finds the value of the first candidate that has one.
-/

namespace NoteCalc

namespace Formula

variable {surroundings : Surroundings} {line tokens run : List Token} {length : Nat}
  {result : Quantity Float} {error : EvaluationError}

/-! ## Runs in the order in which they are tried -/

/-- The leading runs of some tokens, from one of a given length down. -/
def leadingRuns (tokens : List Token) : (length : Nat) → List (List Token)
  | 0 => []
  | length + 1 => tokens.take (length + 1) :: leadingRuns tokens length

/-- The runs of some tokens, those that start further left first and of these the longer ones. -/
def runs : List Token → List (List Token)
  | [] => []
  | token :: tokens => leadingRuns (token :: tokens) (tokens.length + 1) ++ runs tokens

theorem mem_leadingRuns_iff (nonempty : run ≠ []) :
    run ∈ leadingRuns tokens length ↔ run <+: tokens ∧ run.length ≤ length := by
  induction length with
  | zero => simp [leadingRuns, nonempty]
  | succ length induction =>
      rw [leadingRuns, List.mem_cons, induction]
      constructor
      · rintro (rfl | ⟨leading, short⟩)
        · exact ⟨List.take_prefix _ _, List.length_take_le _ _⟩
        · exact ⟨leading, Nat.le_succ_of_le short⟩
      · rintro ⟨leading, short⟩
        exact (eq_take_or_shorter leading short).imp_right fun shorter => ⟨leading, shorter⟩

/-- Every run is tried, unless it is empty. -/
theorem mem_runs_iff (nonempty : run ≠ []) : run ∈ runs tokens ↔ run <:+: tokens := by
  induction tokens with
  | nil => simp [runs, nonempty]
  | cons token tokens induction =>
      rw [runs, List.mem_append, mem_leadingRuns_iff nonempty, induction, List.infix_cons_iff]
      exact or_congr_left (and_iff_left_of_imp fun leading => leading.length_le)

/-- The runs of some tokens that are candidates. -/
def candidates (surroundings : Surroundings) (runs : List (List Token)) : List (List Token) :=
  runs.filter fun run => Candidate surroundings run

theorem candidates_cons_of_candidate (candidate : Candidate surroundings run)
    (others : List (List Token)) :
    candidates surroundings (run :: others) = run :: candidates surroundings others :=
  List.filter_cons_of_pos (by simpa using candidate)

theorem candidates_cons_of_not_candidate (refused : ¬Candidate surroundings run)
    (others : List (List Token)) :
    candidates surroundings (run :: others) = candidates surroundings others :=
  List.filter_cons_of_neg (by simpa using refused)

/-! ## The first value -/

/-- The value of the first of some runs that is a candidate and has one. -/
def firstValue? (surroundings : Surroundings) (runs : List (List Token)) :
    Option (Quantity Float) :=
  (candidates surroundings runs).findSome? fun run => (value surroundings run).toOption

theorem firstValue?_append (first others : List (List Token)) :
    firstValue? surroundings (first ++ others) =
      (firstValue? surroundings first).or (firstValue? surroundings others) := by
  rw [firstValue?, candidates, List.filter_append, List.findSome?_append]
  rfl

/-- There is a first value exactly if some run has a value. -/
theorem isSome_firstValue?_iff :
    (firstValue? surroundings (runs tokens)).isSome = true ↔
      ∃ run, run <:+: tokens ∧ Valued surroundings run := by
  rw [firstValue?, List.findSome?_isSome_iff]
  constructor
  · rintro ⟨run, member, isSome⟩
    obtain ⟨tried, candidate⟩ := List.mem_filter.mp member
    have isCandidate : Candidate surroundings run := of_decide_eq_true candidate
    have nonempty : run ≠ [] := isCandidate.ne_nil
    cases isValue : value surroundings run with
    | ok result => exact ⟨run, (mem_runs_iff nonempty).mp tried, isCandidate, result, isValue⟩
    | error error => exact absurd isSome (by simp [isValue, Except.toOption])
  · rintro ⟨run, within, candidate, result, isValue⟩
    refine ⟨run, List.mem_filter.mpr ⟨?_, decide_eq_true candidate⟩, ?_⟩
    · exact (mem_runs_iff candidate.ne_nil).mpr within
    · rw [isValue]
      rfl

/-! ## The search -/

/-- The whole line is a candidate and fails, and this is final. -/
structure FailsFinally (surroundings : Surroundings) (line : List Token)
    (error : EvaluationError) : Prop where
  candidate : Candidate surroundings line
  failed : value surroundings line = .error error
  final : isFinal surroundings line = true

/-- A final failure is all that the search comes to. -/
theorem search_of_failsFinally (fails : FailsFinally surroundings line error) :
    search surroundings line line = ⟨none, [error]⟩ := by
  cases line with
  | nil => exact absurd rfl fails.candidate.ne_nil
  | cons first others =>
      have whole : (first :: others).take (others.length + 1) = first :: others :=
        List.take_of_length_le (Nat.le_refl _)
      have candidate := fails.candidate
      have failed := fails.failed
      have final : ((first :: others).take (others.length + 1)).length =
          (first :: others).length ∧ isFinal surroundings (first :: others) = true :=
        ⟨congrArg List.length whole, fails.final⟩
      rw [← whole] at candidate failed
      rw [search, searchLeading_of_final candidate failed final]

theorem searchLeading_value (goesOn : ∀ error, ¬FailsFinally surroundings line error)
    (within : tokens <:+: line) (length : Nat) :
    (searchLeading surroundings line tokens length).value =
      (firstValue? surroundings (leadingRuns tokens length)).map some := by
  induction length with
  | zero => rfl
  | succ length induction =>
      rw [leadingRuns, firstValue?]
      by_cases candidate : Candidate surroundings (tokens.take (length + 1))
      · rw [candidates_cons_of_candidate candidate, List.findSome?_cons]
        cases isValue : value surroundings (tokens.take (length + 1)) with
        | ok result =>
            rw [searchLeading_of_valued candidate isValue]
            rfl
        | error error =>
            have notFinal : ¬((tokens.take (length + 1)).length = line.length ∧
                isFinal surroundings line = true) := by
              rintro ⟨sameLength, final⟩
              have isLine : tokens.take (length + 1) = line :=
                ((List.take_prefix _ _).isInfix.trans within).eq_of_length sameLength
              rw [isLine] at candidate isValue
              exact goesOn error ⟨candidate, isValue, final⟩
            rw [searchLeading_of_failed candidate isValue notFinal]
            exact induction
      · rw [candidates_cons_of_not_candidate candidate, searchLeading_of_not_candidate candidate]
        exact induction

/-- If no failure is final, the search finds the first value. -/
theorem search_value (goesOn : ∀ error, ¬FailsFinally surroundings line error)
    (within : tokens <:+: line) :
    (search surroundings line tokens).value = firstValue? surroundings (runs tokens) := by
  induction tokens with
  | nil => rfl
  | cons token tokens induction =>
      have leading := searchLeading_value goesOn within (tokens.length + 1)
      have later := induction ((List.suffix_cons token tokens).isInfix.trans within)
      rw [runs, firstValue?_append, search]
      cases isFirst : firstValue? surroundings (leadingRuns (token :: tokens)
          (tokens.length + 1)) with
      | some result =>
          rw [isFirst, Option.map_some] at leading
          simp only [leading, Option.some_or]
      | none =>
          rw [isFirst, Option.map_none] at leading
          simp only [leading, Outcome.after, later, Option.none_or]

end Formula

end NoteCalc
