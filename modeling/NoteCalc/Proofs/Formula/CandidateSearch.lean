import Mathlib.Data.List.Infix
import NoteCalc.Formula.Evaluation

/-!
# The search for a candidate

A run of tokens is a candidate if it looks like a formula and its names are bound.  One step of the
search passes over a run that is none, ends at a candidate that has a value, and goes on behind one
that fails, unless that failure is final.  If the whole line is no candidate that fails, then no
failure is final, and the longest leading run with a value is found.
-/

namespace NoteCalc

namespace Formula

variable {surroundings : Surroundings} {line tokens run : List Token} {length : Nat}
  {result : Quantity Float} {error : EvaluationError}

/-- A run of tokens is tried: it looks like a formula and its names are bound. -/
structure Candidate (surroundings : Surroundings) (run : List Token) : Prop where
  looks : looksEvaluable run = true
  bound : namesBound surroundings run = true

theorem candidate_iff :
    Candidate surroundings run ↔ (looksEvaluable run && namesBound surroundings run) = true := by
  rw [Bool.and_eq_true]
  exact ⟨fun candidate => ⟨candidate.looks, candidate.bound⟩, fun ⟨looks, bound⟩ => ⟨looks, bound⟩⟩

instance (surroundings : Surroundings) : DecidablePred (Candidate surroundings) :=
  fun _ => decidable_of_iff _ candidate_iff.symm

theorem Candidate.ne_nil (candidate : Candidate surroundings run) : run ≠ [] := by
  rintro rfl
  exact absurd candidate.looks (by simp [looksEvaluable])

/-- A candidate has a value. -/
def Valued (surroundings : Surroundings) (run : List Token) : Prop :=
  Candidate surroundings run ∧ ∃ result, value surroundings run = .ok result

/-! ## One step -/

theorem searchLeading_of_not_candidate
    (refused : ¬Candidate surroundings (tokens.take (length + 1))) :
    searchLeading surroundings line tokens (length + 1) =
      searchLeading surroundings line tokens length := by
  rw [candidate_iff] at refused
  rw [searchLeading]
  exact if_neg refused

theorem searchLeading_of_valued (candidate : Candidate surroundings (tokens.take (length + 1)))
    (valued : value surroundings (tokens.take (length + 1)) = .ok result) :
    searchLeading surroundings line tokens (length + 1) = ⟨some (some result), []⟩ := by
  rw [candidate_iff] at candidate
  rw [searchLeading]
  simp only [candidate, if_true, valued]

theorem searchLeading_of_failed (candidate : Candidate surroundings (tokens.take (length + 1)))
    (failed : value surroundings (tokens.take (length + 1)) = .error error)
    (goesOn : ¬((tokens.take (length + 1)).length = line.length ∧
      isFinal surroundings line = true)) :
    searchLeading surroundings line tokens (length + 1) =
      (searchLeading surroundings line tokens length).after [error] := by
  rw [candidate_iff] at candidate
  rw [searchLeading]
  simp only [candidate, if_true, failed]
  exact if_neg goesOn

theorem searchLeading_of_final (candidate : Candidate surroundings (tokens.take (length + 1)))
    (failed : value surroundings (tokens.take (length + 1)) = .error error)
    (final : (tokens.take (length + 1)).length = line.length ∧
      isFinal surroundings line = true) :
    searchLeading surroundings line tokens (length + 1) = ⟨some none, [error]⟩ := by
  rw [candidate_iff] at candidate
  rw [searchLeading]
  simp only [candidate, if_true, failed]
  exact if_pos final

/-- A failure of this run would not be final: the run is shorter than the line, or does not
fail. -/
def NotFinal (surroundings : Surroundings) (line run : List Token) : Prop :=
  run.length = line.length → Candidate surroundings run → Valued surroundings run

/-- If the whole line is no candidate that fails, no failure in it is final. -/
theorem notFinal_of_isInfix (whole : Candidate surroundings line → Valued surroundings line)
    (within : run <:+: line) : NotFinal surroundings line run := by
  intro sameLength
  rw [within.eq_of_length sameLength]
  exact whole

/-- The search passes over a run without a value. -/
theorem searchLeading_of_not_valued
    (notFinal : NotFinal surroundings line (tokens.take (length + 1)))
    (noValue : ¬Valued surroundings (tokens.take (length + 1))) :
    (searchLeading surroundings line tokens (length + 1)).value =
      (searchLeading surroundings line tokens length).value := by
  by_cases candidate : Candidate surroundings (tokens.take (length + 1))
  · cases valued : value surroundings (tokens.take (length + 1)) with
    | ok result => exact absurd ⟨candidate, result, valued⟩ noValue
    | error error =>
        have goesOn : ¬((tokens.take (length + 1)).length = line.length ∧
            isFinal surroundings line = true) :=
          fun final => noValue (notFinal final.1 candidate)
        rw [searchLeading_of_failed candidate valued goesOn]
        rfl
  · rw [searchLeading_of_not_candidate candidate]

/-! ## All steps -/

/-- A leading run is the longest one with a value among those up to a length. -/
structure LongestValued (surroundings : Surroundings) (tokens : List Token) (length : Nat)
    (run : List Token) : Prop where
  leading : run <+: tokens
  valued : Valued surroundings run
  longest : ∀ other, other <+: tokens → other.length ≤ length → Valued surroundings other →
    other.length ≤ run.length

theorem eq_take_or_shorter (leading : run <+: tokens) (within : run.length ≤ length + 1) :
    run = tokens.take (length + 1) ∨ run.length ≤ length := by
  rcases Nat.lt_or_ge length run.length with longer | shorter
  · refine .inl ?_
    rw [← Nat.le_antisymm within longer]
    exact List.prefix_iff_eq_take.mp leading
  · exact .inr shorter

/-- If no failure is final, the longest leading run with a value is found. -/
theorem searchLeading_cases
    (notFinal : ∀ run, run <+: tokens → NotFinal surroundings line run) (length : Nat) :
    (∃ run result, LongestValued surroundings tokens length run ∧
        value surroundings run = .ok result ∧
        (searchLeading surroundings line tokens length).value = some (some result)) ∨
      ((searchLeading surroundings line tokens length).value = none ∧
        ∀ run, run <+: tokens → run.length ≤ length → ¬Valued surroundings run) := by
  induction length with
  | zero =>
      refine .inr ⟨rfl, fun run _ short valued => ?_⟩
      have looks := valued.1.looks
      rw [List.length_eq_zero_iff.mp (Nat.le_zero.mp short)] at looks
      exact absurd looks (by simp [looksEvaluable])
  | succ length induction =>
      by_cases valued : Valued surroundings (tokens.take (length + 1))
      · obtain ⟨candidate, result, isValue⟩ := valued
        refine .inl ⟨_, result, ⟨List.take_prefix _ _, ⟨candidate, result, isValue⟩, ?_⟩,
          isValue, ?_⟩
        · intro other leading short _
          rw [List.length_take]
          exact Nat.le_min.mpr ⟨short, leading.length_le⟩
        · rw [searchLeading_of_valued candidate isValue]
      · rw [searchLeading_of_not_valued (notFinal _ (List.take_prefix _ _)) valued]
        rcases induction with ⟨run, result, longest, isValue, isFound⟩ | ⟨notFound, noValue⟩
        · refine .inl ⟨run, result, ⟨longest.leading, longest.valued, ?_⟩, isValue, isFound⟩
          intro other leading short isValued
          rcases eq_take_or_shorter leading short with rfl | shorter
          · exact absurd isValued valued
          · exact longest.longest other leading shorter isValued
        · refine .inr ⟨notFound, fun run leading short => ?_⟩
          rcases eq_take_or_shorter leading short with rfl | shorter
          · exact valued
          · exact noValue run leading shorter

end Formula

end NoteCalc
