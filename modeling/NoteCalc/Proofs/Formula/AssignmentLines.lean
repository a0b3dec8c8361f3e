import NoteCalc.Proofs.Formula.UnboundNames
import NoteCalc.Proofs.Success

/-!
# Lines that assign

The right side of an assignment is evaluated as a whole.  If it has a value, then this is the result
of the line and what the line assigns.  If it fails, then the line assigns nothing, and it is
searched like any other line, from the target on: a part of the right side, or the target itself,
can still give it a result.
-/

namespace NoteCalc

namespace Formula

variable {surroundings : Surroundings} {target sign : Token} {right : List Token} {name : String}

theorem assignment?_of_kinds (named : target.kind = .identifier name)
    (assigns : sign.kind = .assign) (nonempty : right ≠ []) :
    assignment? (target :: sign :: right) = some (name, right) := by
  cases right with
  | nil => exact absurd rfl nonempty
  | cons first others =>
      simp [assignment?, Token.isAssign, Token.variableName?, named, assigns]

/-- What a line shows if it is searched: the first value in it, if nothing keeps it from being
searched, and no assignment. -/
theorem found_value_eq_some_iff {tokens : List Token} {shown : LineValue} :
    (found surroundings tokens).value = some shown ↔
      Searchable surroundings tokens ∧
        ∃ result, firstValue? surroundings (runs tokens) = some result ∧
          shown = ⟨some result.text, none⟩ := by
  simp only [found, Option.map_eq_some_iff, find_value_eq_some_iff, and_assoc]
  constructor
  · rintro ⟨result, searchable, isFirst, rfl⟩
    exact ⟨searchable, result, isFirst, rfl⟩
  · rintro ⟨searchable, result, isFirst, rfl⟩
    exact ⟨result, searchable, isFirst, rfl⟩

/-- A line whose right side has a value shows and assigns this value.  A line whose right side fails
assigns nothing, and shows a result exactly if the line, searched from the target on, has a first
value. -/
theorem evaluate_assignment (named : target.kind = .identifier name)
    (assigns : sign.kind = .assign) (nonempty : right ≠ []) :
    (∀ result, value surroundings right = .ok result →
      evaluate surroundings (target :: sign :: right) =
        ⟨some ⟨some result.text, some ⟨name, result.text⟩⟩, []⟩) ∧
    (∀ error, value surroundings right = .error error → ∀ shown,
      (evaluate surroundings (target :: sign :: right)).value = some shown ↔
        Searchable surroundings (target :: sign :: right) ∧
          ∃ result, firstValue? surroundings (runs (target :: sign :: right)) = some result ∧
            shown = ⟨some result.text, none⟩) := by
  have isAssignment := assignment?_of_kinds named assigns nonempty
  constructor
  · intro result isValue
    simp only [evaluate, isAssignment, isValue]
  · intro error failed shown
    rw [← found_value_eq_some_iff]
    simp only [evaluate, isAssignment, failed, Outcome.after]

/-- A quotient is assigned if it has a value.  If its divisor is zero, the first value in the line is
the dividend. -/
theorem evaluate_assigned_quotient :
    ∃ target sign right, target.kind = .identifier "x" ∧ sign.kind = .assign ∧
      right.map Token.kind = [.number 6, .operator .over, .identifier "y"] ∧
      evaluate ⟨some [("y", "4")], [], 0⟩ (target :: sign :: right) =
        ⟨some ⟨some "1.5", some ⟨"x", "1.5"⟩⟩, []⟩ ∧
      Searchable ⟨some [("y", "0")], [], 0⟩ (target :: sign :: right) ∧
      ∃ result, result.text = "6" ∧
        firstValue? ⟨some [("y", "0")], [], 0⟩ (runs (target :: sign :: right)) = some result := by
  let target : Token := ⟨.identifier "x", "x", ⟨0, 1⟩⟩
  let sign : Token := ⟨.assign, "=", ⟨2, 3⟩⟩
  let right : List Token :=
    [⟨.number 6, "6", ⟨4, 5⟩⟩, ⟨.operator .over, "/", ⟨6, 7⟩⟩, ⟨.identifier "y", "y", ⟨8, 9⟩⟩]
  have nonempty : right ≠ [] := by simp [right]
  obtain ⟨quotient, isValue, isText⟩ : ∃ quotient,
      value ⟨some [("y", "4")], [], 0⟩ right = .ok quotient ∧ quotient.text = "1.5" :=
    exists_ok_of_toOption_map (by decide +kernel)
  obtain ⟨error, failed⟩ : ∃ error, value ⟨some [("y", "0")], [], 0⟩ right = .error error :=
    exists_error_of_isNone (by decide +kernel)
  have assigned := (@evaluate_assignment ⟨some [("y", "4")], [], 0⟩ target sign right "x" rfl rfl
    nonempty).1 quotient isValue
  have shown : (evaluate ⟨some [("y", "0")], [], 0⟩ (target :: sign :: right)).value =
      some ⟨some "6", none⟩ := by decide +kernel
  obtain ⟨searchable, result, isFirst, same⟩ :=
    ((@evaluate_assignment ⟨some [("y", "0")], [], 0⟩ target sign right "x" rfl rfl nonempty).2
      error failed _).mp shown
  obtain ⟨isResult, -⟩ := LineValue.mk.inj same
  rw [isText] at assigned
  exact ⟨target, sign, right, rfl, rfl, rfl, assigned, searchable, result,
    (Option.some.inj isResult).symm, isFirst⟩

/-- A line that assigns a quotient without a value shows the dividend. -/
theorem dividend_shown_for_failed_assignment :
    ∃ target sign right error, target.kind = .identifier "x" ∧ sign.kind = .assign ∧
      right.map Token.kind = [.number 5, .operator .over, .number 0] ∧
      value ⟨some [], [], 0⟩ right = .error error ∧
      (evaluate ⟨some [], [], 0⟩ (target :: sign :: right)).value = some ⟨some "5", none⟩ ∧
      evaluateLine ⟨some [], [], 0⟩ "x = 5 / 0" = .ok ⟨some "5", none⟩ := by
  let target : Token := ⟨.identifier "x", "x", ⟨0, 1⟩⟩
  let sign : Token := ⟨.assign, "=", ⟨2, 3⟩⟩
  let right : List Token :=
    [⟨.number 5, "5", ⟨4, 5⟩⟩, ⟨.operator .over, "/", ⟨6, 7⟩⟩, ⟨.number 0, "0", ⟨8, 9⟩⟩]
  obtain ⟨error, failed⟩ : ∃ error, value ⟨some [], [], 0⟩ right = .error error :=
    exists_error_of_isNone (by decide +kernel)
  exact ⟨target, sign, right, error, rfl, rfl, rfl, failed, by decide +kernel, by decide +kernel⟩

end Formula

end NoteCalc
