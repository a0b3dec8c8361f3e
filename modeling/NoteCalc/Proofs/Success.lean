import NoteCalc.Proofs.RelatedLists

/-!
# Successful computations

What it takes for a computation that may fail to succeed, one equation for every way of composing
computations, and which value it then has.  Two computations are compared by their values alone;
how they fail does not matter.
-/

namespace NoteCalc

variable {ε ζ α β γ δ : Type}

theorem bind_eq_ok_iff {result : Except ε α} {next : α → Except ε β} {value : β} :
    (result >>= next) = .ok value ↔ ∃ found, result = .ok found ∧ next found = .ok value := by
  cases result with
  | error error => simp [bind, Except.bind]
  | ok found => simp [bind, Except.bind]

theorem map_eq_ok_iff {result : Except ε α} {function : α → β} {value : β} :
    result.map function = .ok value ↔ ∃ found, result = .ok found ∧ function found = value := by
  cases result with
  | error error => simp [Except.map]
  | ok found => simp [Except.map]

theorem map_eq_error_iff {result : Except ε α} {function : α → β} {error : ε} :
    result.map function = .error error ↔ result = .error error := by
  cases result <;> simp [Except.map]

theorem mapError_eq_ok_iff {result : Except ε α} {function : ε → ζ} {value : α} :
    result.mapError function = .ok value ↔ result = .ok value := by
  cases result <;> simp [Except.mapError]

theorem exists_error_of_isNone {result : Except ε α} (noValue : result.toOption.isNone = true) :
    ∃ error, result = .error error := by
  cases result with
  | error error => exact ⟨error, rfl⟩
  | ok value => exact absurd noValue (by simp [Except.toOption])

theorem exists_ok_of_toOption_map {result : Except ε α} {function : α → β} {value : β}
    (isValue : result.toOption.map function = some value) :
    ∃ found, result = .ok found ∧ function found = value := by
  obtain ⟨found, isFound, same⟩ := Option.map_eq_some_iff.mp isValue
  cases result with
  | error error => exact absurd isFound (by simp [Except.toOption])
  | ok known => exact ⟨found, congrArg Except.ok (Option.some.inj isFound), same⟩

/-- A computation over a list succeeds when it does for every element. -/
theorem mapM_eq_ok_iff {function : α → Except ε β} {inputs : List α} {outputs : List β} :
    inputs.mapM function = .ok outputs ↔
      List.Forall₂ (fun input output => function input = .ok output) inputs outputs := by
  induction inputs generalizing outputs with
  | nil =>
      rw [List.mapM_nil, List.forall₂_nil_left_iff]
      simp only [pure, Except.pure, Except.ok.injEq]
      exact eq_comm
  | cons input inputs induction =>
      rw [List.mapM_cons, List.forall₂_cons_left_iff]
      simp only [bind_eq_ok_iff, pure, Except.pure, Except.ok.injEq]
      constructor
      · rintro ⟨output, first, rest, others, rfl⟩
        exact ⟨output, rest, first, induction.mp others, rfl⟩
      · rintro ⟨output, rest, first, others, rfl⟩
        exact ⟨output, first, rest, induction.mpr others, rfl⟩

theorem exists_mapM_eq_ok_iff {function : α → Except ε β} {inputs : List α} :
    (∃ outputs, inputs.mapM function = .ok outputs) ↔
      ∀ input ∈ inputs, ∃ output, function input = .ok output := by
  simp only [mapM_eq_ok_iff]
  exact RelatedLists.exists_right_iff

theorem exists_input_of_mapM {function : α → Except ε β} {inputs : List α} {outputs : List β}
    (succeeds : inputs.mapM function = .ok outputs) :
    ∀ output ∈ outputs, ∃ input ∈ inputs, function input = .ok output := by
  have pairs := (List.forall₂_and_left _ _).mpr
    ⟨fun _ member => member, mapM_eq_ok_iff.mp succeeds⟩
  exact RelatedLists.forall_right pairs fun input _ pair => ⟨input, pair⟩

/-- A computation over a list fails as it does for some element. -/
theorem exists_error_of_mapM {function : α → Except ε β} {inputs : List α} {error : ε}
    (fails : inputs.mapM function = .error error) :
    ∃ input ∈ inputs, function input = .error error := by
  induction inputs with
  | nil => exact absurd fails (by simp [pure, Except.pure])
  | cons input inputs induction =>
      rw [List.mapM_cons] at fails
      cases first : function input with
      | error other =>
          rw [first] at fails
          obtain rfl : other = error := Except.error.inj fails
          exact ⟨input, List.mem_cons_self .., first⟩
      | ok output =>
          cases rest : inputs.mapM function with
          | error other =>
              rw [first, rest] at fails
              obtain rfl : other = error := Except.error.inj fails
              obtain ⟨later, member, isError⟩ := induction rest
              exact ⟨later, List.mem_cons_of_mem _ member, isError⟩
          | ok outputs =>
              rw [first, rest] at fails
              exact absurd fails (by simp [bind, Except.bind, pure, Except.pure])

/-- Two computations succeed alike: both fail, or both have values and the values are related. -/
inductive SucceedAlike (related : α → β → Prop) : Except ε α → Except ε β → Prop where
  | fail (error other : ε) : SucceedAlike related (.error error) (.error other)
  | succeed {value : α} {other : β} (alike : related value other) :
      SucceedAlike related (.ok value) (.ok other)

namespace SucceedAlike

variable {related : α → β → Prop} {later : γ → δ → Prop} {first : Except ε α}
  {second : Except ε β}

theorem refl (result : Except ε α) : SucceedAlike Eq result result := by
  cases result with
  | error error => exact .fail error error
  | ok value => exact .succeed rfl

theorem bind {next : α → Except ε γ} {nextToo : β → Except ε δ}
    (alike : SucceedAlike related first second)
    (rest : ∀ value other, related value other →
      SucceedAlike later (next value) (nextToo other)) :
    SucceedAlike later (first >>= next) (second >>= nextToo) := by
  cases alike with
  | fail error other => exact .fail error other
  | succeed alike => exact rest _ _ alike

/-- Passes over two lists succeed alike if every step does, from related values on. -/
theorem foldlM {step : γ → α → Except ε γ} {stepToo : δ → β → Except ε δ} {inputs : List α}
    {inputsToo : List β} (pairs : List.Forall₂ related inputs inputsToo)
    (steps : ∀ state stateToo input inputToo, later state stateToo → related input inputToo →
      SucceedAlike later (step state input) (stepToo stateToo inputToo))
    {state : γ} {stateToo : δ} (start : later state stateToo) :
    SucceedAlike later (inputs.foldlM step state) (inputsToo.foldlM stepToo stateToo) := by
  induction pairs generalizing state stateToo with
  | nil => exact .succeed start
  | cons pair _ induction =>
      rw [List.foldlM_cons, List.foldlM_cons]
      exact (steps _ _ _ _ start pair).bind fun _ _ reached => induction reached

theorem of_toOption_eq {second : Except ε α} (same : first.toOption = second.toOption) :
    SucceedAlike Eq first second := by
  cases first with
  | error error =>
      cases second with
      | error other => exact .fail error other
      | ok value => exact absurd same (by simp [Except.toOption])
  | ok value =>
      cases second with
      | error other => exact absurd same (by simp [Except.toOption])
      | ok other => exact .succeed (Option.some.inj same)

end SucceedAlike

end NoteCalc
