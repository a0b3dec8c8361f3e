import NoteCalc.Proofs.Formula.SurroundingWords
import NoteCalc.Proofs.Formula.UnboundNames
import NoteCalc.Proofs.Success

/-!
# Formulas that fail as a whole

A line that is a formula from its first to its last token and fails shows no part of itself in place
of its value.  That holds for arithmetic, and where names are prose also for arithmetic with a
conversion at its end.  Where names are variables, a conversion leaves the search free to go on: the
line then shows the value of its first run that has one, and there always is one, since the target
of the conversion has a value by itself.
-/

namespace NoteCalc

namespace Token

/-- Whether a token gives a value, on its own or as a function. -/
def isValue (token : Token) : Bool :=
  token.isOperand || token.isCall

theorem isValue_of_isOperator {token : Token} (operates : token.isOperator = true) :
    token.isValue = false := by
  unfold isOperator at operates
  unfold isValue isOperand isCall
  cases kind : token.kind <;> simp [kind] at operates ⊢

end Token

namespace Formula

variable {surroundings : Surroundings} {tokens : List Token} {error : EvaluationError}

/-- Tokens end in a conversion to the measure of the last token. -/
inductive EndsInConversion : List Token → Prop where
  | intro (before : List Token) {keyword target : Token}
      (converts : keyword.isConversion = true) (measured : target.measure?.isSome = true) :
      EndsInConversion (before ++ [keyword, target])

/-! ## Whole lines that compute -/

theorem computes_of_isValue (operates : tokens.any Token.isOperator = true)
    (valued : tokens.any Token.isValue = true) : computes tokens = true := by
  obtain ⟨token, member, isValue⟩ := List.any_eq_true.mp valued
  rcases Bool.or_eq_true_iff.mp isValue with isOperand | isCall
  · have hasOperand : tokens.any Token.isOperand = true :=
      List.any_eq_true.mpr ⟨token, member, isOperand⟩
    simp [computes, operates, hasOperand]
  · have hasCall : tokens.any Token.isCall = true :=
      List.any_eq_true.mpr ⟨token, member, isCall⟩
    simp [computes, hasCall]

theorem two_le_length_of_isValue (operates : tokens.any Token.isOperator = true)
    (valued : tokens.any Token.isValue = true) : 2 ≤ tokens.length := by
  match tokens with
  | [] => exact absurd operates (by simp)
  | [token] =>
      have isOperator : token.isOperator = true := by simpa using operates
      have isValue : token.isValue = true := by simpa using valued
      rw [Token.isValue_of_isOperator isOperator] at isValue
      exact absurd isValue (by simp)
  | first :: second :: others => simp

theorem candidate_of_isValue (operates : tokens.any Token.isOperator = true)
    (valued : tokens.any Token.isValue = true) (bound : namesBound surroundings tokens = true) :
    Candidate surroundings tokens where
  looks := looksEvaluable_iff.mpr
    (.computation (two_le_length_of_isValue operates valued) (computes_of_isValue operates valued))
  bound := bound

/-! ## Final failures -/

theorem isFinal_of_unconverted (operates : tokens.any Token.isOperator = true)
    (unconverted : tokens.any Token.isConversion = false) :
    isFinal surroundings tokens = true := by
  simp [isFinal, operates, unconverted]

theorem isFinal_of_prose (prose : surroundings.bindings = none)
    (operates : tokens.any Token.isOperator = true) (ends : EndsInConversion tokens) :
    isFinal surroundings tokens = true := by
  cases ends with
  | @intro before keyword target converts measured =>
      have isKeyword : (before ++ [keyword, target]).dropLast.getLast? = some keyword := by
        simp [List.dropLast_append_of_ne_nil]
      unfold isFinal
      rw [operates, prose, isKeyword, Option.any_some, converts]
      simp

theorem isFinal_eq_false {bindings : Bindings} (names : surroundings.bindings = some bindings)
    (operates : tokens.any Token.isOperator = true)
    (converts : tokens.any Token.isConversion = true) : isFinal surroundings tokens = false := by
  simp [isFinal, names, operates, converts]

theorem evaluate_of_failsFinally (noAssignment : assignment? tokens = none)
    (bound : namesBound surroundings tokens = true)
    (fails : FailsFinally surroundings tokens error) :
    evaluate surroundings tokens = ⟨none, [error]⟩ := by
  have searched : find surroundings tokens = ⟨none, [error]⟩ :=
    (find_eq_search fails.candidate.ne_nil (not_unboundBesideMath bound)).trans
      (search_of_failsFinally fails)
  rw [evaluate, noAssignment]
  simp only [found, searched, Option.map_none]

/-! ## Conversions that fail where names are variables -/

/-- An amount has a value by itself. -/
theorem valued_of_measure? {target : Token} (measured : target.measure?.isSome = true) :
    Valued surroundings [target] := by
  obtain ⟨amount, measure, kind⟩ := Token.exists_amount_of_measure? measured
  have bound : namesBound surroundings [target] = true := by
    simp [namesBound, Token.variableName?, kind]
  have unsplit : splitConversion [target] = ([target], none) := by
    simp [splitConversion, Token.isConversion, kind]
  have taken : OperatorStack.step surroundings {} target =
      .ok ⟨[.of amount measure], [], some target⟩ := by
    simp only [OperatorStack.step, kind, Surroundings.operand]
    rfl
  have evaluated : OperatorStack.evaluate surroundings [target] = .ok (.of amount measure) := by
    rw [OperatorStack.evaluate, List.foldlM_cons, taken]
    rfl
  refine ⟨⟨Token.isOperand_of_measure? measured, bound⟩, .of amount measure, ?_⟩
  simp only [value, expression, unsplit, evaluated]
  rfl

/-- Where names are variables, arithmetic with a conversion at its end has a first value. -/
theorem exists_firstValue? (ends : EndsInConversion tokens) :
    ∃ result, firstValue? surroundings (runs tokens) = some result := by
  cases ends with
  | @intro before keyword target converts measured =>
      have isLast : [target] <:+: before ++ [keyword, target] :=
        ⟨before ++ [keyword], [], by simp⟩
      exact Option.isSome_iff_exists.mp
        (isSome_firstValue?_iff.mpr ⟨[target], isLast, valued_of_measure? measured⟩)

/-! ## Failed formulas -/

/-- Arithmetic that fails as a whole leaves the line without a value, and its failure is the only
one; so does arithmetic with a conversion at its end where names are prose.  Where names are
variables, the conversion leaves the line the first value that there is in it. -/
theorem evaluate_of_failed_formula (operates : tokens.any Token.isOperator = true)
    (valued : tokens.any Token.isValue = true) (noAssignment : assignment? tokens = none)
    (conversions : tokens.any Token.isConversion = false ∨ EndsInConversion tokens)
    (bound : namesBound surroundings tokens = true)
    (failed : value surroundings tokens = .error error) :
    (surroundings.bindings = none ∨ tokens.any Token.isConversion = false →
      evaluate surroundings tokens = ⟨none, [error]⟩) ∧
    (surroundings.bindings ≠ none → tokens.any Token.isConversion = true →
      ∃ result, firstValue? surroundings (runs tokens) = some result ∧
        (evaluate surroundings tokens).value = some ⟨some result.text, none⟩) := by
  have candidate := candidate_of_isValue operates valued bound
  constructor
  · intro closed
    have final : isFinal surroundings tokens = true := by
      rcases conversions with unconverted | ends
      · exact isFinal_of_unconverted operates unconverted
      · rcases closed with prose | unconverted
        · exact isFinal_of_prose prose operates ends
        · exact isFinal_of_unconverted operates unconverted
    exact evaluate_of_failsFinally noAssignment bound ⟨candidate, failed, final⟩
  · intro hasBindings converts
    obtain ⟨bindings, names⟩ := Option.ne_none_iff_exists'.mp hasBindings
    have ends : EndsInConversion tokens :=
      conversions.resolve_left fun unconverted => by simp [unconverted] at converts
    obtain ⟨result, isFirst⟩ := @exists_firstValue? surroundings _ ends
    have searchable : Searchable surroundings tokens := by
      refine ⟨not_unboundBesideMath bound, fun error fails => ?_⟩
      have final := fails.final
      rw [isFinal_eq_false names operates converts] at final
      exact absurd final (by simp)
    have isFound := find_value_eq_some_iff.mpr ⟨searchable, isFirst⟩
    refine ⟨result, isFirst, ?_⟩
    rw [evaluate, noAssignment]
    simp only [found, isFound, Option.map_some]

/-- A sum whose conversion fails, once where names are prose and once where they are variables. -/
theorem evaluate_failed_conversion :
    ∃ tokens error, tokens.map Token.kind =
        [.amount 5 (.single (.byte (some ⟨.binary, .giga⟩))), .operator .plus, .reference 1, .into,
          .amount 1 (.single (.time .second))] ∧
      tokens.any Token.isOperator = true ∧ tokens.any Token.isValue = true ∧
      assignment? tokens = none ∧ EndsInConversion tokens ∧
      value ⟨none, [some "10"], 1⟩ tokens = .error error ∧
      evaluate ⟨none, [some "10"], 1⟩ tokens = ⟨none, [error]⟩ ∧
      namesBound ⟨some [("x", "1")], [some "10"], 1⟩ tokens = true ∧
      ∃ result, (evaluate ⟨some [("x", "1")], [some "10"], 1⟩ tokens).value =
        some ⟨some result, none⟩ := by
  let before : List Token :=
    [⟨.amount 5 (.single (.byte (some ⟨.binary, .giga⟩))), "5 GiB", ⟨0, 5⟩⟩,
      ⟨.operator .plus, "+", ⟨6, 7⟩⟩, ⟨.reference 1, "line1", ⟨8, 13⟩⟩]
  let keyword : Token := ⟨.into, "in", ⟨14, 16⟩⟩
  let target : Token := ⟨.amount 1 (.single (.time .second)), "seconds", ⟨17, 24⟩⟩
  let tokens := before ++ [keyword, target]
  have ends : EndsInConversion tokens := .intro before rfl rfl
  obtain ⟨error, failed⟩ : ∃ error, value ⟨none, [some "10"], 1⟩ tokens = .error error :=
    exists_error_of_isNone (by decide +kernel)
  obtain ⟨errorToo, failedToo⟩ :
      ∃ error, value ⟨some [("x", "1")], [some "10"], 1⟩ tokens = .error error :=
    exists_error_of_isNone (by decide +kernel)
  have prose := (@evaluate_of_failed_formula ⟨none, [some "10"], 1⟩ tokens error rfl rfl rfl
    (.inr ends) rfl failed).1 (.inl rfl)
  obtain ⟨result, -, shown⟩ :=
    (@evaluate_of_failed_formula ⟨some [("x", "1")], [some "10"], 1⟩ tokens errorToo rfl rfl rfl
      (.inr ends) rfl failedToo).2 (by simp) rfl
  exact ⟨tokens, error, rfl, rfl, rfl, rfl, ends, failed, prose, rfl, result.text, shown⟩

/-- Where names are variables, a sum is shown although its conversion fails. -/
theorem sum_shown_for_failed_conversion :
    ∃ before keyword target error,
      (before ++ [keyword, target]).map Token.kind =
        [.amount 1 (.single (.byte (some ⟨.binary, .giga⟩))), .operator .plus,
          .amount 2 (.single (.byte (some ⟨.binary, .giga⟩))), .to,
          .amount 1 (.single (.time .second))] ∧
      before.any Token.isConversion = false ∧ keyword.isConversion = true ∧
      target.measure?.isSome = true ∧ assignment? (before ++ [keyword, target]) = none ∧
      namesBound ⟨some [], [], 0⟩ (before ++ [keyword, target]) = true ∧
      value ⟨some [], [], 0⟩ (before ++ [keyword, target]) = .error error ∧
      (evaluate ⟨some [], [], 0⟩ (before ++ [keyword, target])).value =
        some ⟨some "3 GiB", none⟩ ∧
      evaluateLine ⟨some [], [], 0⟩ "1 GiB + 2 GiB to seconds" = .ok ⟨some "3 GiB", none⟩ := by
  let before : List Token :=
    [⟨.amount 1 (.single (.byte (some ⟨.binary, .giga⟩))), "1 GiB", ⟨0, 5⟩⟩,
      ⟨.operator .plus, "+", ⟨6, 7⟩⟩,
      ⟨.amount 2 (.single (.byte (some ⟨.binary, .giga⟩))), "2 GiB", ⟨8, 13⟩⟩]
  let keyword : Token := ⟨.to, "to", ⟨14, 16⟩⟩
  let target : Token := ⟨.amount 1 (.single (.time .second)), "seconds", ⟨17, 24⟩⟩
  obtain ⟨error, failed⟩ :
      ∃ error, value ⟨some [], [], 0⟩ (before ++ [keyword, target]) = .error error :=
    exists_error_of_isNone (by decide +kernel)
  have shown : (evaluate ⟨some [], [], 0⟩ (before ++ [keyword, target])).value =
      some ⟨some "3 GiB", none⟩ := by decide +kernel
  have lineShown : evaluateLine ⟨some [], [], 0⟩ "1 GiB + 2 GiB to seconds" =
      .ok ⟨some "3 GiB", none⟩ := by decide +kernel
  exact ⟨before, keyword, target, error, rfl, rfl, rfl, rfl, rfl, rfl, failed, shown, lineShown⟩

end Formula

end NoteCalc
