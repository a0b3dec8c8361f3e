import NoteCalc.Formula.Evaluation

/-!
# Tokens without names

Names are variables where there are bindings, and prose where there are none.  Tokens without names
mean the same in both cases: every candidate has the same value or fails in the same way.  The
search is then the same as well, except that the two cases disagree about which failure of a whole
line is final if the line has both arithmetic and a conversion.
-/

namespace NoteCalc

/-- No token is a name. -/
def Token.Nameless (tokens : List Token) : Prop :=
  ∀ token ∈ tokens, token.isVariable = false

instance (tokens : List Token) : Decidable (Token.Nameless tokens) :=
  inferInstanceAs (Decidable (∀ token ∈ tokens, token.isVariable = false))

namespace Token.Nameless

variable {tokens run : List Token} {token : Token}

theorem subset (nameless : Nameless tokens) (within : run ⊆ tokens) : Nameless run :=
  fun _ member => nameless _ (within member)

theorem variableName?_eq_none (noVariable : token.isVariable = false) :
    token.variableName? = none := by
  unfold isVariable at noVariable
  unfold variableName?
  split
  · rename_i kind
    simp [kind] at noVariable
  · rfl

end Token.Nameless

open Token (Nameless)

namespace Surroundings

/-- The surroundings of a line whose names are prose. -/
def asProse (surroundings : Surroundings) : Surroundings :=
  { surroundings with bindings := none }

theorem operand_asProse (surroundings : Surroundings) {token : Token}
    (noVariable : token.isVariable = false) :
    surroundings.asProse.operand token = surroundings.operand token := by
  unfold operand
  cases kind : token.kind with
  | identifier name => simp [Token.isVariable, kind] at noVariable
  | _ => rfl

end Surroundings

/-! ## Values -/

namespace OperatorStack

variable {surroundings : Surroundings} {tokens : List Token}

theorem step_asProse (stack : OperatorStack) {token : Token}
    (noVariable : token.isVariable = false) :
    step surroundings.asProse stack token = step surroundings stack token := by
  unfold step
  rw [surroundings.operand_asProse noVariable]
  cases kind : token.kind with
  | identifier name => simp [Token.isVariable, kind] at noVariable
  | _ => rfl

theorem foldlM_step_asProse (nameless : Nameless tokens) (stack : OperatorStack) :
    tokens.foldlM (step surroundings.asProse) stack = tokens.foldlM (step surroundings) stack := by
  induction tokens generalizing stack with
  | nil => rfl
  | cons token tokens induction =>
      obtain ⟨noVariable, others⟩ := List.forall_mem_cons.mp nameless
      rw [List.foldlM_cons, List.foldlM_cons, step_asProse stack noVariable]
      exact congrArg _ (funext fun next => induction others next)

theorem evaluate_asProse (nameless : Nameless tokens) :
    evaluate surroundings.asProse tokens = evaluate surroundings tokens := by
  unfold evaluate
  rw [foldlM_step_asProse nameless]

end OperatorStack

namespace Formula

variable {surroundings : Surroundings} {line tokens : List Token}

theorem splitConversion_subset (tokens : List Token) : (splitConversion tokens).1 ⊆ tokens := by
  unfold splitConversion
  simp only
  split
  · exact (List.takeWhile_prefix _).subset
  · exact List.Subset.refl tokens

theorem expression_asProse (nameless : Nameless tokens) :
    expression surroundings.asProse tokens = expression surroundings tokens := by
  have before := nameless.subset (splitConversion_subset tokens)
  unfold expression
  simp only [OperatorStack.evaluate_asProse before]

theorem value_asProse (nameless : Nameless tokens) :
    value surroundings.asProse tokens = value surroundings tokens := by
  have general := @expression_asProse surroundings tokens nameless
  unfold value
  split
  · rename_i first middle last
    rw [surroundings.operand_asProse (nameless last (by simp)), general]
  · exact general

/-! ## The search -/

theorem namesBound_of_nameless (nameless : Nameless tokens) :
    namesBound surroundings tokens = true := by
  unfold namesBound
  refine Bool.or_eq_true_iff.mpr (.inr (List.all_eq_true.mpr fun token member => ?_))
  rw [Nameless.variableName?_eq_none (nameless token member)]
  rfl

/-- Without arithmetic beside a conversion the same failures are final. -/
theorem isFinal_asProse
    (unmixed : ¬(line.any Token.isOperator = true ∧ line.any Token.isConversion = true)) :
    isFinal surroundings.asProse line = isFinal surroundings line := by
  unfold isFinal
  cases computes : line.any Token.isOperator with
  | false => simp
  | true =>
      have noConversion : line.any Token.isConversion = false :=
        Bool.eq_false_iff.mpr fun converts => unmixed ⟨computes, converts⟩
      simp [noConversion]

theorem searchLeading_asProse
    (final : isFinal surroundings.asProse line = isFinal surroundings line)
    (nameless : Nameless tokens) (length : Nat) :
    searchLeading surroundings.asProse line tokens length =
      searchLeading surroundings line tokens length := by
  induction length with
  | zero => rfl
  | succ length induction =>
      have candidate : Nameless (tokens.take (length + 1)) :=
        nameless.subset (List.take_subset _ _)
      unfold searchLeading
      simp only [namesBound_of_nameless candidate, value_asProse candidate, final, induction]

theorem search_asProse (final : isFinal surroundings.asProse line = isFinal surroundings line)
    (nameless : Nameless tokens) :
    search surroundings.asProse line tokens = search surroundings line tokens := by
  induction tokens with
  | nil => rfl
  | cons token tokens induction =>
      have others := (List.forall_mem_cons.mp nameless).2
      unfold search
      rw [searchLeading_asProse final nameless, induction others]

theorem unboundBesideMath?_of_nameless (nameless : Nameless tokens) (previous : Option Token) :
    unboundBesideMath? surroundings previous tokens = none := by
  induction tokens generalizing previous with
  | nil => rfl
  | cons token tokens induction =>
      obtain ⟨noVariable, others⟩ := List.forall_mem_cons.mp nameless
      unfold unboundBesideMath?
      rw [Nameless.variableName?_eq_none noVariable]
      exact induction others _

theorem find_of_nameless (nameless : Nameless tokens) :
    find surroundings tokens =
      if tokens.isEmpty then ⟨none, []⟩ else search surroundings tokens tokens := by
  unfold find
  simp only [unboundBesideMath?_of_nameless nameless, ite_self]

theorem assignment?_of_nameless (nameless : Nameless tokens) : assignment? tokens = none := by
  unfold assignment?
  split
  · rename_i target sign first rest
    rw [Nameless.variableName?_eq_none (nameless target (List.mem_cons_self ..))]
    simp
  · rfl

theorem evaluate_of_nameless (nameless : Nameless tokens) :
    evaluate surroundings tokens = found surroundings tokens := by
  unfold evaluate
  rw [assignment?_of_nameless nameless]

/-- Tokens without names, and without arithmetic beside a conversion, show the same with all
bindings and with none, and leave the same failures. -/
theorem evaluate_with_and_without_bindings (nameless : Nameless tokens)
    (unmixed : ¬(tokens.any Token.isOperator = true ∧ tokens.any Token.isConversion = true))
    (bindings : Bindings) (results : List (Option String)) (line : Int) :
    evaluate ⟨some bindings, results, line⟩ tokens = evaluate ⟨none, results, line⟩ tokens := by
  have searched : search ⟨none, results, line⟩ tokens tokens =
      search ⟨some bindings, results, line⟩ tokens tokens :=
    @search_asProse ⟨some bindings, results, line⟩ _ _ (isFinal_asProse unmixed) nameless
  have found_eq : find ⟨none, results, line⟩ tokens =
      find ⟨some bindings, results, line⟩ tokens := by
    rw [find_of_nameless nameless, find_of_nameless nameless, searched]
  rw [evaluate_of_nameless nameless, evaluate_of_nameless nameless, found, found, found_eq]

/-- Dividing by zero fails in the same way whether names are variables or prose. -/
theorem evaluate_division_with_and_without_bindings :
    ∃ tokens, tokens.map Token.kind =
        [.call .sqrt, .openParenthesis, .reference 1, .closeParenthesis, .operator .over,
          .number 0] ∧
      Nameless tokens ∧
      ¬(tokens.any Token.isOperator = true ∧ tokens.any Token.isConversion = true) ∧
      (evaluate ⟨none, [some "16"], 1⟩ tokens).errors.length = 1 ∧
      evaluate ⟨some [("x", "1")], [some "16"], 1⟩ tokens =
        evaluate ⟨none, [some "16"], 1⟩ tokens := by
  let tokens : List Token :=
    [⟨.call .sqrt, "sqrt", ⟨0, 4⟩⟩, ⟨.openParenthesis, "(", ⟨4, 5⟩⟩,
      ⟨.reference 1, "line1", ⟨5, 10⟩⟩, ⟨.closeParenthesis, ")", ⟨10, 11⟩⟩,
      ⟨.operator .over, "/", ⟨12, 13⟩⟩, ⟨.number 0, "0", ⟨14, 15⟩⟩]
  have nameless : Nameless tokens := by decide
  have unmixed : ¬(tokens.any Token.isOperator = true ∧ tokens.any Token.isConversion = true) := by
    decide
  exact ⟨tokens, rfl, nameless, unmixed, by decide +kernel,
    evaluate_with_and_without_bindings nameless unmixed _ _ _⟩

end Formula

end NoteCalc
