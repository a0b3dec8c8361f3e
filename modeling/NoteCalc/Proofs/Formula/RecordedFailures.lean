import NoteCalc.Proofs.Formula.SearchOrder
import NoteCalc.Proofs.Quantity.CheckedArithmetic

/-!
# Recorded failures

Evaluation makes its attempts in a fixed order: the right side of an assignment first, then every
run of tokens that is a candidate.  An attempt that fails leaves its failure in the record, and the
next one is made.  So whatever fails inside is found in the record, and a line without a value has
at least one failure to show for it.  That a divisor vanishes in scaling is a failure that never
arises.
-/

namespace NoteCalc

variable {surroundings : Surroundings}

/-! ## Failures of units -/

/-- A failure of an operator or of a conversion. -/
inductive UnitError.Arises : UnitError → Prop where
  | operator {operator : Operator} {left right : Quantity Float} {error : UnitError}
      (failed : operator.apply left right = .error error) : Arises error
  | conversion {quantity : Quantity Float} {target : Measure} {error : UnitError}
      (failed : quantity.convert target = .error error) : Arises error

/-- No divisor vanishes in scaling. -/
theorem UnitError.Arises.ne_vanishingDivisor {error : UnitError} (arises : error.Arises) :
    error ≠ .vanishingDivisor := by
  rintro rfl
  cases arises with
  | @operator operator left right _ failed =>
      cases operator with
      | plus | minus =>
          simp only [Operator.apply, Quantity.add, Quantity.subtract, Quantity.combine] at failed
          grind
      | times =>
          simp only [Operator.apply, Quantity.multiply] at failed
          grind
      | power =>
          simp only [Operator.apply, Quantity.raise] at failed
          grind
      | _ => exact (Quantity.divide_checked left right).2 failed
  | conversion failed =>
      simp only [Quantity.convert, Quantity.convertRate, Quantity.convertByBase] at failed
      grind

/-- If a computation fails with a failure of units, then an operator or a conversion fails so. -/
def FailsByUnits {α : Type} (result : Except EvaluationError α) : Prop :=
  ∀ error, result = .error (.unit error) → error.Arises

namespace FailsByUnits

variable {α β : Type}

theorem ok (found : α) : FailsByUnits (.ok found) := by
  intro error failed
  cases failed

theorem other {error : EvaluationError} (noUnits : ∀ unit, error ≠ .unit unit) :
    FailsByUnits (.error error : Except EvaluationError α) :=
  fun unit failed => absurd (Except.error.inj failed) (noUnits unit)

theorem bind {result : Except EvaluationError α} {next : α → Except EvaluationError β}
    (first : FailsByUnits result) (rest : ∀ found, FailsByUnits (next found)) :
    FailsByUnits (result >>= next) := by
  cases result with
  | error error =>
      intro unit failed
      exact first unit (by simpa [Bind.bind, Except.bind] using failed)
  | ok found => exact rest found

theorem foldlM {step : β → α → Except EvaluationError β}
    (steps : ∀ state input, FailsByUnits (step state input)) (state : β) (inputs : List α) :
    FailsByUnits (inputs.foldlM step state) := by
  induction inputs generalizing state with
  | nil => exact ok state
  | cons input inputs induction =>
      rw [List.foldlM_cons]
      exact (steps state input).bind induction

end FailsByUnits

namespace OperatorStack

theorem operand_failsByUnits (token : Token) : FailsByUnits (surroundings.operand token) := by
  unfold Surroundings.operand
  split
  · exact .ok _
  · exact .ok _
  · unfold Surroundings.resultOf
    split
    · exact .other (by simp)
    · split
      · exact .ok _
      · exact .other (by simp)
  · unfold Surroundings.valueOf
    split
    · exact .other (by simp [Surroundings.undefined])
    · split
      · exact .ok _
      · exact .other (by simp)
  · exact .other (by simp)

theorem apply_failsByUnits (waiting : Waiting) (values : List (Quantity Float)) :
    FailsByUnits (waiting.apply values) := by
  cases waiting with
  | parenthesis | call => exact .other (by simp)
  | negation token =>
      cases values with
      | nil => exact .other (by simp)
      | cons value values => exact .ok _
  | binary operator token =>
      match values with
      | [] | [_] => exact .other (by simp)
      | right :: left :: values =>
          intro unit failed
          cases applied : operator.apply left right with
          | ok result => simp [Waiting.apply, applied] at failed
          | error error =>
              simp only [Waiting.apply, applied] at failed
              cases failed
              exact .operator applied

theorem settle_failsByUnits (keeps : Waiting → Bool) (waiting : List Waiting)
    (values : List (Quantity Float)) : FailsByUnits (settle keeps waiting values) := by
  induction waiting generalizing values with
  | nil => exact .ok _
  | cons top waiting induction =>
      unfold settle
      split
      · exact .ok _
      · exact (apply_failsByUnits top values).bind induction

theorem call_failsByUnits (function : NamedFunction) (values : List (Quantity Float)) :
    FailsByUnits (call surroundings function values) := by
  unfold call
  split
  · exact .ok _
  · exact .other (by simp)
  · split
    · exact .other (by simp)
    · split
      · exact .other (by simp)
      · exact .ok _

theorem close_failsByUnits (token : Token) (stack : OperatorStack) :
    FailsByUnits (close surroundings token stack) := by
  refine (settle_failsByUnits _ _ _).bind ?_
  rintro ⟨waiting, values⟩
  match waiting with
  | [] => exact .other (by simp)
  | _ :: .call function _ :: waiting => exact (call_failsByUnits _ _).bind fun _ => .ok _
  | [_] | _ :: .binary .. :: _ | _ :: .negation _ :: _ | _ :: .parenthesis _ :: _ => exact .ok _

theorem operate_failsByUnits (operator : Operator) (token : Token) (stack : OperatorStack) :
    FailsByUnits (operate operator token stack) := by
  unfold operate
  split
  · exact .ok _
  · exact (settle_failsByUnits _ _ _).bind fun _ => .ok _

theorem step_failsByUnits (stack : OperatorStack) (token : Token) :
    FailsByUnits (step surroundings stack token) := by
  have operand : FailsByUnits (do
      let value ← surroundings.operand token
      return { stack with values := value :: stack.values, previous := some token }) :=
    (operand_failsByUnits token).bind fun _ => .ok _
  unfold step
  cases token.kind with
  | number | amount | reference => exact operand
  | identifier name =>
      simp only
      split
      · exact operand
      · exact .ok _
  | operator operator => exact operate_failsByUnits operator token stack
  | closeParenthesis => exact close_failsByUnits token stack
  | _ => exact .ok _

theorem evaluate_failsByUnits (tokens : List Token) :
    FailsByUnits (evaluate surroundings tokens) := by
  refine (FailsByUnits.foldlM step_failsByUnits _ tokens).bind fun stack => ?_
  refine (settle_failsByUnits _ _ _).bind ?_
  rintro ⟨waiting, values⟩
  match values with
  | [value] => exact .ok _
  | [] | _ :: _ :: _ => exact .other (by simp)

end OperatorStack

namespace Formula

theorem convert_failsByUnits (quantity : Quantity Float) (target : Measure) :
    FailsByUnits (convert quantity target) := by
  intro unit failed
  cases converted : quantity.convert target with
  | ok result => simp [convert, converted] at failed
  | error error =>
      simp only [convert, converted] at failed
      cases failed
      exact .conversion converted

/-- Where a run fails with a failure of units, an operator or a conversion fails so. -/
theorem value_failsByUnits (tokens : List Token) : FailsByUnits (value surroundings tokens) := by
  have general : FailsByUnits (expression surroundings tokens) := by
    refine (OperatorStack.evaluate_failsByUnits _).bind fun quantity => ?_
    split
    · exact convert_failsByUnits quantity _
    · exact .ok _
  unfold value
  split
  · split
    · exact convert_failsByUnits _ _
    · exact (OperatorStack.operand_failsByUnits _).bind fun _ => .ok _
    · exact general
  · exact general

/-! ## Attempts -/

/-- What is attempted for a line, in order. -/
def attempts (surroundings : Surroundings) (tokens : List Token) : List (List Token) :=
  ((assignment? tokens).map Prod.snd).toList ++ candidates surroundings (runs tokens)

/-- How attempts end and what they record.  Each of them fails, and its failure comes first in the
record, or is the last that is made. -/
inductive Concluded {α : Type} (surroundings : Surroundings) (line : List Token)
    (shows : Quantity Float → α → Prop) : List (List Token) → Outcome α → Prop where
  | value {run : List Token} {rest : List (List Token)} {result : Quantity Float} {shown : α}
      (isValue : value surroundings run = .ok result) (isShown : shows result shown) :
      Concluded surroundings line shows (run :: rest) ⟨some shown, []⟩
  | failed {run : List Token} {rest : List (List Token)} {error : EvaluationError}
      {outcome : Outcome α} (fails : value surroundings run = .error error)
      (later : Concluded surroundings line shows rest outcome) :
      Concluded surroundings line shows (run :: rest) (outcome.after [error])
  /-- The line fails as a whole, and this is final. -/
  | final {rest : List (List Token)} {error : EvaluationError}
      (fails : value surroundings line = .error error)
      (isFinal : isFinal surroundings line = true) :
      Concluded surroundings line shows (line :: rest) ⟨none, [error]⟩
  /-- An unbound name keeps the other attempts from being made. -/
  | unbound {rest : List (List Token)} {token : Token} {name : String} (member : token ∈ line)
      (isName : token.variableName? = some name) (notBound : surroundings.binds name = false) :
      Concluded surroundings line shows rest ⟨none, [surroundings.undefined token name]⟩
  | exhausted : Concluded surroundings line shows [] ⟨none, [.noExpression]⟩

namespace Concluded

variable {α : Type} {line : List Token} {shows : Quantity Float → α → Prop}
  {attempted : List (List Token)} {outcome : Outcome α}

/-- A line without a value has a failure in its record. -/
theorem errors_ne_nil (concluded : Concluded surroundings line shows attempted outcome)
    (noValue : outcome.value = none) : outcome.errors ≠ [] := by
  cases concluded with
  | value => cases noValue
  | failed | final | unbound | exhausted => exact List.cons_ne_nil _ _

/-- What is recorded is the failure of an attempt, or that there is an unbound name or nothing left
to attempt. -/
theorem mem_errors (concluded : Concluded surroundings line shows attempted outcome)
    {error : EvaluationError} (member : error ∈ outcome.errors) :
    (∃ run ∈ attempted, Formula.value surroundings run = .error error) ∨
      ∀ unit, error ≠ .unit unit := by
  induction concluded with
  | value => cases member
  | @failed run rest failure outcome fails later induction =>
      rcases List.mem_cons.mp member with rfl | member
      · exact .inl ⟨run, List.mem_cons_self, fails⟩
      · rcases induction member with ⟨other, attempt, failsToo⟩ | closing
        · exact .inl ⟨other, List.mem_cons_of_mem _ attempt, failsToo⟩
        · exact .inr closing
  | final fails =>
      rw [List.mem_singleton] at member
      exact .inl ⟨line, List.mem_cons_self, member ▸ fails⟩
  | unbound | exhausted =>
      rw [List.mem_singleton] at member
      exact .inr (by simp [member, Surroundings.undefined])

theorem map {β : Type} {showsToo : Quantity Float → β → Prop} {display : α → β}
    (concluded : Concluded surroundings line shows attempted outcome)
    (displays : ∀ result shown, shows result shown → showsToo result (display shown)) :
    Concluded surroundings line showsToo attempted ⟨outcome.value.map display, outcome.errors⟩ := by
  induction concluded with
  | value isValue isShown => exact .value isValue (displays _ _ isShown)
  | failed fails _ induction => exact .failed fails induction
  | final fails isFinal => exact .final fails isFinal
  | unbound member isName notBound => exact .unbound member isName notBound
  | exhausted => exact .exhausted

end Concluded

/-! ## The search -/

section

variable {line tokens : List Token}

/-- What the search makes of the leading runs and of those that start later. -/
def andThen (leading : Outcome (Option (Quantity Float))) (later : Outcome (Quantity Float)) :
    Outcome (Quantity Float) :=
  match leading.value with
  | some value => ⟨value, leading.errors⟩
  | none => later.after leading.errors

theorem andThen_after (error : EvaluationError) (leading : Outcome (Option (Quantity Float)))
    (later : Outcome (Quantity Float)) :
    andThen (leading.after [error]) later = (andThen leading later).after [error] := by
  unfold andThen Outcome.after
  cases leading.value <;> rfl

theorem concluded_searchLeading (within : tokens <:+: line) {rest : List (List Token)}
    {later : Outcome (Quantity Float)} (concluded : Concluded surroundings line Eq rest later)
    (length : Nat) :
    Concluded surroundings line Eq (candidates surroundings (leadingRuns tokens length) ++ rest)
      (andThen (searchLeading surroundings line tokens length) later) := by
  induction length with
  | zero => exact concluded
  | succ length induction =>
      have isInfix : tokens.take (length + 1) <:+: line :=
        (List.take_prefix _ _).isInfix.trans within
      rw [leadingRuns]
      by_cases candidate : Candidate surroundings (tokens.take (length + 1))
      · rw [candidates_cons_of_candidate candidate, List.cons_append]
        cases isValue : value surroundings (tokens.take (length + 1)) with
        | ok result =>
            rw [searchLeading_of_valued candidate isValue]
            exact .value isValue rfl
        | error error =>
            by_cases final : (tokens.take (length + 1)).length = line.length ∧
                isFinal surroundings line = true
            · rw [searchLeading_of_final candidate isValue final]
              rw [isInfix.eq_of_length final.1] at isValue ⊢
              exact .final isValue final.2
            · rw [searchLeading_of_failed candidate isValue final, andThen_after]
              exact .failed isValue induction
      · rw [candidates_cons_of_not_candidate candidate, searchLeading_of_not_candidate candidate]
        exact induction

theorem concluded_search (within : tokens <:+: line) :
    Concluded surroundings line Eq (candidates surroundings (runs tokens))
      (search surroundings line tokens) := by
  induction tokens with
  | nil => exact .exhausted
  | cons token tokens induction =>
      have later := induction ((List.suffix_cons token tokens).isInfix.trans within)
      rw [runs, candidates, List.filter_append]
      exact concluded_searchLeading within later (tokens.length + 1)

theorem unbound_of_unboundBesideMath? {previous : Option Token} {token : Token} {name : String}
    (unbound : unboundBesideMath? surroundings previous tokens = some (token, name)) :
    token ∈ tokens ∧ token.variableName? = some name ∧ surroundings.binds name = false := by
  induction tokens generalizing previous with
  | nil => cases unbound
  | cons first tokens induction =>
      rw [unboundBesideMath?] at unbound
      split at unbound
      · split at unbound
        · rename_i found here
          obtain ⟨notBound, -⟩ := Bool.and_eq_true_iff.mp here
          cases unbound
          exact ⟨List.mem_cons_self, found, by simpa using notBound⟩
        · obtain ⟨member, known⟩ := induction unbound
          exact ⟨List.mem_cons_of_mem _ member, known⟩
      · obtain ⟨member, known⟩ := induction unbound
        exact ⟨List.mem_cons_of_mem _ member, known⟩

theorem concluded_find (notEmpty : tokens ≠ []) :
    Concluded surroundings tokens Eq (candidates surroundings (runs tokens))
      (find surroundings tokens) := by
  unfold find
  rw [if_neg (by simpa using notEmpty)]
  dsimp only
  split
  · rename_i token name unbound
    split at unbound
    · obtain ⟨member, isName, notBound⟩ := unbound_of_unboundBesideMath? unbound
      exact .unbound member isName notBound
    · cases unbound
  · exact concluded_search (List.infix_refl tokens)

end

/-- A line shows a result, and assigns nothing else. -/
def Shows (result : Quantity Float) (shown : LineValue) : Prop :=
  shown.result = some result.text ∧
    ∀ assigned ∈ shown.assignment, assigned.value = result.text

theorem concluded_evaluate {tokens : List Token} (notEmpty : tokens ≠ []) :
    Concluded surroundings tokens Shows (attempts surroundings tokens)
      (evaluate surroundings tokens) := by
  have searched : Concluded surroundings tokens Shows (candidates surroundings (runs tokens))
      (found surroundings tokens) :=
    (concluded_find notEmpty).map fun result shown isShown => ⟨by simp [isShown], by simp⟩
  unfold attempts evaluate
  cases assignment? tokens with
  | none => exact searched
  | some assigned =>
      obtain ⟨name, right⟩ := assigned
      simp only [Option.map_some, Option.toList_some, List.singleton_append]
      cases isValue : value surroundings right with
      | ok result => exact .value isValue ⟨rfl, by simp⟩
      | error error => exact .failed isValue searched

/-- The square root is taken of no number below zero. -/
theorem call_sqrt_eq_ok {values after : List (Quantity Float)}
    (isOk : OperatorStack.call surroundings .sqrt values = .ok after) :
    ∃ argument rest, values = argument :: rest ∧ argument.measure = none ∧
      ¬argument.amount < 0 ∧ after = ⟨argument.amount.sqrt, none⟩ :: rest := by
  cases values with
  | nil => cases isOk
  | cons argument rest =>
      unfold OperatorStack.call at isOk
      dsimp only at isOk
      split at isOk
      · cases isOk
      · rename_i plain
        split at isOk
        · cases isOk
        · rename_i notBelow
          cases isOk
          exact ⟨argument, rest, rfl, by simpa using plain, notBelow, rfl⟩

/-- Evaluation ends with a result, and what it assigns, or with nothing, and all failures on the way
are in its record.  No arithmetic that it can come to divides by zero or takes the square root of
what is below zero, whatever the quantities. -/
theorem evaluate_contained (surroundings : Surroundings) (tokens : List Token) :
    (tokens = [] ∧ evaluate surroundings tokens = ⟨none, []⟩ ∨
      Concluded surroundings tokens Shows (attempts surroundings tokens)
        (evaluate surroundings tokens)) ∧
    ((evaluate surroundings tokens).value = none → tokens ≠ [] →
      (evaluate surroundings tokens).errors ≠ []) ∧
    (∀ error ∈ (evaluate surroundings tokens).errors, error ≠ .unit .vanishingDivisor) ∧
    (∀ left right target, Quantity.Unfaulted left right target) ∧
    ∀ values after, OperatorStack.call surroundings .sqrt values = .ok after →
      ∃ argument rest, values = argument :: rest ∧ argument.measure = none ∧
        ¬argument.amount < 0 ∧ after = ⟨argument.amount.sqrt, none⟩ :: rest := by
  refine ⟨?_, ?_, ?_, Quantity.unfaulted, fun values after => call_sqrt_eq_ok⟩
  · rcases eq_or_ne tokens [] with rfl | notEmpty
    · exact .inl ⟨rfl, rfl⟩
    · exact .inr (concluded_evaluate notEmpty)
  · intro noValue notEmpty
    exact (concluded_evaluate notEmpty).errors_ne_nil noValue
  · rintro _ member rfl
    have notEmpty : tokens ≠ [] := by
      rintro rfl
      cases member
    rcases (concluded_evaluate notEmpty).mem_errors member with ⟨run, -, fails⟩ | other
    · exact (value_failsByUnits run _ fails).ne_vanishingDivisor rfl
    · exact other _ rfl

end Formula

end NoteCalc
