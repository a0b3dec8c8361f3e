import NoteCalc.Proofs.Formula.StackEvaluation

/-!
# The steps of the operator stack

What taking in one token can do to the stack, for every token that can be part of an expression and
whether or not it stands where it should.  Operators that are applied come off the top, and the
values that there are in the end can be counted in advance.
-/

namespace NoteCalc

variable {names : Bool} {token : Token}

/-- Whether a token can be part of an expression at all. -/
def Token.isPart (names : Bool) (token : Token) : Bool :=
  match token.kind with
  | .operator _ | .openParenthesis | .closeParenthesis | .call _ => true
  | _ => token.isAtom names

theorem Token.isPart_cases (isPart : token.isPart names = true) :
    token.isAtom names = true ∨ (∃ operator, token.kind = .operator operator) ∨
      token.kind = .openParenthesis ∨ token.kind = .closeParenthesis ∨
      ∃ function, token.kind = .call function := by
  unfold Token.isPart at isPart
  cases kind : token.kind <;> simp_all

namespace Waiting

/-- Whether this is applied as soon as its operands are complete. -/
def isOperator : Waiting → Bool
  | .binary .. | .negation _ => true
  | .parenthesis _ | .call .. => false

/-- How many values fewer there are when this no longer waits. -/
def demand : Waiting → Int
  | .binary .. => 1
  | .negation _ | .parenthesis _ | .call .sqrt _ => 0
  | .call .sumAbove _ => -1

/-- How many values fewer there are when none of these waits any more. -/
def demands : List Waiting → Int
  | [] => 0
  | top :: waiting => top.demand + demands waiting

theorem demands_append (applied left : List Waiting) :
    demands (applied ++ left) = demands applied + demands left := by
  induction applied with
  | nil => simp [demands]
  | cons top applied induction =>
      rw [List.cons_append, demands, demands, induction]
      omega

theorem apply_eq_ok {waiting : Waiting} {values next : List (Quantity Float)}
    (applied : waiting.apply values = .ok next) :
    waiting.isOperator = true ∧ (next.length : Int) = values.length - waiting.demand := by
  cases waiting with
  | parenthesis | call => exact absurd applied (by simp [apply])
  | negation sign =>
      cases values with
      | nil => exact absurd applied (by simp [apply])
      | cons value values =>
          rw [← Except.ok.inj applied]
          simp [isOperator, demand]
  | binary operator sign =>
      cases values with
      | nil => exact absurd applied (by simp [apply])
      | cons right values =>
          cases values with
          | nil => exact absurd applied (by simp [apply])
          | cons left values =>
              cases result : operator.apply left right with
              | error error => exact absurd applied (by simp [apply, result])
              | ok value =>
                  simp only [apply, result] at applied
                  rw [← Except.ok.inj applied]
                  simp [isOperator, demand]

end Waiting

/-- How many values more there will be behind a token. -/
def Token.gain (beforeOperand : Bool) (token : Token) : Int :=
  match token.kind with
  | .operator operator => if operator = .minus ∧ beforeOperand = true then 0 else -1
  | .openParenthesis | .closeParenthesis | .call .sqrt => 0
  | _ => 1

theorem Token.gain_of_isAtom {beforeOperand : Bool} (isAtom : token.isAtom names = true) :
    token.gain beforeOperand = 1 := by
  unfold Token.isAtom at isAtom
  unfold Token.gain
  cases kind : token.kind <;> simp_all

namespace OperatorStack

variable {surroundings : Surroundings} {stack next : OperatorStack}

/-! ## What a step can do -/

/-- Operators on top of a stack have been applied, and something else is left. -/
structure Settles (stack : OperatorStack) (applied left : List Waiting)
    (values : List (Quantity Float)) : Prop where
  waiting : stack.waiting = applied ++ left
  operators : ∀ item ∈ applied, item.isOperator = true
  count : (values.length : Int) = stack.values.length - Waiting.demands applied

theorem settle_eq_ok {keeps : Waiting → Bool} {waiting left : List Waiting}
    {values rest : List (Quantity Float)} (previous : Option Token)
    (settled : settle keeps waiting values = .ok (left, rest)) :
    (∃ applied, Settles ⟨values, waiting, previous⟩ applied left rest) ∧
      ∀ top ∈ left.head?, keeps top = true := by
  induction waiting generalizing values with
  | nil =>
      obtain ⟨rfl, rfl⟩ := Prod.mk.inj (Except.ok.inj settled)
      exact ⟨⟨[], rfl, by simp, by simp [Waiting.demands]⟩, by simp⟩
  | cons top waiting induction =>
      rw [settle] at settled
      split at settled
      · rename_i isKept
        obtain ⟨rfl, rfl⟩ := Prod.mk.inj (Except.ok.inj settled)
        exact ⟨⟨[], rfl, by simp, by simp [Waiting.demands]⟩, by simpa using isKept⟩
      · obtain ⟨fewer, isApplied, others⟩ := bind_eq_ok_iff.mp settled
        obtain ⟨isOperator, count⟩ := Waiting.apply_eq_ok isApplied
        obtain ⟨⟨applied, settles⟩, kept⟩ := induction others
        refine ⟨⟨top :: applied, congrArg (top :: ·) settles.waiting, ?_, ?_⟩, kept⟩
        · exact List.forall_mem_cons.mpr ⟨isOperator, settles.operators⟩
        · have counted : (rest.length : Int) = fewer.length - Waiting.demands applied :=
            settles.count
          change (rest.length : Int) = values.length - _
          rw [Waiting.demands]
          omega

/-- What taking in a part of an expression can do to a stack. -/
inductive Steps (names : Bool) (stack : OperatorStack) (token : Token) : OperatorStack → Prop where
  | operand (isAtom : token.isAtom names = true) (value : Quantity Float) :
      Steps names stack token
        { stack with values := value :: stack.values, previous := some token }
  | negation (isSign : token.kind = .operator .minus)
      (beforeOperand : isBeforeOperand stack.previous = true) :
      Steps names stack token
        { stack with waiting := .negation token :: stack.waiting, previous := some token }
  | binary {operator : Operator} {applied left : List Waiting} {values : List (Quantity Float)}
      (isSign : token.kind = .operator operator)
      (takesTwo : ¬(operator = .minus ∧ isBeforeOperand stack.previous = true))
      (settles : stack.Settles applied left values) :
      Steps names stack token ⟨values, .binary operator token :: left, some token⟩
  | opening (isOpening : token.kind = .openParenthesis) :
      Steps names stack token
        { stack with waiting := .parenthesis token :: stack.waiting, previous := some token }
  | caller {function : NamedFunction} (isCaller : token.kind = .call function) :
      Steps names stack token
        { stack with waiting := .call function token :: stack.waiting, previous := some token }
  | closing {opening : Token} {applied left : List Waiting} {values : List (Quantity Float)}
      (isClosing : token.kind = .closeParenthesis)
      (settles : stack.Settles applied (.parenthesis opening :: left) values)
      (uncalled : ∀ function caller, left.head? ≠ some (.call function caller)) :
      Steps names stack token ⟨values, left, some token⟩
  | called {opening caller : Token} {function : NamedFunction} {applied left : List Waiting}
      {values result : List (Quantity Float)} (isClosing : token.kind = .closeParenthesis)
      (settles : stack.Settles applied
        (.parenthesis opening :: .call function caller :: left) values)
      (count : (result.length : Int) = values.length - (Waiting.call function caller).demand) :
      Steps names stack token ⟨result, left, some token⟩

theorem call_eq_ok {function : NamedFunction} {values result : List (Quantity Float)}
    {caller : Token} (done : call surroundings function values = .ok result) :
    (result.length : Int) = values.length - (Waiting.call function caller).demand := by
  cases function with
  | sumAbove =>
      rw [← Except.ok.inj done]
      simp [Waiting.demand]
  | sqrt =>
      cases values with
      | nil => exact absurd done (by simp [call])
      | cons argument values =>
          rw [call_sqrt] at done
          obtain ⟨value, -, rfl⟩ := map_eq_ok_iff.mp done
          simp [Waiting.demand]

theorem steps_of_close (isClosing : token.kind = .closeParenthesis)
    (closed : stack.close surroundings token = .ok next) : Steps names stack token next := by
  obtain ⟨⟨left, values⟩, settled, rest⟩ := bind_eq_ok_iff.mp closed
  obtain ⟨⟨applied, settles⟩, kept⟩ := settle_eq_ok stack.previous settled
  cases left with
  | nil => exact absurd rest (by simp)
  | cons top left =>
      cases top with
      | binary | negation | call => exact absurd (kept _ rfl) (by simp [Waiting.isParenthesis])
      | parenthesis opening =>
          cases left with
          | nil =>
              rw [← Except.ok.inj rest]
              exact .closing isClosing settles (by simp)
          | cons item left =>
              cases item with
              | call function caller =>
                  obtain ⟨result, done, same⟩ := bind_eq_ok_iff.mp rest
                  rw [← Except.ok.inj same]
                  exact .called isClosing settles (call_eq_ok done)
              | binary | negation | parenthesis =>
                  rw [← Except.ok.inj rest]
                  exact .closing isClosing settles (by simp)

theorem steps_of_step (isPart : token.isPart surroundings.bindings.isSome = true)
    (stepped : step surroundings stack token = .ok next) :
    Steps surroundings.bindings.isSome stack token next := by
  rcases Token.isPart_cases isPart with
    isAtom | ⟨operator, isSign⟩ | isOpening | isClosing | ⟨function, isCaller⟩
  · rw [step_atom isAtom] at stepped
    obtain ⟨value, -, same⟩ := bind_eq_ok_iff.mp stepped
    rw [← Except.ok.inj same]
    exact .operand isAtom value
  · by_cases takesOne : operator = .minus ∧ isBeforeOperand stack.previous = true
    · obtain ⟨rfl, beforeOperand⟩ := takesOne
      rw [step_minus isSign beforeOperand] at stepped
      rw [← Except.ok.inj stepped]
      exact .negation isSign beforeOperand
    · rw [step_binary isSign takesOne] at stepped
      obtain ⟨⟨left, values⟩, settled, same⟩ := bind_eq_ok_iff.mp stepped
      obtain ⟨⟨applied, settles⟩, -⟩ := settle_eq_ok stack.previous settled
      rw [← Except.ok.inj same]
      exact .binary isSign takesOne settles
  · rw [step_opening isOpening] at stepped
    rw [← Except.ok.inj stepped]
    exact .opening isOpening
  · rw [step_closing isClosing] at stepped
    exact steps_of_close isClosing stepped
  · rw [step_caller isCaller] at stepped
    rw [← Except.ok.inj stepped]
    exact .caller isCaller

theorem Steps.previous_eq (steps : Steps names stack token next) :
    next.previous = some token := by
  cases steps <;> rfl

/-! ## Counting values -/

/-- The number of values that there will be when nothing waits. -/
def balance (stack : OperatorStack) : Int :=
  stack.values.length - Waiting.demands stack.waiting

theorem Settles.balance_eq {applied left : List Waiting} {values : List (Quantity Float)}
    (settles : stack.Settles applied left values) :
    stack.balance = values.length - Waiting.demands left := by
  unfold balance
  rw [settles.count, settles.waiting, Waiting.demands_append]
  omega

theorem Steps.balance_eq (steps : Steps names stack token next) :
    next.balance = stack.balance + token.gain (isBeforeOperand stack.previous) := by
  cases steps with
  | operand isAtom value =>
      rw [Token.gain_of_isAtom isAtom]
      simp only [balance, List.length_cons]
      omega
  | negation isSign beforeOperand =>
      simp [balance, Waiting.demands, Waiting.demand, Token.gain, isSign, beforeOperand]
  | binary isSign takesTwo settles =>
      rw [settles.balance_eq]
      simp only [balance, Token.gain, isSign, if_neg takesTwo, Waiting.demands, Waiting.demand]
      omega
  | opening isOpening =>
      simp [balance, Waiting.demands, Waiting.demand, Token.gain, isOpening]
  | @caller function isCaller =>
      cases function with
      | sqrt => simp [balance, Waiting.demands, Waiting.demand, Token.gain, isCaller]
      | sumAbove =>
          simp only [balance, Token.gain, isCaller, Waiting.demands, Waiting.demand]
          omega
  | closing isClosing settles =>
      rw [settles.balance_eq]
      simp [balance, Waiting.demands, Waiting.demand, Token.gain, isClosing]
  | called isClosing settles count =>
      rw [settles.balance_eq]
      simp only [balance, Token.gain, isClosing, count, Waiting.demands, Waiting.demand]
      omega

end OperatorStack

end NoteCalc
