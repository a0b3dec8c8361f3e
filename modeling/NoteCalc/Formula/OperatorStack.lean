import NoteCalc.Formula.Surroundings

/-!
# Evaluation with an operator stack

Tokens in infix order are evaluated in one pass.  Values wait on one stack, and operators,
parentheses and functions on another until both their operands are complete.  An operator that
binds less tightly than the waiting ones applies them first; powers associate to the right and all
other operators to the left.  A minus where no value stands before it negates, and binds less
tightly than a power.
-/

namespace NoteCalc

namespace Operator

/-- How tightly an operator binds. -/
def precedence : Operator → Nat
  | .plus | .minus => 1
  | .times | .over => 2
  | .power => 4

/-- Apply an operator. -/
def apply : Operator → Quantity Float → Quantity Float → Except UnitError (Quantity Float)
  | .plus => Quantity.add
  | .minus => Quantity.subtract
  | .times => Quantity.multiply
  | .over => Quantity.divide
  | .power => Quantity.raise

end Operator

/-- What waits for its operands to be complete. -/
inductive Waiting where
  | binary (operator : Operator) (token : Token)
  | negation (token : Token)
  | parenthesis (token : Token)
  | call (function : NamedFunction) (token : Token)

namespace Waiting

/-- How tightly a waiting operator binds.  Parentheses and functions wait for their closing
parenthesis and yield to no operator. -/
def precedence : Waiting → Nat
  | .binary operator _ => operator.precedence
  | .negation _ => 3
  | .parenthesis _ | .call .. => 0

/-- Whether a waiting operator keeps waiting when another operator arrives. -/
def outlasts (arriving : Operator) (waiting : Waiting) : Bool :=
  match arriving with
  | .power => waiting.precedence ≤ arriving.precedence
  | _ => waiting.precedence < arriving.precedence

/-- Whether this is an open parenthesis. -/
def isParenthesis : Waiting → Bool
  | .parenthesis _ => true
  | _ => false

/-- Apply what has waited to the topmost values. -/
def apply (waiting : Waiting) (values : List (Quantity Float)) :
    Except EvaluationError (List (Quantity Float)) :=
  match waiting with
  | .parenthesis token | .call _ token => .error (.unclosedOpen token)
  | .negation token =>
      match values with
      | value :: values => .ok (value.negate :: values)
      | [] => .error (.nothingToNegate token)
  | .binary operator token =>
      match values with
      | right :: left :: values =>
          match operator.apply left right with
          | .ok value => .ok (value :: values)
          | .error error => .error (.unit error)
      | _ => .error (.missingOperand token)

end Waiting

/-- The two stacks, topmost first, and the token before the next one. -/
structure OperatorStack where
  values : List (Quantity Float) := []
  waiting : List Waiting := []
  previous : Option Token := none

namespace OperatorStack

/-- Apply what waits, from the top, until something keeps waiting. -/
def settle (keeps : Waiting → Bool) :
    List Waiting → List (Quantity Float) →
      Except EvaluationError (List Waiting × List (Quantity Float))
  | [], values => .ok ([], values)
  | top :: waiting, values =>
      if keeps top then .ok (top :: waiting, values)
      else do settle keeps waiting (← top.apply values)

/-- Whether a minus after this token negates what follows it. -/
def isBeforeOperand : Option Token → Bool
  | none => true
  | some token =>
      match token.kind with
      | .operator _ | .openParenthesis | .call _ => true
      | _ => false

/-- Apply a function to the topmost values. -/
def call (surroundings : Surroundings) (function : NamedFunction) (values : List (Quantity Float)) :
    Except EvaluationError (List (Quantity Float)) :=
  match function, values with
  | .sumAbove, values => .ok (surroundings.total :: values)
  | .sqrt, [] => .error .missingArgument
  | .sqrt, argument :: values =>
      if argument.measure.isSome then .error (.measuredArgument argument.text)
      else if argument.amount < 0 then .error .negativeArgument
      else .ok (⟨argument.amount.sqrt, none⟩ :: values)

/-- Close the innermost parenthesis, and apply the function that stands before it. -/
def close (surroundings : Surroundings) (token : Token) (stack : OperatorStack) :
    Except EvaluationError OperatorStack := do
  let (waiting, values) ← settle Waiting.isParenthesis stack.waiting stack.values
  match waiting with
  | [] => .error (.unmatchedClose token)
  | _ :: .call function _ :: waiting =>
      return ⟨← call surroundings function values, waiting, some token⟩
  | _ :: waiting => return ⟨values, waiting, some token⟩

/-- Take in an operator. -/
def operate (operator : Operator) (token : Token) (stack : OperatorStack) :
    Except EvaluationError OperatorStack :=
  if operator = .minus ∧ isBeforeOperand stack.previous = true then
    .ok { stack with waiting := .negation token :: stack.waiting, previous := some token }
  else do
    let (waiting, values) ← settle (Waiting.outlasts operator) stack.waiting stack.values
    return ⟨values, .binary operator token :: waiting, some token⟩

/-- Take in a token.  Keywords and the equals sign are passed over, and so are names where names
are prose. -/
def step (surroundings : Surroundings) (stack : OperatorStack) (token : Token) :
    Except EvaluationError OperatorStack :=
  let operand : Except EvaluationError OperatorStack := do
    let value ← surroundings.operand token
    return { stack with values := value :: stack.values, previous := some token }
  match token.kind with
  | .number _ | .amount .. | .reference _ => operand
  | .identifier _ => if surroundings.bindings.isSome then operand else .ok stack
  | .operator operator => stack.operate operator token
  | .openParenthesis =>
      .ok { stack with waiting := .parenthesis token :: stack.waiting, previous := some token }
  | .call function =>
      .ok { stack with waiting := .call function token :: stack.waiting, previous := some token }
  | .closeParenthesis => stack.close surroundings token
  | .to | .into | .of | .assign => .ok stack

/-- The value that remains when nothing waits any more; it has to be the only one. -/
def finish (stack : OperatorStack) : Except EvaluationError (Quantity Float) := do
  let (_, values) ← settle (fun _ => false) stack.waiting stack.values
  match values with
  | [value] => return value
  | values => .error (.severalValues values.length)

/-- The value of a series of tokens. -/
def evaluate (surroundings : Surroundings) (tokens : List Token) :
    Except EvaluationError (Quantity Float) := do
  finish (← tokens.foldlM (step surroundings) {})

end OperatorStack

end NoteCalc
