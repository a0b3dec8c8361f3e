import NoteCalc.Formula.OperatorStack
import NoteCalc.Line.Structure

/-!
# Evaluating a line

The formula of a line may stand anywhere in its prose.  Every run of tokens that looks like a
formula is a candidate: those that start further left come first, and of those the longer ones.
The first candidate that has a value gives the line's value.  If the whole line is a formula and
fails, no part of it is tried in its place, so that `5 / 0` does not pass for `5`.
-/

namespace NoteCalc

namespace Token

/-- The measure that a token carries. -/
def measure? (token : Token) : Option Measure :=
  match token.kind with
  | .amount _ measure => some measure
  | _ => none

/-- The fraction that a percentage stands for. -/
def fraction? (token : Token) : Option Float :=
  match token.kind with
  | .amount amount (.single .percent) => some (NamedUnit.percent.toBase amount)
  | _ => none

/-- Whether a token is the keyword between a percentage and its base. -/
def isOf (token : Token) : Bool :=
  match token.kind with
  | .of => true
  | _ => false

/-- Whether a token is the keyword `to`. -/
def isTo (token : Token) : Bool :=
  match token.kind with
  | .to => true
  | _ => false

end Token

namespace Formula

/-! ## What looks like a formula -/

/-- A value, a conversion keyword, and a unit or a name. -/
def isConversion (first middle last : Token) : Bool :=
  first.isOperand && middle.isConversion && (last.measure?.isSome || last.isVariable)

/-- A percentage of a value. -/
def isShare (first middle last : Token) : Bool :=
  first.fraction?.isSome && middle.isOf && last.isOperand

/-- Whether tokens look like a formula: a value alone; a conversion; a share; or anything longer
with a function, or with a value and an operator. -/
def looksEvaluable : List Token → Bool
  | [] => false
  | [token] => token.isOperand
  | tokens =>
      let isShort :=
        match tokens with
        | [first, middle, last] => isConversion first middle last || isShare first middle last
        | _ => false
      isShort || tokens.any Token.isCall ||
        (tokens.any Token.isOperator && tokens.any Token.isOperand)

/-! ## The value of a candidate -/

/-- The tokens before the first conversion keyword and the measure after it, if there is one;
otherwise all tokens. -/
def splitConversion (tokens : List Token) : List Token × Option Measure :=
  let isOther (token : Token) : Bool := !token.isConversion
  match (tokens.dropWhile isOther).tail.findSome? Token.measure? with
  | some target => (tokens.takeWhile isOther, some target)
  | none => (tokens, none)

/-- Express a value in a measure. -/
def convert (value : Quantity Float) (target : Measure) :
    Except EvaluationError (Quantity Float) :=
  match value.convert target with
  | .ok value => .ok value
  | .error error => .error (.unit error)

/-- The value of tokens with a conversion at their end, or of an expression. -/
def expression (surroundings : Surroundings) (tokens : List Token) :
    Except EvaluationError (Quantity Float) := do
  let (tokens, target) := splitConversion tokens
  let value ← OperatorStack.evaluate surroundings tokens
  match target with
  | some target => convert value target
  | none => return value

/-- The value of a candidate.  Two forms of three tokens are special: an amount to be converted,
and a percentage of a value. -/
def value (surroundings : Surroundings) (tokens : List Token) :
    Except EvaluationError (Quantity Float) :=
  match tokens with
  | [first, middle, last] =>
      match first.kind, middle.isTo, last.measure?, first.fraction?, middle.isOf with
      | .amount amount source, true, some target, _, _ => convert (.of amount source) target
      | _, _, _, some fraction, true => do
          let base ← surroundings.operand last
          return ⟨fraction * base.amount, base.measure⟩
      | _, _, _, _, _ => expression surroundings tokens
  | _ => expression surroundings tokens

/-! ## The search -/

/-- A value that was found or not, and the failures on the way, in order. -/
structure Outcome (α : Type) where
  value : Option α
  errors : List EvaluationError

/-- Put failures in front of those that came after them. -/
def Outcome.after {α : Type} (errors : List EvaluationError) (outcome : Outcome α) : Outcome α :=
  { outcome with errors := errors ++ outcome.errors }

/-- Whether every name among tokens is bound, where names are not prose. -/
def namesBound (surroundings : Surroundings) (tokens : List Token) : Bool :=
  surroundings.bindings.isNone ||
    tokens.all fun token => token.variableName?.all surroundings.binds

/-- Whether the failure of all tokens is the failure of the line.  It is when they hold arithmetic
or a conversion but not both; where names are prose, also when they hold both and the conversion
stands right before the last token. -/
def isFinal (surroundings : Surroundings) (tokens : List Token) : Bool :=
  let computes := tokens.any Token.isOperator
  let converts := tokens.any Token.isConversion
  computes != converts ||
    (surroundings.bindings.isNone && computes &&
      (tokens.dropLast.getLast?).any Token.isConversion)

/-- Try the leading runs of some tokens, from one of a given length down to a single token.  The
outcome is the value of the line, or that it has none, as soon as either is certain.  `line` are all
tokens of the line. -/
def searchLeading (surroundings : Surroundings) (line tokens : List Token) :
    (length : Nat) → Outcome (Option (Quantity Float))
  | 0 => ⟨none, []⟩
  | length + 1 =>
      let candidate := tokens.take (length + 1)
      if looksEvaluable candidate && namesBound surroundings candidate then
        match value surroundings candidate with
        | .ok value => ⟨some (some value), []⟩
        | .error error =>
            if candidate.length = line.length ∧ isFinal surroundings line = true then
              ⟨some none, [error]⟩
            else (searchLeading surroundings line tokens length).after [error]
      else searchLeading surroundings line tokens length

/-- Try all runs of some tokens, those that start further left first, until the value of the line
is certain.  `line` are all tokens of the line. -/
def search (surroundings : Surroundings) (line : List Token) :
    (tokens : List Token) → Outcome (Quantity Float)
  | [] => ⟨none, [.noExpression]⟩
  | token :: tokens =>
      let leading := searchLeading surroundings line (token :: tokens) (tokens.length + 1)
      match leading.value with
      | some value => ⟨value, leading.errors⟩
      | none => (search surroundings line tokens).after leading.errors

/-- The first name that is not bound and has a mathematical neighbour.  `previous` is the token
before the others. -/
def unboundBesideMath? (surroundings : Surroundings) :
    (previous : Option Token) → List Token → Option (Token × String)
  | _, [] => none
  | previous, token :: tokens =>
      let isBesideMath :=
        previous.any Token.isMathematical || tokens.head?.any Token.isMathematical
      match token.variableName? with
      | some name =>
          if !surroundings.binds name && isBesideMath then some (token, name)
          else unboundBesideMath? surroundings (some token) tokens
      | none => unboundBesideMath? surroundings (some token) tokens

/-- The value of the first candidate that has one.  Where names are not prose, an unbound name
beside mathematics keeps the line from having any. -/
def find (surroundings : Surroundings) (tokens : List Token) : Outcome (Quantity Float) :=
  if tokens.isEmpty then ⟨none, []⟩
  else
    let unbound? :=
      if surroundings.bindings.isSome then unboundBesideMath? surroundings none tokens else none
    match unbound? with
    | some (token, name) => ⟨none, [surroundings.undefined token name]⟩
    | none => search surroundings tokens tokens

/-! ## Lines -/

/-- What a line shows: its result, and what it assigns. -/
structure LineValue where
  result : Option String := none
  assignment : Option Assignment := none
deriving Repr, DecidableEq

/-- The name and the right side of tokens that have the form of an assignment. -/
def assignment? : List Token → Option (String × List Token)
  | target :: sign :: first :: tokens =>
      if sign.isAssign then target.variableName?.map (·, first :: tokens) else none
  | _ => none

/-- The outcome of a search as the value of a line. -/
def found (surroundings : Surroundings) (tokens : List Token) : Outcome LineValue :=
  let outcome := find surroundings tokens
  ⟨outcome.value.map fun value => ⟨some value.text, none⟩, outcome.errors⟩

/-- Evaluate the tokens of a line.  The right side of an assignment is evaluated as a whole; if it
fails, the line is searched like any other. -/
def evaluate (surroundings : Surroundings) (tokens : List Token) : Outcome LineValue :=
  match assignment? tokens with
  | none => found surroundings tokens
  | some (name, right) =>
      match value surroundings right with
      | .ok value => ⟨some ⟨some value.text, some ⟨name, value.text⟩⟩, []⟩
      | .error error => (found surroundings tokens).after [error]

end Formula

/-- What a line shows in its surroundings. -/
def evaluateLine (surroundings : Surroundings) (line : String) :
    Except UnreadableDigit Formula.LineValue :=
  (tokens? line).map fun tokens =>
    (tokens.bind fun tokens => (Formula.evaluate surroundings tokens).value).getD {}

end NoteCalc
