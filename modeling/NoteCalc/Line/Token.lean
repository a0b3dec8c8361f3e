import NoteCalc.Diagnostic
import NoteCalc.Measure.Basic

/-!
# Tokens

A line is prose with a formula somewhere in it.  Its tokens are the amounts, names, references and
signs that could belong to the formula; every other word is a variable until it is known to be
prose.
-/

namespace NoteCalc

/-- The arithmetic operators. -/
inductive Operator where
  | plus
  | minus
  | times
  | over
  | power
deriving Repr, DecidableEq

/-- The functions that a line can call. -/
inductive NamedFunction where
  /-- The square root of a plain number. -/
  | sqrt
  /-- The running total of the results above the line. -/
  | sumAbove
deriving Repr, DecidableEq

/-- The name of a function. -/
def NamedFunction.name : NamedFunction → String
  | .sqrt => "sqrt"
  | .sumAbove => "sum_above"

/-- The functions. -/
def NamedFunction.all : List NamedFunction := [.sqrt, .sumAbove]

/-- What a token is, with what it carries. -/
inductive Token.Kind where
  /-- A plain number. -/
  | number (amount : Float)
  /-- A number with a unit, or a unit that stands alone and counts one. -/
  | amount (amount : Float) (measure : Measure)
  /-- A reference to the result of another line, with the number as it is written. -/
  | reference (written : Nat)
  | identifier (name : String)
  | call (function : NamedFunction)
  | operator (operator : Operator)
  | assign
  | openParenthesis
  | closeParenthesis
  /-- The conversion keyword `to`. -/
  | to
  /-- The conversion keyword `in`. -/
  | into
  /-- The keyword between a percentage and its base. -/
  | of

/-- A token, the text it was read from, and the place of that text in the line. -/
structure Token where
  kind : Token.Kind
  lexeme : String
  span : Span

namespace Token

/-- Whether a token converts what stands before it. -/
def isConversion (token : Token) : Bool :=
  match token.kind with
  | .to | .into => true
  | _ => false

/-- Whether a token is an arithmetic operator. -/
def isOperator (token : Token) : Bool :=
  match token.kind with
  | .operator _ => true
  | _ => false

/-- Whether a token is a value on its own. -/
def isOperand (token : Token) : Bool :=
  match token.kind with
  | .number _ | .amount .. | .reference _ | .identifier _ => true
  | _ => false

/-- Whether a token calls a function. -/
def isCall (token : Token) : Bool :=
  match token.kind with
  | .call _ => true
  | _ => false

/-- Whether a token is a variable. -/
def isVariable (token : Token) : Bool :=
  match token.kind with
  | .identifier _ => true
  | _ => false

/-- Whether a token assigns. -/
def isAssign (token : Token) : Bool :=
  match token.kind with
  | .assign => true
  | _ => false

/-- Whether a token can stand in a formula only, and never in prose. -/
def isMathematical (token : Token) : Bool :=
  match token.kind with
  | .identifier _ | .assign | .of => false
  | _ => true

/-- The name that a variable token carries. -/
def variableName? (token : Token) : Option String :=
  match token.kind with
  | .identifier name => some name
  | _ => none

/-- The place of the line that a reference refers to, counted from zero.  The number zero, which
no line has, counts as one. -/
def referredPlace (written : Nat) : Nat :=
  written - 1

end Token

end NoteCalc
