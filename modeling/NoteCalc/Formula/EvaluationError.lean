import NoteCalc.Line.Token
import NoteCalc.Measure.UnitError

/-!
# Failures of evaluation

A failure leaves the line without a result; it is kept so that a display can say why there is
none.
-/

namespace NoteCalc

/-- Why some tokens have no value. -/
inductive EvaluationError where
  /-- A reference to the line itself, which is given, or to a later one. -/
  | forwardReference (token : Token) (line : Int)
  /-- A reference to a line that has no result, or none that can be read. -/
  | missingResult (token : Token)
  /-- A name that is not bound, with the bound names that are similar. -/
  | undefinedVariable (token : Token) (name : String) (similar : List String)
  /-- A name whose value cannot be read. -/
  | unreadableVariable (token : Token) (name : String)
  /-- A token that stands in the place of a value without being one. -/
  | notAValue (token : Token)
  | unmatchedClose (token : Token)
  | unclosedOpen (token : Token)
  /-- A minus that negates nothing. -/
  | nothingToNegate (token : Token)
  | missingOperand (token : Token)
  /-- No value remains at the end, or more than one. -/
  | severalValues (count : Nat)
  /-- A square root of nothing. -/
  | missingArgument
  /-- A square root of something other than a plain number. -/
  | measuredArgument (text : String)
  | negativeArgument
  | noExpression
  /-- Two measured values that cannot be combined. -/
  | unit (error : UnitError)

namespace EvaluationError

/-- A diagnostic for an ill-formed expression. -/
def malformed (message : String) (token : Option Token) : Diagnostic where
  severity := .error
  code := "E004"
  message := message
  span := token.map Token.span

/-- A diagnostic for an argument that the square root does not take. -/
def refusedArgument (reason : String) : Diagnostic where
  severity := .error
  code := "E005"
  message := "Invalid argument to sqrt(): " ++ reason

/-- Which lines can be referred to from a line. -/
def referenceHelp (line : Int) : String :=
  if 0 < line then
    "Line " ++ toString (line + 1) ++ " can only use line1 to line" ++ toString line ++ "."
  else "The first line cannot reference other lines."

/-- The explanation of a failure. -/
def diagnostic : EvaluationError → Diagnostic
  | .forwardReference token line =>
      ⟨.error, "E001", "'" ++ token.lexeme ++ "' does not refer to an earlier line",
        some token.span, some (referenceHelp line), []⟩
  | .missingResult token =>
      ⟨.error, "E002", "'" ++ token.lexeme ++ "' has no result to use", some token.span, none, []⟩
  | .undefinedVariable token name similar =>
      ⟨.error, "E003", "Undefined variable '" ++ name ++ "'", some token.span,
        some ("Assign it first, e.g. '" ++ name ++ " = 42'."), similar⟩
  | .unreadableVariable token name =>
      malformed ("Variable '" ++ name ++ "' holds an unreadable value") token
  | .notAValue token => malformed ("'" ++ token.lexeme ++ "' is not a value") token
  | .unmatchedClose token => malformed "Unmatched ')'" token
  | .unclosedOpen token => malformed "Unclosed '('" token
  | .nothingToNegate token => malformed "Nothing to negate" token
  | .missingOperand token =>
      malformed ("Operator '" ++ token.lexeme ++ "' is missing an operand") token
  | .severalValues count =>
      malformed ("Expression reduced to " ++ toString count ++ " values instead of one") none
  | .missingArgument => malformed "sqrt() needs an argument" none
  | .measuredArgument text => refusedArgument ("'" ++ text ++ "' has a unit")
  | .negativeArgument => refusedArgument "negative value"
  | .noExpression => ⟨.error, "E006", "No expression could be evaluated", none, none, []⟩
  | .unit error => error.diagnostic

end EvaluationError

end NoteCalc
