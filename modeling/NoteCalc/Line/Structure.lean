import NoteCalc.Line.Scan

/-!
# The structure of a line

Before the tokens of a line are evaluated, the line has to have some, its parentheses have to
balance, and no operator but the minus may stand right after another one.  The first of these
three conditions that fails is reported.
-/

namespace NoteCalc

namespace Token

/-- The first closing parenthesis that closes nothing, when `depth` parentheses are open, or the
number of parentheses that are never closed. -/
def parenthesisBalance : (depth : Nat) → List Token → Except Span Nat
  | depth, [] => .ok depth
  | depth, token :: tokens =>
      match token.kind with
      | .openParenthesis => parenthesisBalance (depth + 1) tokens
      | .closeParenthesis =>
          match depth with
          | 0 => .error token.span
          | depth + 1 => parenthesisBalance depth tokens
      | _ => parenthesisBalance depth tokens

/-- Whether the second of two neighbours is an operator that cannot follow the first. -/
def isDoubledOperator (first second : Token) : Bool :=
  match second.kind with
  | .operator .minus => false
  | .operator _ => first.isOperator
  | _ => false

/-- The error for the first pair of neighbours of which the second is an operator that cannot
follow the first. -/
def doubledOperator? : List Token → Option LineError
  | first :: second :: tokens =>
      if isDoubledOperator first second then
        some (.doubledOperator first.lexeme second.lexeme second.span)
      else doubledOperator? (second :: tokens)
  | _ => none

/-- Why the tokens of a line cannot be evaluated, if they cannot. -/
def structureError? (tokens : List Token) : Option LineError :=
  if tokens.isEmpty then some .nothingToEvaluate
  else
    match parenthesisBalance 0 tokens with
    | .error span => some (.unmatchedClose span)
    | .ok (_ + 1) => some .unclosedOpen
    | .ok 0 => doubledOperator? tokens

end Token

namespace Scan

/-- Why a scanned line is refused, if it is. -/
def error? (scan : Scan) : Option LineError :=
  Token.structureError? scan.tokens

/-- The explanations for a scanned line: why it is refused, and the warnings. -/
def diagnostics (scan : Scan) : List Diagnostic :=
  (scan.error?.map LineError.diagnostic).toList ++ scan.warnings.map LineWarning.diagnostic

end Scan

/-- The tokens of a line, or nothing if the line is refused. -/
def tokens? (line : String) : Except UnreadableDigit (Option (List Token)) :=
  (scan line).map fun scan => if scan.error?.isSome then none else some scan.tokens

end NoteCalc
