import NoteCalc.Formula.Bindings
import NoteCalc.Formula.EvaluationError
import NoteCalc.Quantity.Arithmetic
import NoteCalc.Quantity.Text
import NoteCalc.Text.EditDistance

/-!
# The surroundings of a line

Besides its own tokens a line can observe three things: the variables bound above it, the results
of the lines above it through references, and their running total.
-/

namespace NoteCalc

open NoteCalc.Text

/-- What a line can observe of the notebook. -/
structure Surroundings where
  /-- The variables bound above the line, or nothing if names are prose. -/
  bindings : Option Bindings
  /-- The results of all lines, as far as they have one. -/
  results : List (Option String) := []
  /-- The place of the line, counted from zero. -/
  line : Int := 0

namespace Surroundings

/-- The results above the line.  A negative place counts from the end of the notebook. -/
def above (surroundings : Surroundings) : List (Option String) :=
  let place :=
    if 0 ≤ surroundings.line then surroundings.line
    else surroundings.results.length + surroundings.line
  surroundings.results.take place.toNat

/-- Whether a name is bound. -/
def binds (surroundings : Surroundings) (name : String) : Bool :=
  surroundings.bindings.any fun bindings => bindings.binds name

/-- The failure to find a name among the variables. -/
def undefined (surroundings : Surroundings) (token : Token) (name : String) : EvaluationError :=
  let names := surroundings.bindings.elim [] Bindings.names
  .undefinedVariable token name (suggestions name names 2)

/-- The value of a variable. -/
def valueOf (surroundings : Surroundings) (token : Token) (name : String) :
    Except EvaluationError (Quantity Float) :=
  match surroundings.bindings.bind fun bindings => bindings.lookup name with
  | none => .error (surroundings.undefined token name)
  | some text =>
      match Quantity.parse? text with
      | some value => .ok value
      | none => .error (.unreadableVariable token name)

/-- The result of the line at a place, which has to be above this one. -/
def resultOf (surroundings : Surroundings) (token : Token) (place : Nat) :
    Except EvaluationError (Quantity Float) :=
  if surroundings.line ≤ place then .error (.forwardReference token surroundings.line)
  else
    match (surroundings.results[place]?.join).bind Quantity.parse? with
    | some value => .ok value
    | none => .error (.missingResult token)

/-- The running total of the results above the line, from a plain zero on.  A result that cannot
be added to the total so far is left out. -/
def total (surroundings : Surroundings) : Quantity Float :=
  ((surroundings.above.filterMap id).filterMap Quantity.parse?).foldl
    (fun total result => (total.accumulate? result).getD total) ⟨0, none⟩

/-- The value of a token that is a value on its own. -/
def operand (surroundings : Surroundings) (token : Token) :
    Except EvaluationError (Quantity Float) :=
  match token.kind with
  | .number amount => .ok ⟨amount, none⟩
  | .amount amount measure => .ok (.of amount measure)
  | .reference written => surroundings.resultOf token (Token.referredPlace written)
  | .identifier name => surroundings.valueOf token name
  | _ => .error (.notAValue token)

end Surroundings

end NoteCalc
