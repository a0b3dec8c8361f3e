import NoteCalc.Diagnostic
import NoteCalc.Measure.Basic
import NoteCalc.Number.Power
import NoteCalc.Number.Shortest

/-!
# Failures of unit arithmetic

Each way in which an operation on measured amounts can fail is a cause of its own, with the
measures that clashed.  The codes and wordings are in one place.
-/

namespace NoteCalc

/-- Why an operation on measured amounts has no value.  A measure that is missing belongs to a
plain number. -/
inductive UnitError where
  /-- The two measures do not make a rate. -/
  | notARate (numerator denominator : Option Measure)
  /-- The two measures cannot be added. -/
  | noSum (left right : Option Measure)
  /-- The two measures cannot be subtracted. -/
  | noDifference (left right : Option Measure)
  /-- The two measures have no product. -/
  | noProduct (left right : Option Measure)
  /-- The two measures have no quotient. -/
  | noQuotient (left right : Option Measure)
  /-- The divisor is zero, or as good as zero. -/
  | divisionByZero
  /-- The divisor is not negligible as written but zero once it is expressed in bases. -/
  | vanishingDivisor
  /-- Something other than a plain number takes part in a power. -/
  | measuredPower (base exponent : Option Measure)
  /-- No amount of the source can be expressed in the target. -/
  | inconvertible (source : Option Measure) (target : Measure)
  /-- The power of two plain numbers has no value. -/
  | uncomputablePower (base exponent : Float) (fault : PowerFault)

namespace UnitError

/-- The name of a measure in a message. -/
def describe (measure : Option Measure) : String :=
  measure.elim "a number" Measure.symbol

/-- The name of a measure as a part of a rate. -/
def part (measure : Option Measure) : String :=
  measure.elim "None" Measure.symbol

/-- The code of a failure. -/
def code : UnitError → String
  | .notARate .. => "U001"
  | .noSum .. | .noDifference .. => "U002"
  | .noProduct .. => "U003"
  | .noQuotient .. => "U004"
  | .divisionByZero | .vanishingDivisor => "U005"
  | .measuredPower .. => "U006"
  | .inconvertible .. => "U007"
  | .uncomputablePower .. => "U008"

/-- The message of a failure. -/
def message : UnitError → String
  | .notARate numerator denominator =>
      "'" ++ part numerator ++ "/" ++ part denominator ++ "' is not a valid rate"
  | .noSum left right => "Cannot apply '+' to " ++ describe left ++ " and " ++ describe right
  | .noDifference left right =>
      "Cannot apply '-' to " ++ describe left ++ " and " ++ describe right
  | .noProduct left right => "No unit rule for " ++ describe left ++ " * " ++ describe right
  | .noQuotient left right => "No unit rule for " ++ describe left ++ " / " ++ describe right
  | .divisionByZero | .vanishingDivisor => "Division by zero"
  | .measuredPower base exponent =>
      "Cannot raise " ++ describe base ++ " to " ++ describe exponent
  | .inconvertible source target =>
      "Cannot convert " ++ describe source ++ " to " ++ target.symbol
  | .uncomputablePower base exponent fault =>
      "Cannot compute " ++ shortestText base ++ " ^ " ++ shortestText exponent ++ ": " ++
        fault.message

/-- What to do about a failure, where there is advice to give. -/
def help : UnitError → Option String
  | .notARate .. => some "Rates need a time denominator, or a currency over a data unit."
  | .noSum .. | .noDifference .. =>
      some "Both sides must share a unit family (and base system for data rates)."
  | .measuredPower .. => some "Only plain numbers can be raised to a power."
  | _ => none

/-- The explanation of a failure. -/
def diagnostic (error : UnitError) : Diagnostic where
  severity := .error
  code := error.code
  message := error.message
  help := error.help

end UnitError

namespace Measure

/-- The rate of one measure per another, both of which have to be there. -/
def per (numerator denominator : Option Measure) : Except UnitError Rate :=
  let rate? := numerator.bind fun numerator => denominator.bind (per? numerator)
  match rate? with
  | some rate => .ok rate
  | none => .error (.notARate numerator denominator)

end Measure

end NoteCalc
