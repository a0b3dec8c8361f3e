/-!
# Powers

A power of two finite numbers can fail in two ways: it has no real value, as the square root of a
negative number or a negative power of zero, or its value exceeds every machine number.  Powers
that involve an infinity or a number that is not one never fail.
-/

namespace NoteCalc

/-- Why a power has no value. -/
inductive PowerFault where
  /-- The power is not a real number. -/
  | undefined
  /-- The power exceeds every machine number. -/
  | tooLarge
deriving Repr, DecidableEq

namespace PowerFault

/-- The words that name the reason. -/
def message : PowerFault → String
  | .undefined => "math domain error"
  | .tooLarge => "math range error"

end PowerFault

/-- A power of machine numbers, or the reason why it has no value. -/
def power (base exponent : Float) : Except PowerFault Float :=
  let result := Float.pow base exponent
  if result.isFinite || !(base.isFinite && exponent.isFinite) then .ok result
  else if result.isNaN || base == 0 then .error .undefined
  else .error .tooLarge

end NoteCalc
