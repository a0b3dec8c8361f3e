import NoteCalc.Number.Binary64

/-!
# Printing results

A whole number that is not too large is printed in full, and what is less than the machine epsilon
as zero.  Every other result is rounded to three decimal places, a tie on its exact value going to
the even last place.  Commas group the digits before the point in threes, zeros at the end of the
places are dropped together with a point that ends the text, and a minus stands before every result
but zero.
-/

namespace NoteCalc

namespace Grouped

/-- Put a comma after every third digit, as long as more digits follow. -/
def commaAfterThree : List Char → List Char
  | first :: second :: third :: fourth :: rest =>
      first :: second :: third :: ',' :: commaAfterThree (fourth :: rest)
  | few => few

/-- The digits of a whole number in groups of three, counted from the right. -/
def whole (number : Nat) : List Char :=
  (commaAfterThree (Nat.toDigits 10 number).reverse).reverse

/-- A point and the given number of thousandths, without zeros at the end; nothing at all for
zero. -/
def places (thousandths : Nat) : List Char :=
  let digit (unit : Nat) := Nat.digitChar (thousandths / unit % 10)
  if thousandths % 1000 = 0 then []
  else if thousandths % 100 = 0 then ['.', digit 100]
  else if thousandths % 10 = 0 then ['.', digit 100, digit 10]
  else ['.', digit 100, digit 10, digit 1]

/-- The text of a number of thousandths. -/
def thousandths (negative : Bool) (count : Nat) : List Char :=
  let magnitude := whole (count / 1000) ++ places (count % 1000)
  if negative && count != 0 then '-' :: magnitude else magnitude

/-- From here on whole numbers are rounded to thousandths like all others. -/
def wholeLimit : Nat := Nat.pow 10 15

/-- The number of steps in the machine epsilon. -/
def epsilonSteps : Nat := Nat.pow 2 1022

/-- The text of a whole number. -/
def signedWhole (negative : Bool) (number : Nat) : List Char :=
  if negative && number != 0 then '-' :: whole number else whole number

/-- The text of a number of steps. -/
def finite (negative : Bool) (steps : Nat) : List Char :=
  if steps % Binary64.stepsPerOne = 0 ∧ steps < wholeLimit * Binary64.stepsPerOne then
    signedWhole negative (steps / Binary64.stepsPerOne)
  else if steps < epsilonSteps then ['0']
  else thousandths negative (roundedQuotient (steps * 1000) Binary64.stepsPerOne)

/-- The text of what a machine number stands for. -/
def characters : Binary64 → List Char
  | .finite negative significand exponent => finite negative (significand * Nat.pow 2 exponent)
  | .infinity negative => if negative then "-inf".toList else "inf".toList
  | .notANumber => "nan".toList

end Grouped

/-- The text of a result. -/
def formatNumber (number : Float) : String :=
  String.ofList (Grouped.characters (Binary64.ofFloat number))

example : Grouped.thousandths true 1234567890 = "-1,234,567.89".toList := by decide

example : Grouped.thousandths true 0 = ['0'] ∧ Grouped.thousandths false 50 = "0.05".toList := by
  decide

end NoteCalc
