import NoteCalc.Number.Binary64

/-!
# The shortest text of a machine number

Among the decimals that read back as a given machine number, the one with the fewest digits is
printed, and of several the nearest to it.  Between `10⁻⁴` and `10¹⁶` the text is positional and
keeps at least one place; outside it has a power of ten with at least two digits and a sign.
-/

namespace NoteCalc

namespace Shortest

/-- A positive decimal `digits · 10 ^ exponent`. -/
structure Decimal where
  digits : Nat
  exponent : Int
deriving Repr, DecidableEq

/-- The reals that read back as one machine number, in quarters of a step: from `lower` to `upper`
around `centre`, with both ends or without. -/
structure Interval where
  lower : Nat
  centre : Nat
  upper : Nat
  closed : Bool

/-- The reals that read back as `significand · 2 ^ exponent` steps.  They reach half-way to the
next machine numbers, of which the lower one is only half as far from a power of two; a tie reads
as the even significand. -/
def interval (significand exponent : Nat) : Interval where
  lower :=
    let below := if significand = Binary64.exponentWeight ∧ 0 < exponent then 1 else 2
    (4 * significand - below) * Nat.pow 2 exponent
  centre := 4 * significand * Nat.pow 2 exponent
  upper := (4 * significand + 2) * Nat.pow 2 exponent
  closed := significand % 2 = 0

/-- How many digits stand before the point of the centre; zero or less for a fraction that starts
with as many zeros. -/
def Interval.places (range : Interval) : Int :=
  (Nat.toDigits 10 (range.centre * Nat.pow 10 400 / (4 * Binary64.stepsPerOne))).length - 400

/-- Multiples of `10 ^ exponent` in an interval that enclose its centre most closely, the nearer
first and of two equally near ones the even one. -/
def Interval.multiples (range : Interval) (exponent : Int) : List Nat :=
  let scale := Nat.pow 10 (-exponent).toNat
  let grid := 4 * Binary64.stepsPerOne * Nat.pow 10 exponent.toNat
  let centre := range.centre * scale
  let near := roundedQuotient centre grid
  let far := if near * grid ≤ centre then near + 1 else near - 1
  let inside (multiple : Nat) : Bool :=
    if range.closed then
      range.lower * scale ≤ multiple * grid && multiple * grid ≤ range.upper * scale
    else range.lower * scale < multiple * grid && multiple * grid < range.upper * scale
  [near, far].filter inside

/-- The decimal with the fewest digits in an interval, and the nearest to the centre among those:
the first of the grids with one, two, … seventeen digits that has a multiple in the interval. -/
def Interval.shortest (range : Interval) : Decimal :=
  let places := range.places
  ((List.range 17).firstM fun count =>
    let exponent := places - (count + 1 : Nat)
    (range.multiples exponent).head?.map fun digits => (⟨digits, exponent⟩ : Decimal)).getD
      ⟨0, 0⟩

/-- Drop the zeros at the end of a decimal's digits. -/
def Decimal.digitTexts (decimal : Decimal) : List Char :=
  ((Nat.toDigits 10 decimal.digits).reverse.dropWhile (· == '0')).reverse

/-- The power of ten of a text in exponent notation: a sign and at least two digits. -/
def exponentText (exponent : Int) : List Char :=
  let digits := Nat.toDigits 10 exponent.natAbs
  (if exponent < 0 then '-' else '+') :: (if digits.length < 2 then '0' :: digits else digits)

/-- The text of a positive decimal whose point stands after `places` digits. -/
def layout (digits : List Char) (places : Int) : List Char :=
  if -4 < places ∧ places ≤ 16 then
    if places ≤ 0 then
      '0' :: '.' :: (List.replicate (-places).toNat '0' ++ digits)
    else
      let before := digits.take places.toNat
      let after := digits.drop places.toNat
      before ++ List.replicate (places.toNat - before.length) '0' ++
        '.' :: (if after.isEmpty then ['0'] else after)
  else
    let after := digits.drop 1
    digits.take 1 ++ (if after.isEmpty then [] else '.' :: after) ++
      'e' :: exponentText (places - 1)

/-- The text of what a machine number stands for. -/
def characters : Binary64 → List Char
  | .finite negative significand exponent =>
      let magnitude :=
        if significand = 0 then "0.0".toList
        else
          let decimal := (interval significand exponent).shortest
          let places := decimal.exponent + (Nat.toDigits 10 decimal.digits).length
          layout decimal.digitTexts places
      if negative then '-' :: magnitude else magnitude
  | .infinity negative => if negative then "-inf".toList else "inf".toList
  | .notANumber => "nan".toList

end Shortest

/-- The shortest text that reads back as a machine number. -/
def shortestText (number : Float) : String :=
  String.ofList (Shortest.characters (Binary64.ofFloat number))

end NoteCalc
