import NoteCalc.Measure.UnitError
import NoteCalc.Quantity.Basic

/-!
# Conversion

A quantity is expressed in another measure by way of the bases of their families.  Rates of one
numerator only have their period rescaled, bits and bytes are bridged by a factor of eight, and a
plain number can only become a percentage.  Money never changes its currency.
-/

namespace NoteCalc

namespace Measure

/-- Whether two measures of one kind convert to each other: a currency only to itself, and a rate
only to one whose denominator is of the same family and whose money, if it has money, is the
same. -/
def sameShape : Measure → Measure → Bool
  | .single source, .single target => source.family != .currency || source == target
  | .ratio source, .ratio target =>
      (source.numerator.family != .currency || source.numerator == target.numerator) &&
        source.denominator.family == target.denominator.family
  | _, _ => true

/-- Whether two measures differ in that one counts bits and the other bytes. -/
def bridgesBitsAndBytes (source target : Measure) : Bool :=
  match source.kind, target.kind with
  | .bit, .data | .data, .bit | .bitRate, .dataRate | .dataRate, .bitRate => true
  | _, _ => false

/-- Whether bits, rather than bytes, are the base of a measure. -/
def countsBits (measure : Measure) : Bool :=
  measure.kind == .bit || measure.kind == .bitRate

end Measure

/-- How many bits a byte has. -/
def bitsPerByte {α : Type} [Scalar α] : α :=
  Scalar.ofNat 8

namespace Quantity

variable {α : Type} [Scalar α]

/-- Express an amount by way of the bases of two measures, and refuse measures that do not share
their bases. -/
def convertByBase (amount : α) (source target : Measure) : Except UnitError (Quantity α) :=
  if source.kind = target.kind ∧ source.sameShape target = true then
    .ok (of (target.fromBase (source.toBase amount)) target)
  else if source.bridgesBitsAndBytes target then
    let base := source.toBase amount
    let bridged := if source.countsBits then base / bitsPerByte else base * bitsPerByte
    .ok (of (target.fromBase bridged) target)
  else .error (.inconvertible (some source) target)

/-- Express an amount of one rate in another.  Rates of one numerator differ in their periods
only; money of two currencies cannot be converted. -/
def convertRate (amount : α) (source target : Rate) : Except UnitError (Quantity α) :=
  if source.numerator = target.numerator then
    if source.denominator.family = target.denominator.family then
      .ok (of (amount * target.period / source.period) (.ratio target))
    else .error (.inconvertible (some (.ratio source)) (.ratio target))
  else if source.numerator.family = .currency ∧ target.numerator.family = .currency then
    .error (.inconvertible (some (.ratio source)) (.ratio target))
  else convertByBase amount (.ratio source) (.ratio target)

/-- Express a quantity in a measure. -/
def convert (quantity : Quantity α) (target : Measure) : Except UnitError (Quantity α) :=
  match quantity.measure, target with
  | none, _ =>
      if target.kind = .percentage then .ok (of (target.fromBase quantity.amount) target)
      else .error (.inconvertible none target)
  | some (.ratio source), .ratio target => convertRate quantity.amount source target
  | some source, _ => convertByBase quantity.amount source target

end Quantity

end NoteCalc
