import NoteCalc.Number.Scalar

/-!
# Named units

The table of units is closed, so a unit is a value of a finite type.  Each unit belongs to one
family and converts to the base of its family: seconds, bits, bytes, requests, the plain fraction
that a percentage stands for, and, for money, the amount in its own currency.
-/

namespace NoteCalc

/-- Groups of units that share one base. -/
inductive Family where
  | time
  | bit
  | data
  | request
  | currency
  | percent
deriving Repr, DecidableEq

/-- The units of time. -/
inductive TimeUnit where
  | nanosecond
  | microsecond
  | millisecond
  | second
  | minute
  | hour
  | day
  | week
  | month
  | quarter
  | year
deriving Repr, DecidableEq

/-- The currencies. -/
inductive Currency where
  | usd
  | eur
  | gbp
  | jpy
  | cny
  | cad
  | aud
  | chf
  | inr
  | krw
deriving Repr, DecidableEq

/-- How many times a multiple of the bit or the byte has been scaled up. -/
inductive Magnitude where
  | kilo
  | mega
  | giga
  | tera
  | peta
  | exa
deriving Repr, DecidableEq

/-- What one step of scaling multiplies by. -/
inductive Radix where
  /-- A thousand. -/
  | decimal
  /-- Two to the power ten. -/
  | binary
deriving Repr, DecidableEq

/-- A multiple of the bit or the byte. -/
structure Multiple where
  radix : Radix
  magnitude : Magnitude
deriving Repr, DecidableEq

/-- A unit with a name of its own. -/
inductive NamedUnit where
  | time (unit : TimeUnit)
  | bit (multiple : Option Multiple)
  | byte (multiple : Option Multiple)
  | request
  | query
  | percent
  | currency (money : Currency)
deriving Repr, DecidableEq

namespace Magnitude

/-- All magnitudes, the least first. -/
def all : List Magnitude := [.kilo, .mega, .giga, .tera, .peta, .exa]

/-- The number of steps of scaling. -/
def steps : Magnitude → Nat
  | .kilo => 1
  | .mega => 2
  | .giga => 3
  | .tera => 4
  | .peta => 5
  | .exa => 6

/-- The letter that stands for the magnitude in a symbol. -/
def letter : Magnitude → String
  | .kilo => "K"
  | .mega => "M"
  | .giga => "G"
  | .tera => "T"
  | .peta => "P"
  | .exa => "E"

/-- The word that stands for the magnitude in a name. -/
def word : Radix → Magnitude → String
  | .decimal, .kilo => "kilo"
  | .decimal, .mega => "mega"
  | .decimal, .giga => "giga"
  | .decimal, .tera => "tera"
  | .decimal, .peta => "peta"
  | .decimal, .exa => "exa"
  | .binary, .kilo => "kibi"
  | .binary, .mega => "mebi"
  | .binary, .giga => "gibi"
  | .binary, .tera => "tebi"
  | .binary, .peta => "pebi"
  | .binary, .exa => "exbi"

end Magnitude

namespace Multiple

/-- All multiples. -/
def all : List Multiple :=
  Magnitude.all.flatMap fun magnitude => [⟨.decimal, magnitude⟩, ⟨.binary, magnitude⟩]

/-- How many bits or bytes the multiple holds. -/
def size (multiple : Multiple) : Nat :=
  match multiple.radix with
  | .decimal => Nat.pow 1000 multiple.magnitude.steps
  | .binary => Nat.pow 1024 multiple.magnitude.steps

/-- The opening of the symbol of a multiple. -/
def symbol (multiple : Multiple) : String :=
  match multiple.radix with
  | .decimal => multiple.magnitude.letter
  | .binary => multiple.magnitude.letter ++ "i"

/-- The opening of the name of a multiple. -/
def name (multiple : Multiple) : String :=
  multiple.magnitude.word multiple.radix

end Multiple

namespace TimeUnit

/-- The full name. -/
def name : TimeUnit → String
  | .nanosecond => "nanosecond"
  | .microsecond => "microsecond"
  | .millisecond => "millisecond"
  | .second => "second"
  | .minute => "minute"
  | .hour => "hour"
  | .day => "day"
  | .week => "week"
  | .month => "month"
  | .quarter => "quarter"
  | .year => "year"

/-- The symbol that results are printed with. -/
def symbol : TimeUnit → String
  | .nanosecond => "ns"
  | .microsecond => "us"
  | .millisecond => "ms"
  | .second => "s"
  | .minute => "min"
  | .hour => "h"
  | .day => "day"
  | .week => "week"
  | .month => "month"
  | .quarter => "quarter"
  | .year => "year"

/-- Whether a second holds several of the unit. -/
def dividesSecond : TimeUnit → Bool
  | .nanosecond | .microsecond | .millisecond => true
  | _ => false

/-- The seconds in the unit, or the number of the unit in a second for one that divides it.  A
year has 365.25 days and a month a twelfth of them. -/
def factor : TimeUnit → Nat
  | .nanosecond => 1000000000
  | .microsecond => 1000000
  | .millisecond => 1000
  | .second => 1
  | .minute => 60
  | .hour => 3600
  | .day => 86400
  | .week => 604800
  | .month => 2629746
  | .quarter => 7889238
  | .year => 31557600

end TimeUnit

namespace Currency

/-- The international code. -/
def code : Currency → String
  | .usd => "USD"
  | .eur => "EUR"
  | .gbp => "GBP"
  | .jpy => "JPY"
  | .cny => "CNY"
  | .cad => "CAD"
  | .aud => "AUD"
  | .chf => "CHF"
  | .inr => "INR"
  | .krw => "KRW"

/-- The symbol that amounts are printed with.  Two currencies share one. -/
def symbol : Currency → String
  | .usd => "$"
  | .eur => "€"
  | .gbp => "£"
  | .jpy => "¥"
  | .cny => "¥"
  | .cad => "C$"
  | .aud => "A$"
  | .chf => "CHF"
  | .inr => "₹"
  | .krw => "₩"

end Currency

namespace NamedUnit

/-- The family of a unit. -/
def family : NamedUnit → Family
  | .time _ => .time
  | .bit _ => .bit
  | .byte _ => .data
  | .request | .query => .request
  | .percent => .percent
  | .currency _ => .currency

/-- The full name of a unit, or the code of a currency. -/
def name : NamedUnit → String
  | .time unit => unit.name
  | .bit multiple => multiple.elim "bit" fun multiple => multiple.name ++ "bit"
  | .byte multiple => multiple.elim "byte" fun multiple => multiple.name ++ "byte"
  | .request => "request"
  | .query => "query"
  | .percent => "percent"
  | .currency money => money.code

/-- The symbol that results are printed with. -/
def symbol : NamedUnit → String
  | .time unit => unit.symbol
  | .bit multiple => multiple.elim "bit" fun multiple => multiple.symbol ++ "b"
  | .byte multiple => multiple.elim "B" fun multiple => multiple.symbol ++ "B"
  | .request => "req"
  | .query => "query"
  | .percent => "%"
  | .currency money => money.symbol

/-- Whether the base of the family holds several of the unit.  The factor of such a unit is a
divisor, so that no rounded fraction such as a thousandth enters a conversion. -/
def dividesBase : NamedUnit → Bool
  | .time unit => unit.dividesSecond
  | .percent => true
  | _ => false

/-- How many of the base make up the unit, or the other way round for a unit that divides its
base. -/
def factor : NamedUnit → Nat
  | .time unit => unit.factor
  | .bit multiple | .byte multiple => multiple.elim 1 Multiple.size
  | .percent => 100
  | .request | .query | .currency _ => 1

/-- Whether the unit is a multiple by powers of 1024. -/
def isBinary : NamedUnit → Bool
  | .bit (some multiple) | .byte (some multiple) => multiple.radix == .binary
  | _ => false

/-- Express an amount of the unit in the base of its family. -/
def toBase {α : Type} [Scalar α] (unit : NamedUnit) (amount : α) : α :=
  if unit.dividesBase then amount / Scalar.ofNat unit.factor
  else amount * Scalar.ofNat unit.factor

/-- Express an amount of the base in the unit. -/
def fromBase {α : Type} [Scalar α] (unit : NamedUnit) (amount : α) : α :=
  if unit.dividesBase then amount * Scalar.ofNat unit.factor
  else amount / Scalar.ofNat unit.factor

/-- The factor of a unit is never zero. -/
theorem factor_pos (unit : NamedUnit) : 0 < unit.factor := by
  have size_pos (multiple : Multiple) : 0 < multiple.size := by
    unfold Multiple.size
    split <;> exact Nat.pow_pos (by decide)
  rcases unit with unit | multiple | multiple | _ | _ | _ | currency
  · cases unit <;> decide
  · cases multiple <;> simp [factor, size_pos]
  · cases multiple <;> simp [factor, size_pos]
  all_goals simp [factor]

end NamedUnit

end NoteCalc
