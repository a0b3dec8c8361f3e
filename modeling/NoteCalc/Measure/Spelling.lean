import NoteCalc.Measure.Basic
import NoteCalc.Text.Blank
import NoteCalc.Text.Word

/-!
# Spellings of measures

A unit word is looked up in three tables.  Symbols are matched as they are written, because only
the case of a letter tells `Mb`, a megabit, from `MB`, a megabyte; short names of rates and all
other words are matched in small letters.  What is in no table may still be two unit words around
a slash that make a rate.
-/

namespace NoteCalc

open NoteCalc.Text

namespace Spelling

/-- Symbols whose case matters. -/
def symbols : List (String × NamedUnit) :=
  [("B", .byte none)] ++
  Multiple.all.flatMap (fun multiple =>
    [(multiple.symbol ++ "b", .bit (some multiple)),
     (multiple.symbol ++ "B", .byte (some multiple))]) ++
  [("$", .currency .usd), ("€", .currency .eur), ("£", .currency .gbp), ("¥", .currency .jpy),
   ("₹", .currency .inr), ("₩", .currency .krw), ("C$", .currency .cad), ("A$", .currency .aud),
   ("CHF", .currency .chf), ("%", .percent)]

/-- Short names of rates, in small letters. -/
def rateNames : List (String × Rate) :=
  [("bps", ⟨.bit none, .time .second, rfl⟩),
   ("qps", ⟨.query, .time .second, rfl⟩),
   ("qpm", ⟨.query, .time .minute, rfl⟩),
   ("qph", ⟨.query, .time .hour, rfl⟩),
   ("rps", ⟨.request, .time .second, rfl⟩),
   ("rpm", ⟨.request, .time .minute, rfl⟩),
   ("rph", ⟨.request, .time .hour, rfl⟩)] ++
  Multiple.all.map fun multiple =>
    (String.ofList (smallLetters multiple.symbol.toList) ++ "bps",
      ⟨.bit (some multiple), .time .second, rfl⟩)

/-- Names, abbreviations and plurals of the units of time, in small letters. -/
def timeWords : List (TimeUnit × List String) :=
  [(.nanosecond, ["ns", "nanosec", "nanosecond", "nanoseconds"]),
   (.microsecond, ["us", "\u00b5s", "\u03bcs", "microsec", "microsecond", "microseconds"]),
   (.millisecond, ["ms", "millisec", "millisecond", "milliseconds"]),
   (.second, ["s", "sec", "secs", "second", "seconds"]),
   (.minute, ["min", "mins", "minute", "minutes"]),
   (.hour, ["h", "hr", "hrs", "hour", "hours"]),
   (.day, ["day", "days"]),
   (.week, ["week", "weeks", "wk", "wks"]),
   (.month, ["month", "months", "mo", "mos"]),
   (.quarter, ["quarter", "quarters"]),
   (.year, ["year", "years", "yr", "yrs"])]

/-- Names of the currencies, in small letters. -/
def currencyWords : List (Currency × List String) :=
  [(.usd, ["usd", "dollar", "dollars"]),
   (.eur, ["eur", "euro", "euros"]),
   (.gbp, ["gbp", "pound", "pounds", "sterling"]),
   (.jpy, ["jpy", "yen"]),
   (.cny, ["cny", "yuan", "rmb"]),
   (.cad, ["cad", "canadian"]),
   (.aud, ["aud", "australian"]),
   (.chf, ["chf", "franc", "francs"]),
   (.inr, ["inr", "rupee", "rupees"]),
   (.krw, ["krw", "won"])]

/-- The words of one unit, each paired with it. -/
def wordsOf {α : Type} (toUnit : α → NamedUnit) (listed : α × List String) :
    List (String × NamedUnit) :=
  listed.2.map fun word => (word, toUnit listed.1)

/-- All other unit words, in small letters.  The symbol of a multiple of the byte written without
capitals still means bytes. -/
def words : List (String × NamedUnit) :=
  timeWords.flatMap (wordsOf NamedUnit.time) ++
  wordsOf NamedUnit.byte (none, ["b", "byte", "bytes"]) ++
  wordsOf NamedUnit.bit (none, ["bit", "bits"]) ++
  Multiple.all.flatMap (fun multiple =>
    wordsOf NamedUnit.bit (some multiple, [multiple.name ++ "bit", multiple.name ++ "bits"])) ++
  Multiple.all.flatMap (fun multiple =>
    wordsOf NamedUnit.byte
      (some multiple,
        [String.ofList (smallLetters multiple.symbol.toList) ++ "b",
         multiple.name ++ "byte", multiple.name ++ "bytes"])) ++
  ["req", "reqs", "request", "requests"].map (·, NamedUnit.request) ++
  ["query", "queries"].map (·, NamedUnit.query) ++
  currencyWords.flatMap (wordsOf NamedUnit.currency) ++
  ["percent", "percentage"].map (·, NamedUnit.percent)

/-- Every unit word of the tables in ascending order, each once.  Misspelt words are compared with
these. -/
def known : List String :=
  ((symbols.map Prod.fst ++ rateNames.map Prod.fst ++ words.map Prod.fst).mergeSort
    fun left right => decide (left ≤ right)).eraseDups

end Spelling

namespace Measure

/-- The measure that a single unit word names. -/
def ofWord? (word : List Char) : Option Measure :=
  let small := String.ofList (smallLetters word)
  ((Spelling.symbols.lookup (String.ofList word)).map Measure.single).or
    (((Spelling.rateNames.lookup small).map Measure.ratio).or
      ((Spelling.words.lookup small).map Measure.single))

/-- The rate that two unit words around a slash name. -/
def ofWords? (numerator denominator : List Char) : Option Measure :=
  match ofWord? numerator, ofWord? denominator with
  | some numerator, some denominator => (per? numerator denominator).map Measure.ratio
  | _, _ => none

/-- The measure that a text names: a unit word, or two unit words around a slash, with blanks
anywhere around the words. -/
def parse? (text : List Char) : Option Measure :=
  let trimmed := trimBlanks text
  (ofWord? trimmed).or <|
    match trimmed.dropWhile (· != '/') with
    | [] => none
    | _ :: denominator =>
        ofWords? (trimBlanks (trimmed.takeWhile (· != '/'))) (trimBlanks denominator)

end Measure

end NoteCalc
