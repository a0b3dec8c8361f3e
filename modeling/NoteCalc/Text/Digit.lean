import NoteCalc.Text.CodeRange

/-!
# Digits of every script

Two classes have to be told apart.  A *decimal digit* belongs to a run of ten that stand for zero
to nine in a positional numeral of its script.  A *digit sign* is any character that shows a digit,
so it is a decimal digit or a superscript, a subscript, a circled digit and the like, and those
others never form part of a numeral.
-/

namespace NoteCalc.Text

/-- The zeros of the scripts with positional numerals; the digits one to nine follow each. -/
def decimalZeros : List Nat :=
  [0x0030, 0x0660, 0x06f0, 0x07c0, 0x0966, 0x09e6, 0x0a66, 0x0ae6, 0x0b66, 0x0be6,
   0x0c66, 0x0ce6, 0x0d66, 0x0de6, 0x0e50, 0x0ed0, 0x0f20, 0x1040, 0x1090, 0x17e0,
   0x1810, 0x1946, 0x19d0, 0x1a80, 0x1a90, 0x1b50, 0x1bb0, 0x1c40, 0x1c50, 0xa620,
   0xa8d0, 0xa900, 0xa9d0, 0xa9f0, 0xaa50, 0xabf0, 0xff10, 0x104a0, 0x10d30, 0x11066,
   0x110f0, 0x11136, 0x111d0, 0x112f0, 0x11450, 0x114d0, 0x11650, 0x116c0, 0x11730, 0x118e0,
   0x11950, 0x11c50, 0x11d50, 0x11da0, 0x16a60, 0x16ac0, 0x16b50, 0x1d7ce, 0x1d7d8, 0x1d7e2,
   0x1d7ec, 0x1d7f6, 0x1e140, 0x1e2f0, 0x1e950, 0x1fbf0]

/-- Ascending ranges of the digit signs that are not decimal digits. -/
def ornamentalDigitRanges : List CodeRange :=
  [(0x00b2, 0x00b3), (0x00b9, 0x00b9), (0x1369, 0x1371), (0x19da, 0x19da), (0x2070, 0x2070),
   (0x2074, 0x2079), (0x2080, 0x2089), (0x2460, 0x2468), (0x2474, 0x247c), (0x2488, 0x2490),
   (0x24ea, 0x24ea), (0x24f5, 0x24fd), (0x24ff, 0x24ff), (0x2776, 0x277e), (0x2780, 0x2788),
   (0x278a, 0x2792), (0x10a40, 0x10a43), (0x10e60, 0x10e68), (0x11052, 0x1105a), (0x1f100, 0x1f10a)]

/-- The value of a decimal digit of any script. -/
def digitValue? (character : Char) : Option Nat :=
  (decimalZeros.find? fun origin =>
    decide (origin ≤ character.toNat) && decide (character.toNat ≤ origin + 9)).map
      (character.toNat - ·)

/-- Whether a character is a decimal digit of some script. -/
def isDecimal (character : Char) : Bool :=
  (digitValue? character).isSome

/-- Whether a character shows a digit, be it part of a positional numeral or not. -/
def isDigitSign (character : Char) : Bool :=
  isDecimal character || CodeRange.covers ornamentalDigitRanges character.toNat

/-- The number that a run of decimal digits denotes; a character of another class adds nothing but
its place. -/
def decimalValue (digits : List Char) : Nat :=
  digits.foldl (fun total digit => 10 * total + (digitValue? digit).getD 0) 0

/-- A decimal digit stands for a number below ten. -/
theorem digitValue?_lt_ten {character : Char} {value : Nat}
    (known : digitValue? character = some value) : value < 10 := by
  unfold digitValue? at known
  obtain ⟨origin, found, rfl⟩ := Option.map_eq_some_iff.mp known
  have bounds := List.find?_some found
  simp only [Bool.and_eq_true, decide_eq_true_eq] at bounds
  omega

/-- Every decimal digit is a digit sign. -/
theorem isDigitSign_of_isDecimal {character : Char} (decimal : isDecimal character = true) :
    isDigitSign character = true := by
  simp [isDigitSign, decimal]

example : digitValue? '7' = some 7 ∧ digitValue? '٣' = some 3 ∧ digitValue? '５' = some 5 := by
  decide +kernel

example : digitValue? '²' = none ∧ isDigitSign '²' = true ∧ isDigitSign '½' = false := by
  decide +kernel

end NoteCalc.Text
