import NoteCalc.Measure.Spelling
import NoteCalc.Number.Grouped
import NoteCalc.Number.Reading
import NoteCalc.Quantity.Basic

/-!
# The text of a quantity

Results are kept as text between lines: a number, and the symbol of its measure after a space.
Reading such a text back takes the commas out of the number and looks the measure up.
-/

namespace NoteCalc

open NoteCalc.Text

namespace Quantity

/-- The text of a quantity. -/
def text (quantity : Quantity Float) : String :=
  quantity.measure.elim (formatNumber quantity.amount) fun measure =>
    formatNumber quantity.amount ++ " " ++ measure.symbol

/-- Read a quantity: a number, and possibly a word for its measure after blanks. -/
def parse? (text : String) : Option (Quantity Float) :=
  let number? (word : List Char) : Option Float := readNumber? (word.filter (· != ','))
  match blankSeparated text.toList with
  | [number] => (number? number).map fun amount => ⟨amount, none⟩
  | [number, word] =>
      match number? number, Measure.parse? word with
      | some amount, some measure => some (of amount measure)
      | _, _ => none
  | _ => none

end Quantity

end NoteCalc
