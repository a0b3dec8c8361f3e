import NoteCalc.Proofs.Measure.SymbolReading
import NoteCalc.Proofs.Number.PrintedNumber
import NoteCalc.Quantity.Text

/-!
# Reading results back

Lines hand their results on as text.  Every such text is read, and what is read prints as the same
text, so that a result can be handed on any number of times.  Its measure is kept as well, unless it
counts money in the currency whose symbol names another one.
-/

namespace NoteCalc

open NoteCalc.Text

namespace Quantity

variable {quantity : Quantity Float}

theorem blankSeparated_text_plain (plain : quantity.measure = none) :
    blankSeparated quantity.text.toList = [(formatNumber quantity.amount).toList] := by
  rw [text, plain, Option.elim_none]
  exact blankSeparated_word (formatNumber_ne_nil _) (isBlank_of_mem_formatNumber _)

theorem blankSeparated_text_measured {measure : Measure}
    (measured : quantity.measure = some measure) :
    blankSeparated quantity.text.toList =
      [(formatNumber quantity.amount).toList, measure.symbol.toList] := by
  have split : quantity.text.toList =
      (formatNumber quantity.amount).toList ++ ' ' :: measure.symbol.toList := by
    simp [text, measured, String.toList_append]
  have ends : ∀ character ∈ (' ' :: measure.symbol.toList).head?, isBlank character = true := by
    simp only [List.head?_cons, Option.mem_some_iff, forall_eq']
    decide
  rw [split, blankSeparated_append (formatNumber_ne_nil _) (isBlank_of_mem_formatNumber _) ends,
    blankSeparated_cons_of_isBlank (by decide),
    blankSeparated_word measure.symbol_ne_nil measure.isBlank_of_mem_symbol]

/-- The text of a quantity is read as a quantity whose number is printed alike, and whose measure is
the one that the symbol names. -/
theorem exists_parse?_text (quantity : Quantity Float) :
    ∃ read, parse? quantity.text = some read ∧
      formatNumber read.amount = formatNumber quantity.amount ∧
      read.measure = quantity.measure.map Measure.asPrinted := by
  obtain ⟨amount, isRead, alike⟩ := exists_readNumber?_formatNumber quantity.amount
  cases measured : quantity.measure with
  | none =>
      refine ⟨⟨amount, none⟩, ?_, alike, rfl⟩
      simp only [parse?, blankSeparated_text_plain measured, isRead, Option.map_some]
  | some measure =>
      refine ⟨of amount measure.asPrinted, ?_, alike, rfl⟩
      simp only [parse?, blankSeparated_text_measured measured, isRead, measure.parse?_symbol]

/-- Every text of a quantity is read, and the measure is kept unless it counts yuan: their symbol
names the yen. -/
theorem parse?_text_measure (quantity : Quantity Float) :
    ∃ read, parse? quantity.text = some read ∧
      read.measure = quantity.measure.map Measure.asPrinted ∧
      (read.measure = quantity.measure ↔ quantity.measure.bind Measure.money? ≠ some .cny) := by
  obtain ⟨read, isRead, -, measure⟩ := exists_parse?_text quantity
  refine ⟨read, isRead, measure, ?_⟩
  rw [measure]
  cases quantity.measure with
  | none => simp
  | some measure =>
      rw [Option.map_some, Option.some_inj, Option.bind_some]
      exact measure.asPrinted_eq_self_iff

/-- Five yuan are handed on as five yen. -/
theorem yuan_read_as_yen :
    (of 5 (.single (.currency .cny))).text = "5 ¥" ∧
      ∃ read, parse? (of 5 (.single (.currency .cny))).text = some read ∧
        read.measure = some (.single (.currency .jpy)) ∧
        read.measure ≠ (of (5 : Float) (.single (.currency .cny))).measure := by
  obtain ⟨read, isRead, -, measure⟩ := exists_parse?_text (of 5 (.single (.currency .cny)))
  refine ⟨by decide +kernel, read, isRead, measure, ?_⟩
  rw [measure]
  decide

/-- Every text of a quantity is read, and what is read prints as that text. -/
theorem text_of_parse?_text (quantity : Quantity Float) :
    ∃ read, parse? quantity.text = some read ∧ read.text = quantity.text := by
  obtain ⟨read, isRead, alike, measure⟩ := exists_parse?_text quantity
  refine ⟨read, isRead, ?_⟩
  rw [text, alike, measure, text]
  cases quantity.measure with
  | none => rfl
  | some measure =>
      rw [Option.map_some, Option.elim_some, Option.elim_some, measure.symbol_asPrinted]

end Quantity

end NoteCalc
