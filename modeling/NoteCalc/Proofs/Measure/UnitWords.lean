import NoteCalc.Measure.Spelling
import NoteCalc.Proofs.Text.BlankSeparation

/-!
# Unit words

The units are finitely many, and so are the unit words, so that what holds of all of them can be
decided.  Each symbol is the word of one unit.  This is the unit that prints it, except that two
currencies share a symbol.
-/

namespace NoteCalc

open NoteCalc.Text

namespace Multiple

theorem mem_all (multiple : Multiple) : multiple ∈ all := by
  rcases multiple with ⟨radix, magnitude⟩
  cases radix <;> cases magnitude <;> decide

instance decidableForall (holds : Multiple → Prop) [DecidablePred holds] :
    Decidable (∀ multiple, holds multiple) :=
  decidable_of_iff (∀ multiple ∈ all, holds multiple)
    ⟨fun listed multiple => listed multiple multiple.mem_all,
      fun always multiple _ => always multiple⟩

end Multiple

namespace NamedUnit

/-- All units: those with words of their own, and the multiples of the bit and the byte. -/
def all : List NamedUnit :=
  Spelling.timeWords.map (fun listed => .time listed.1) ++
  (none :: Multiple.all.map some).flatMap (fun multiple => [.bit multiple, .byte multiple]) ++
  [.request, .query, .percent] ++
  Spelling.currencyWords.map fun listed => .currency listed.1

theorem mem_all (unit : NamedUnit) : unit ∈ all := by
  have ofMultiple : ∀ multiple : Multiple,
      .bit (some multiple) ∈ all ∧ .byte (some multiple) ∈ all := by decide
  rcases unit with unit | multiple | multiple | _ | _ | _ | money
  · cases unit <;> decide
  · cases multiple with
    | none => decide
    | some multiple => exact (ofMultiple multiple).1
  · cases multiple with
    | none => decide
    | some multiple => exact (ofMultiple multiple).2
  · decide
  · decide
  · decide
  · cases money <;> decide

instance decidableForall (holds : NamedUnit → Prop) [DecidablePred holds] :
    Decidable (∀ unit, holds unit) :=
  decidable_of_iff (∀ unit ∈ all, holds unit)
    ⟨fun listed unit => listed unit unit.mem_all, fun always unit _ => always unit⟩

/-- The unit that the symbol of a unit names.  The yen and the yuan share a symbol, and it names
the yen. -/
def asPrinted : NamedUnit → NamedUnit
  | .currency .cny => .currency .jpy
  | unit => unit

theorem symbol_asPrinted (unit : NamedUnit) : unit.asPrinted.symbol = unit.symbol := by
  unfold asPrinted
  split <;> rfl

theorem family_asPrinted (unit : NamedUnit) : unit.asPrinted.family = unit.family := by
  unfold asPrinted
  split <;> rfl

theorem asPrinted_eq_self_iff (unit : NamedUnit) :
    unit.asPrinted = unit ↔ unit ≠ .currency .cny := by
  unfold asPrinted
  split
  · simp
  · rename_i other
    exact iff_of_true rfl other

/-- Symbols are words, and have no slash in them. -/
theorem symbol_shape : ∀ unit : NamedUnit, unit.symbol.toList ≠ [] ∧
    unit.symbol.toList.all (!isBlank ·) = true ∧ '/' ∉ unit.symbol.toList := by
  decide +kernel

theorem symbol_ne_nil (unit : NamedUnit) : unit.symbol.toList ≠ [] :=
  unit.symbol_shape.1

theorem isBlank_of_mem_symbol (unit : NamedUnit) :
    ∀ character ∈ unit.symbol.toList, isBlank character = false :=
  isBlank_of_all unit.symbol_shape.2.1

theorem slash_not_mem_symbol (unit : NamedUnit) : '/' ∉ unit.symbol.toList :=
  unit.symbol_shape.2.2

end NamedUnit

namespace Spelling

/-- The words of the three tables. -/
def spellings : List (List Char) :=
  symbols.map (·.1.toList) ++ rateNames.map (·.1.toList) ++ words.map (·.1.toList)

end Spelling

namespace Measure

theorem ofWord?_symbol : ∀ unit : NamedUnit,
    ofWord? unit.symbol.toList = some (.single unit.asPrinted) := by
  decide +kernel

/-! ## Words outside the tables -/

theorem lookup_eq_none_of_not_mem {β : Type} {entries : List (String × β)} {word : List Char}
    (unlisted : word ∉ entries.map (·.1.toList)) :
    entries.lookup (String.ofList word) = none := by
  rw [List.lookup_eq_none_iff]
  intro entry member
  apply bne_iff_ne.mpr
  intro same
  apply unlisted
  rw [← String.toList_ofList (l := word), same]
  exact List.mem_map_of_mem member

theorem ofWord?_eq_none {word : List Char} (unlisted : word ∉ Spelling.spellings)
    (smallUnlisted : smallLetters word ∉ Spelling.spellings) : ofWord? word = none := by
  simp only [Spelling.spellings, List.mem_append, not_or] at unlisted smallUnlisted
  obtain ⟨⟨noSymbol, -⟩, -⟩ := unlisted
  obtain ⟨⟨-, noRate⟩, noWord⟩ := smallUnlisted
  simp only [ofWord?, lookup_eq_none_of_not_mem noSymbol, lookup_eq_none_of_not_mem noRate,
    lookup_eq_none_of_not_mem noWord, Option.map_none, Option.or_none]

theorem slash_not_mem_spelling : ∀ spelling ∈ Spelling.spellings, '/' ∉ spelling := by
  decide +kernel

/-- No word of the tables has a slash in it. -/
theorem ofWord?_of_slash {word : List Char} (slash : '/' ∈ word) : ofWord? word = none := by
  have small : '/' ∈ smallLetters word := List.mem_map.mpr ⟨'/', slash, by decide⟩
  exact ofWord?_eq_none (fun listed => slash_not_mem_spelling word listed slash)
    fun listed => slash_not_mem_spelling (smallLetters word) listed small

end Measure

end NoteCalc
