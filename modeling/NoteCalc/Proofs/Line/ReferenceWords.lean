import NoteCalc.Line.Scan
import NoteCalc.Notebook.Renumbering
import NoteCalc.Proofs.Line.WordShape
import NoteCalc.Proofs.Measure.UnitWords

/-!
# Reference words

A reference is a whole word of its own kind: `line` and decimal digits.  Like the word that a
reference to a removed line becomes, it is inert: it is no keyword, names no unit and no function,
and is not the letter that multiplies by a thousand.  Whatever a scan looks for, one inert word is
as good as another.
-/

namespace NoteCalc

open NoteCalc.Text

namespace Lexeme

/-- The number of a word that is a reference. -/
def referenceNumber? : List Char → Option Nat
  | first :: second :: third :: fourth :: digits =>
      if opensReference first second third fourth && !digits.isEmpty && digits.all isDecimal then
        some (decimalValue digits)
      else none
  | _ => none

theorem startsWord_of_opensReference {first second third fourth : Char}
    (opens : opensReference first second third fourth = true) :
    startsWord first = true ∧ isWordCharacter second = true ∧ isWordCharacter third = true ∧
      isWordCharacter fourth = true := by
  simp only [opensReference, Bool.and_eq_true, Bool.or_eq_true, beq_iff_eq] at opens
  obtain ⟨⟨⟨isFirst, isSecond⟩, isThird⟩, isFourth⟩ := opens
  refine ⟨?_, ?_, ?_, ?_⟩
  · rcases isFirst with rfl | rfl <;> decide +kernel
  · rcases isSecond with ((rfl | rfl) | rfl) | rfl <;> decide +kernel
  · rcases isThird with rfl | rfl <;> decide +kernel
  · rcases isFourth with rfl | rfl <;> decide +kernel

theorem isWord_of_referenceNumber? {word : List Char} {written : Nat}
    (isReference : referenceNumber? word = some written) : IsWord word := by
  unfold referenceNumber? at isReference
  split at isReference
  · rename_i first second third fourth digits
    split at isReference
    · rename_i spelled
      simp only [Bool.and_eq_true] at spelled
      obtain ⟨⟨opens, -⟩, decimals⟩ := spelled
      obtain ⟨isFirst, isSecond, isThird, isFourth⟩ := startsWord_of_opensReference opens
      refine ⟨first, second :: third :: fourth :: digits, rfl, isFirst, ?_⟩
      intro character member
      simp only [List.mem_cons] at member
      rcases member with rfl | rfl | rfl | member
      · exact isSecond
      · exact isThird
      · exact isFourth
      · exact isWordCharacter_of_isDecimal (List.all_eq_true.mp decimals character member)
    · exact absurd isReference (by simp)
  · exact absurd isReference (by simp)

/-- A reference at the head of a text is a word that is one. -/
theorem reference?_eq_some_iff {text rest : List Char} {written : Nat} :
    reference? text = some (written, rest) ↔
      ∃ word, word? text = some (word, rest) ∧ referenceNumber? word = some written := by
  constructor
  · intro found
    unfold reference? at found
    split at found
    · rename_i first second third fourth text
      simp only at found
      split at found
      · rename_i spelled
        obtain ⟨rfl, rfl⟩ := Prod.mk.inj (Option.some.inj found)
        simp only [Bool.and_eq_true, Bool.not_eq_true'] at spelled
        obtain ⟨⟨opens, nonempty⟩, ends⟩ := spelled
        have isReference : referenceNumber?
            (first :: second :: third :: fourth :: text.takeWhile isDecimal) =
              some (decimalValue (text.takeWhile isDecimal)) := by
          simp [referenceNumber?, opens, nonempty]
        refine ⟨_, word?_eq_some_iff.mpr ⟨?_, isWord_of_referenceNumber? isReference, ends⟩,
          isReference⟩
        simp [List.takeWhile_append_dropWhile]
      · exact absurd found (by simp)
    · exact absurd found (by simp)
  · rintro ⟨word, isWord, isReference⟩
    obtain ⟨rfl, -, ends⟩ := word?_eq_some_iff.mp isWord
    unfold referenceNumber? at isReference
    split at isReference
    · rename_i first second third fourth digits
      split at isReference
      · rename_i spelled
        simp only [Bool.and_eq_true, Bool.not_eq_true'] at spelled
        obtain ⟨⟨opens, nonempty⟩, decimals⟩ := spelled
        have stops : ∀ character ∈ rest.head?, isDecimal character = false := by
          intro character isHead
          have outside := isWordCharacter_head ends character isHead
          refine Bool.eq_false_iff.mpr fun decimal => ?_
          rw [isWordCharacter_of_isDecimal decimal] at outside
          exact absurd outside (by simp)
        obtain ⟨taken, left⟩ :=
          takeWhile_append_of_stops (List.all_eq_true.mp decimals) stops
        simp only [List.cons_append, reference?, taken, left, opens, nonempty, ends]
        exact congrArg (fun number => some (number, rest)) (Option.some.inj isReference)
      · exact absurd isReference (by simp)
    · exact absurd isReference (by simp)

/-- What is no reference does not start with a word that is one. -/
theorem referenceNumber?_of_plain {text word rest : List Char}
    (plain : reference? text = none) (isWord : word? text = some (word, rest)) :
    referenceNumber? word = none := by
  cases isReference : referenceNumber? word with
  | none => rfl
  | some written =>
      rw [reference?_eq_some_iff.mpr ⟨word, isWord, isReference⟩] at plain
      exact absurd plain (by simp)

/-- The number of a reference is the number of its digits, which stand behind four letters. -/
theorem exists_digits_of_referenceNumber? {word : List Char} {written : Nat}
    (isReference : referenceNumber? word = some written) :
    ∃ letters digits, word = letters ++ digits ∧ letters.length = 4 ∧
      written = decimalValue digits := by
  unfold referenceNumber? at isReference
  split at isReference
  · rename_i first second third fourth digits
    split at isReference
    · exact ⟨[first, second, third, fourth], digits, rfl, rfl, (Option.some.inj isReference).symm⟩
    · exact absurd isReference (by simp)
  · exact absurd isReference (by simp)

theorem referenceDigits_of_word? {text word rest : List Char}
    (isWord : word? text = some (word, rest)) : referenceDigits text rest = word.length - 4 := by
  unfold referenceDigits
  rw [← word?_append isWord, List.length_append, Nat.add_sub_cancel]

/-- A reference that is read has a number with as many digits as a line number may have. -/
theorem written_lt_of_reference? {text rest : List Char} {written : Nat}
    (isReference : reference? text = some (written, rest))
    (short : referenceDigits text rest ≤ mostLineDigits) : written < 10 ^ mostLineDigits := by
  obtain ⟨word, isWord, isNumber⟩ := reference?_eq_some_iff.mp isReference
  obtain ⟨letters, digits, rfl, four, rfl⟩ := exists_digits_of_referenceNumber? isNumber
  rw [referenceDigits_of_word? isWord, List.length_append, four, Nat.add_sub_cancel_left] at short
  exact Nat.lt_of_lt_of_le (decimalValue_lt digits) (Nat.pow_le_pow_right (by decide) short)

/-! ## Inert words -/

/-- A word that means nothing to a scan but, possibly, that it is a reference. -/
structure Inert (word : List Char) : Prop where
  isWord : IsWord word
  noKeyword : keywordKind? word = none
  noMeasure : Measure.ofWord? word = none
  noFunction : ∀ function ∈ NamedFunction.all, function.name.toList ≠ smallLetters word
  noThousands : word ≠ ['k'] ∧ word ≠ ['K']

/-- No unit word starts with the letter that references start with. -/
theorem head_spelling : ∀ spelling ∈ Spelling.spellings,
    spelling.head? ≠ some 'l' ∧ spelling.head? ≠ some 'L' := by
  decide +kernel

theorem exists_of_referenceNumber? {word : List Char} {written : Nat}
    (isReference : referenceNumber? word = some written) :
    ∃ first rest, word = first :: rest ∧ (first = 'l' ∨ first = 'L') ∧ 4 ≤ rest.length := by
  unfold referenceNumber? at isReference
  split at isReference
  · rename_i first second third fourth digits
    split at isReference
    · rename_i spelled
      simp only [Bool.and_eq_true, opensReference, Bool.or_eq_true, beq_iff_eq] at spelled
      obtain ⟨⟨opens, nonempty⟩, -⟩ := spelled
      refine ⟨first, _, rfl, opens.1.1.1, ?_⟩
      have long : 0 < digits.length := by
        rw [List.length_pos_iff]
        simpa using nonempty
      simp only [List.length_cons]
      omega
    · exact absurd isReference (by simp)
  · exact absurd isReference (by simp)

theorem keywordKind?_of_length {word : List Char} (long : 2 < word.length) :
    keywordKind? word = none := by
  have different (keyword : String) (short : keyword.toList.length = 2) :
      word ≠ keyword.toList := by
    rintro rfl
    omega
  unfold keywordKind?
  rw [if_neg (different "to" rfl), if_neg (different "in" rfl), if_neg (different "of" rfl)]

theorem smallLetters_head {first : Char} (head : first = 'l' ∨ first = 'L') (rest : List Char) :
    (smallLetters (first :: rest)).head? = some 'l' := by
  rcases head with rfl | rfl <;> rfl

theorem ofWord?_of_head {first : Char} {rest : List Char} (head : first = 'l' ∨ first = 'L') :
    Measure.ofWord? (first :: rest) = none := by
  apply Measure.ofWord?_eq_none
  · intro listed
    obtain ⟨notSmall, notCapital⟩ := head_spelling _ listed
    rcases head with rfl | rfl
    · exact notSmall rfl
    · exact notCapital rfl
  · intro listed
    exact (head_spelling _ listed).1 (smallLetters_head head rest)

/-- References are inert. -/
theorem inert_of_referenceNumber? {word : List Char} {written : Nat}
    (isReference : referenceNumber? word = some written) : Inert word := by
  have isWord := isWord_of_referenceNumber? isReference
  obtain ⟨first, rest, rfl, head, long⟩ := exists_of_referenceNumber? isReference
  refine ⟨isWord, keywordKind?_of_length ?_, ofWord?_of_head head, ?_, ?_⟩
  · rw [List.length_cons]
    omega
  · intro function _ same
    have nameHead : function.name.toList.head? = some 's' := by cases function <;> rfl
    rw [same, smallLetters_head head rest] at nameHead
    exact absurd nameHead (by decide)
  · constructor <;>
      · intro same
        rw [(List.cons.inj same).2] at long
        exact absurd long (by decide)

theorem isWord_invalidReference : IsWord Renumbering.invalidReference.toList := by
  have inside : "NVALID_REF".toList.all isWordCharacter = true := by decide +kernel
  exact ⟨'I', _, rfl, by decide +kernel, List.all_eq_true.mp inside⟩

theorem inert_invalidReference : Inert Renumbering.invalidReference.toList where
  isWord := isWord_invalidReference
  noKeyword := by decide
  noMeasure := Option.isNone_iff_eq_none.mp (by decide +kernel)
  noFunction := by decide +kernel
  noThousands := by decide

theorem referenceNumber?_invalidReference :
    referenceNumber? Renumbering.invalidReference.toList = none := by
  decide

/-! ## Plain references -/

theorem toList_plainName (number : Nat) :
    (Renumbering.plainName number).toList =
      'l' :: 'i' :: 'n' :: 'e' :: Nat.toDigits 10 number := by
  have digits : toString (number : Int) = String.ofList (Nat.toDigits 10 number) := rfl
  rw [Renumbering.plainName, String.toList_append, digits]
  exact congrArg (['l', 'i', 'n', 'e'] ++ ·) String.toList_ofList

/-- The plain spelling of a reference is read back as its number. -/
theorem referenceNumber?_plainName (number : Nat) :
    referenceNumber? (Renumbering.plainName number).toList = some number := by
  have opens : opensReference 'l' 'i' 'n' 'e' = true := by decide
  have nonempty : (Nat.toDigits 10 number).isEmpty = false := by
    cases written : Nat.toDigits 10 number with
    | nil => exact absurd written Nat.toDigits_ne_nil
    | cons => rfl
  have decimals : (Nat.toDigits 10 number).all isDecimal = true :=
    List.all_eq_true.mpr fun _ => isDecimal_of_mem_toDigits
  simp [toList_plainName, referenceNumber?, opens, nonempty, decimals, decimalValue_toDigits]

theorem length_toDigits_le_mostLineDigits_iff {number : Nat} :
    (Nat.toDigits 10 number).length ≤ mostLineDigits ↔ number < 10 ^ mostLineDigits :=
  Nat.length_toDigits_le_iff (by decide) (by decide)

/-- A reference is written exactly if its number has not too many digits. -/
theorem lineName_eq_ok_iff {number : Nat} {text : String} :
    Renumbering.lineName number = .ok text ↔
      number < 10 ^ mostLineDigits ∧ text = Renumbering.plainName number := by
  unfold Renumbering.lineName
  simp only [Int.natAbs_natCast, length_toDigits_le_mostLineDigits_iff]
  split
  · rename_i short
    rw [Except.ok.injEq, eq_comm]
    exact (and_iff_right short).symm
  · rename_i long
    exact iff_of_false (by simp) fun written => long written.1

/-- A number just behind the last one that is written has one digit too many. -/
theorem surplus_of_lineName {number : Nat} {digit : UnreadableDigit}
    (last : number < 10 ^ mostLineDigits)
    (fails : Renumbering.lineName ((number + 1 : Nat) : Int) = .error digit) :
    digit = .surplus (mostLineDigits + 1) := by
  have next : number + 1 < 10 ^ (mostLineDigits + 1) := by
    rw [Nat.pow_succ]
    omega
  have atMost : (Nat.toDigits 10 (number + 1)).length ≤ mostLineDigits + 1 :=
    (Nat.length_toDigits_le_iff (k := mostLineDigits + 1) (by decide) (Nat.succ_pos _)).mpr next
  unfold Renumbering.lineName at fails
  simp only [Int.natAbs_natCast] at fails
  split at fails
  · exact absurd fails (by simp)
  · rename_i long
    rw [← Except.error.inj fails]
    exact congrArg UnreadableDigit.surplus (by omega)

theorem length_plainName_le {number : Nat} (short : number < 10 ^ mostLineDigits) :
    (Renumbering.plainName number).toList.length ≤ mostLineDigits + 4 := by
  have digits := length_toDigits_le_mostLineDigits_iff.mpr short
  rw [toList_plainName]
  simp only [List.length_cons]
  omega

end Lexeme

end NoteCalc
