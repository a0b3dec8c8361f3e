import Mathlib.Data.List.TakeWhile
import NoteCalc.Line.Structure
import NoteCalc.Proofs.Line.ReferencePlaces

/-!
# Stray digits

Two kinds of digits stop a scan.  A digit sign that is no decimal digit can stand inside a word, but
no token starts with it; and a reference can have more digits than a line number may have.  Whether
a scan meets such a digit where a token has to start depends on all that is read before.  No form of
a token reads a part of a word, though, and no word that is read has such a digit.  A scan therefore
fails exactly if the first character of some run of word characters that is no decimal digit is a
digit sign, or the run is, from there on, a reference that is too long.
-/

namespace NoteCalc

open NoteCalc.Text Lexeme

/-- The first character of a run that is no decimal digit is a digit sign. -/
def IsStray (run : List Char) : Prop :=
  (run.find? (!isDecimal ·)).any isDigitSign = true

/-- One of the longest runs of word characters in a text has a stray digit sign. -/
def HasStrayDigit (text : List Char) : Prop :=
  ∃ run ∈ text.splitOnP (!isWordCharacter ·), IsStray run

/-- A word is a reference with more digits than the number of a line may have. -/
def IsLongReference (word : List Char) : Prop :=
  (referenceNumber? word).isSome = true ∧ mostLineDigits < word.length - 4

/-- One of the longest runs of word characters in a text is, from its first character on that is no
decimal digit, a reference with too many digits. -/
def HasLongReference (text : List Char) : Prop :=
  ∃ run ∈ text.splitOnP (!isWordCharacter ·), IsLongReference (run.dropWhile isDecimal)

instance (run : List Char) : Decidable (IsStray run) :=
  inferInstanceAs (Decidable ((run.find? (!isDecimal ·)).any isDigitSign = true))

instance (text : List Char) : Decidable (HasStrayDigit text) :=
  inferInstanceAs (Decidable (∃ run ∈ text.splitOnP (!isWordCharacter ·), IsStray run))

instance (word : List Char) : Decidable (IsLongReference word) :=
  inferInstanceAs (Decidable (_ ∧ _))

instance (text : List Char) : Decidable (HasLongReference text) :=
  inferInstanceAs (Decidable (∃ run ∈ text.splitOnP (!isWordCharacter ·),
    IsLongReference (run.dropWhile isDecimal)))

/-- A word does not start with a digit sign. -/
def StartsPlainly (word : List Char) : Prop :=
  word.head?.any isDigitSign = false

instance (word : List Char) : Decidable (StartsPlainly word) :=
  inferInstanceAs (Decidable (word.head?.any isDigitSign = false))

/-- A word stops a scan with a digit: it starts with a stray one, or it is a reference with too many
digits. -/
def UnreadableDigit.Spoils (word : List Char) : UnreadableDigit → Prop
  | .stray character => word.head? = some character ∧ isDigitSign character = true
  | .surplus digits => IsLongReference word ∧ word.length - 4 = digits

/-- Some digit of a word stops a scan. -/
def Spoilt (word : List Char) : Prop :=
  ∃ digit : UnreadableDigit, digit.Spoils word

theorem exists_stray_iff {word : List Char} :
    (∃ character, (UnreadableDigit.stray character).Spoils word) ↔ ¬StartsPlainly word := by
  cases word with
  | nil => simp [UnreadableDigit.Spoils, StartsPlainly]
  | cons first others => simp [UnreadableDigit.Spoils, StartsPlainly]

theorem spoilt_iff {word : List Char} :
    Spoilt word ↔ ¬StartsPlainly word ∨ IsLongReference word := by
  rw [← exists_stray_iff]
  constructor
  · rintro ⟨digit, spoils⟩
    cases digit with
    | stray character => exact .inl ⟨character, spoils⟩
    | surplus digits => exact .inr spoils.1
  · rintro (⟨character, spoils⟩ | long)
    · exact ⟨.stray character, spoils⟩
    · exact ⟨.surplus (word.length - 4), long, rfl⟩

theorem not_spoilt_nil : ¬Spoilt [] := by
  simp [spoilt_iff, StartsPlainly, IsLongReference]

/-- A word that is no reference is not spoilt if it starts plainly. -/
theorem not_spoilt_of_not_reference {word : List Char} (plain : StartsPlainly word)
    (noReference : referenceNumber? word = none) : ¬Spoilt word := by
  simp [spoilt_iff, plain, IsLongReference, noReference]

/-! ## Words of a text -/

/-- One of the longest runs of word characters in a text has a property from its first character on
that is no decimal digit. -/
def HasWord (property : List Char → Prop) (text : List Char) : Prop :=
  ∃ run ∈ text.splitOnP (!isWordCharacter ·), property (run.dropWhile isDecimal)

section Texts

variable {property other : List Char → Prop} {character : Char} {text rest word : List Char}

theorem HasWord.imp (implies : ∀ word, property word → other word) (has : HasWord property text) :
    HasWord other text := by
  obtain ⟨run, member, holds⟩ := has
  exact ⟨run, member, implies _ holds⟩

theorem hasStrayDigit_iff : HasStrayDigit text ↔ HasWord (¬StartsPlainly ·) text := by
  simp [HasStrayDigit, HasWord, IsStray, StartsPlainly, List.find?_not_eq_head?_dropWhile]

theorem not_hasWord_nil (nothing : ¬property []) : ¬HasWord property [] := by
  simpa [HasWord, List.splitOnP_nil] using nothing

/-- A character that starts no word has no part in whether there is a word with a property. -/
theorem hasWord_cons (nothing : ¬property []) (outside : startsWord character = false) :
    HasWord property (character :: text) ↔ HasWord property text := by
  unfold HasWord
  rw [List.splitOnP_cons_eq_if_modifyHead]
  cases inWord : isWordCharacter character with
  | false => simp [nothing]
  | true =>
      have decimal : isDecimal character = true := by
        simpa [startsWord, inWord] using outside
      obtain ⟨run, runs, split⟩ :=
        List.exists_cons_of_ne_nil (List.splitOnP_ne_nil (!isWordCharacter ·) text)
      simp [split, decimal]

/-- A word at the head of a text has the property, or it is left behind. -/
theorem hasWord_of_word? (nothing : ¬property []) (isWord : word? text = some (word, rest)) :
    HasWord property text ↔ property word ∨ HasWord property rest := by
  obtain ⟨rfl, shape, ends⟩ := word?_eq_some_iff.mp isWord
  have inside := isWordCharacter_of_isWord shape
  obtain ⟨first, others, rfl, starts, -⟩ := shape
  have whole : (first :: others).splitOnP (!isWordCharacter ·) = [first :: others] :=
    List.splitOnP_eq_singleton fun character member => by simp [inside character member]
  have kept : (first :: others).dropWhile isDecimal = first :: others :=
    List.dropWhile_cons_of_neg (by simp [isDecimal_eq_false starts])
  cases rest with
  | nil => simp only [HasWord, List.append_nil, whole, List.mem_singleton, exists_eq_left, kept,
      List.splitOnP_nil, List.dropWhile_nil, nothing, or_false]
  | cons separator rest =>
      have separates : (!isWordCharacter separator) = true := by
        rw [Bool.not_eq_true']
        exact ends
      have split : (first :: others ++ separator :: rest).splitOnP (!isWordCharacter ·) =
          (first :: others).splitOnP (!isWordCharacter ·) ++
            rest.splitOnP (!isWordCharacter ·) :=
        List.splitOnP_append_cons _ rest separates
      rw [hasWord_cons nothing (startsWord_of_not_isWordCharacter ends)]
      simp only [HasWord, split, whole, List.singleton_append, List.mem_cons, exists_eq_or_imp,
        kept]

theorem hasWord_of_readsDown (nothing : ¬property [])
    (reads : ReadsDown (¬property ·) text rest) :
    HasWord property text ↔ HasWord property rest := by
  induction reads with
  | refl => exact Iff.rfl
  | cons outside _ induction => rw [hasWord_cons nothing outside, induction]
  | word isWord without _ induction =>
      rw [hasWord_of_word? nothing isWord, induction]
      exact or_iff_right without

end Texts

/-! ## Words that mean something -/

theorem smallLetter_of_isDigitSign {character : Char} (sign : isDigitSign character = true) :
    smallLetter character = character := by
  have capitals : ∀ code ∈ List.range' 65 26, isDigitSign (Char.ofNat code) = false := by
    decide +kernel
  have noCapital : ¬('A' ≤ character ∧ character ≤ 'Z') := by
    rintro ⟨above, below⟩
    have isCode : character.toNat ∈ List.range' 65 26 :=
      List.mem_range'_1.mpr ⟨above, Nat.lt_succ_of_le below⟩
    have noSign := capitals _ isCode
    rw [Char.ofNat_toNat, sign] at noSign
    exact absurd noSign (by simp)
  have noKelvin : character ≠ '\u212a' := by
    rintro rfl
    exact absurd sign (by decide +kernel)
  have noMu : character ≠ '\u039c' := by
    rintro rfl
    exact absurd sign (by decide +kernel)
  unfold smallLetter
  simp [noCapital, noKelvin, noMu]

theorem spelling_startsPlainly : ∀ spelling ∈ Spelling.spellings, StartsPlainly spelling := by
  decide +kernel

theorem not_startsPlainly_of_isDigitSign {character : Char} (sign : isDigitSign character = true)
    (rest : List Char) : ¬StartsPlainly (character :: rest) := by
  simp [StartsPlainly, sign]

/-- No unit word starts with a digit sign. -/
theorem startsPlainly_of_ofWord? {word : List Char} {measure : Measure}
    (isUnit : Measure.ofWord? word = some measure) : StartsPlainly word := by
  cases word with
  | nil => simp [StartsPlainly]
  | cons character rest =>
      refine Bool.eq_false_iff.mpr fun sign => ?_
      have refused := not_startsPlainly_of_isDigitSign sign
      have small : smallLetters (character :: rest) = character :: smallLetters rest := by
        rw [smallLetters, List.map_cons, smallLetter_of_isDigitSign sign]
        rfl
      have noUnit : Measure.ofWord? (character :: rest) = none := by
        apply Measure.ofWord?_eq_none
        · exact fun listed => refused rest (spelling_startsPlainly _ listed)
        · rw [small]
          exact fun listed => refused (smallLetters rest) (spelling_startsPlainly _ listed)
      rw [isUnit] at noUnit
      exact absurd noUnit (by simp)

theorem startsPlainly_of_keywordKind? {word : List Char} {kind : Token.Kind}
    (isKeyword : keywordKind? word = some kind) : StartsPlainly word := by
  unfold keywordKind? at isKeyword
  split_ifs at isKeyword with isTo isInto isOf
  · rw [isTo]
    rfl
  · rw [isInto]
    rfl
  · rw [isOf]
    rfl

theorem startsPlainly_of_referenceNumber? {word : List Char} {written : Nat}
    (isReference : referenceNumber? word = some written) : StartsPlainly word := by
  obtain ⟨first, rest, rfl, head, -⟩ := exists_of_referenceNumber? isReference
  rcases head with rfl | rfl <;> simp [StartsPlainly] <;> decide +kernel

/-- What a plain piece can read within its words is not spoilt. -/
theorem admits_not_spoilt : Admits (¬Spoilt ·) where
  keyword := fun isKeyword => not_spoilt_of_not_reference (startsPlainly_of_keywordKind? isKeyword)
    (admits_noReference.keyword isKeyword)
  unit := fun isUnit => not_spoilt_of_not_reference (startsPlainly_of_ofWord? isUnit)
    (admits_noReference.unit isUnit)
  thousands := ⟨not_spoilt_of_not_reference (by decide +kernel) rfl,
    not_spoilt_of_not_reference (by decide +kernel) rfl⟩

/-! ## Scanning -/

namespace Scan

variable {character : Char} {text rest word : List Char} {digit : UnreadableDigit}

theorem startsWord_of_stray (sign : isDigitSign character = true)
    (noDecimal : isDecimal character = false) : startsWord character = true := by
  simp [startsWord, isWordCharacter_of_isDigitSign sign, noDecimal]

theorem none_of_startsPlainly {α : Type} {test : List Char → Option α} {word : List Char}
    (plain : ∀ {value : α}, test word = some value → StartsPlainly word)
    (refused : ¬StartsPlainly word) : test word = none :=
  Option.eq_none_iff_forall_ne_some.mpr fun _ passes => refused (plain passes)

theorem reference?_of_refused {word : List Char} (isWord : word? text = some (word, rest))
    (refused : ¬StartsPlainly word) : reference? text = none := by
  refine Option.eq_none_iff_forall_ne_some.mpr fun ⟨written, left⟩ isReference => ?_
  obtain ⟨found, isFound, isNumber⟩ := reference?_eq_some_iff.mp isReference
  rw [isWord] at isFound
  obtain ⟨rfl, -⟩ := Prod.mk.inj (Option.some.inj isFound)
  exact refused (startsPlainly_of_referenceNumber? isNumber)

theorem recognise_stray (sign : isDigitSign character = true)
    (starts : startsWord character = true) (text : List Char) :
    recognise character text = .error (.stray character) := by
  have isWord := word?_of_startsWord starts text
  have refused := not_startsPlainly_of_isDigitSign sign (text.takeWhile isWordCharacter)
  have noReference := reference?_of_refused isWord refused
  have noKeyword : keyword? (character :: text) = none := by
    simp [keyword?, isWord, none_of_startsPlainly startsPlainly_of_keywordKind? refused]
  have noMoney : money? (character :: text) = none := by
    simp [money?, currencySign?_eq_none starts]
  have noNumber : number? (character :: text) = none := by
    simp [number?, numeral?, Reading.startsWithDecimal, isDecimal_eq_false starts]
  simp [recognise, noReference, noKeyword, noMoney, sign, noNumber]

/-- A word with a digit that spoils it is not recognised. -/
theorem recognise_of_spoils (isWord : word? (character :: text) = some (word, rest))
    (spoils : digit.Spoils word) : recognise character text = .error digit := by
  have starts := startsWord_of_word? isWord
  cases digit with
  | stray first =>
      rw [word?_of_startsWord starts, Option.some.injEq, Prod.mk.injEq] at isWord
      obtain ⟨isFirst, sign⟩ := spoils
      rw [← isWord.1, List.head?_cons, Option.some.injEq] at isFirst
      subst isFirst
      exact recognise_stray sign starts text
  | surplus digits =>
      obtain ⟨⟨isReference, long⟩, rfl⟩ := spoils
      obtain ⟨written, isNumber⟩ := Option.isSome_iff_exists.mp isReference
      have found := reference?_eq_some_iff.mpr ⟨word, isWord, isNumber⟩
      rw [← referenceDigits_of_word? isWord] at long ⊢
      exact recognise_surplus found long

/-- What is not recognised is a word with a digit that spoils it. -/
theorem spoils_of_recognise (stops : recognise character text = .error digit) :
    ∃ word rest, word? (character :: text) = some (word, rest) ∧ digit.Spoils word := by
  unfold recognise at stops
  simp only at stops
  split at stops
  · rename_i written left found
    split at stops
    · exact absurd stops (by simp)
    · rename_i long
      obtain ⟨word, isWord, isNumber⟩ := reference?_eq_some_iff.mp found
      rw [referenceDigits_of_word? isWord] at long stops
      obtain rfl := Except.error.inj stops
      have isReference := Option.isSome_of_eq_some isNumber
      exact ⟨word, left, isWord, ⟨isReference, Nat.lt_of_not_le long⟩, rfl⟩
  · split at stops
    · exact absurd stops (by simp)
    · split at stops
      · rename_i sign
        split at stops
        · exact absurd stops (by simp)
        · rename_i noNumber
          obtain rfl := Except.error.inj stops
          have noDecimal : isDecimal character = false := by
            refine Bool.eq_false_iff.mpr fun decimal => ?_
            simp [number?, numeral?, Reading.startsWithDecimal, decimal] at noNumber
          have isWord := word?_of_startsWord (startsWord_of_stray sign noDecimal) text
          exact ⟨_, _, isWord, rfl, sign⟩
      · split at stops <;> exact absurd stops (by simp)

theorem not_spoilt_of_recognise {found : Option Token.Kind × List Char}
    (recognised : recognise character text = .ok found)
    (isWord : word? (character :: text) = some (word, rest)) : ¬Spoilt word := by
  rintro ⟨digit, spoils⟩
  rw [recognise_of_spoils isWord spoils] at recognised
  exact absurd recognised (by simp)

/-- Every piece consists of whole words that are not spoilt, and of characters that start no
word. -/
theorem readsDown_of_recognise {kind : Option Token.Kind}
    (found : recognise character text = .ok (kind, rest)) :
    ReadsDown (¬Spoilt ·) (character :: text) rest := by
  rcases recognise_cases found with ⟨written, -, isReference, -⟩ | ⟨-, piece⟩
  · obtain ⟨word, isWord, -⟩ := reference?_eq_some_iff.mp isReference
    exact .word isWord (not_spoilt_of_recognise found isWord) (.refl rest)
  · exact piece.readsDown admits_not_spoilt fun word after isWord =>
      not_spoilt_of_recognise found isWord

/-- The digit that stops a scan spoils a word that is left. -/
theorem hasWord_of_remaining {length : Nat} (stops : remaining length text = .error digit) :
    HasWord digit.Spoils text := by
  have nothing : ¬digit.Spoils [] := fun spoils => not_spoilt_nil ⟨digit, spoils⟩
  fun_induction remaining length text with
  | case1 => exact absurd stops (by simp)
  | case2 character text blank induction =>
      have outside := startsWord_of_not_isWordCharacter (isWordCharacter_of_isBlank blank)
      exact (hasWord_cons nothing outside).mpr (induction stops)
  | case3 character text notBlank other found =>
      obtain rfl := Except.error.inj stops
      obtain ⟨word, rest, isWord, spoils⟩ := spoils_of_recognise found
      exact (hasWord_of_word? nothing isWord).mpr (.inl spoils)
  | case4 character text notBlank kind left found =>
      rename_i induction
      have stopsLater : remaining length left = .error digit := by
        cases later : remaining length left with
        | error other =>
            rw [later] at stops
            exact stops
        | ok scanned =>
            rw [later] at stops
            exact absurd stops (by simp [Except.map])
      have reads := (readsDown_of_recognise found).mono fun word unspoilt spoils =>
        unspoilt ⟨digit, spoils⟩
      exact (hasWord_of_readsDown nothing reads).mpr (induction stopsLater)

/-- Scanning what is left of a line fails exactly if a spoilt word is left. -/
theorem remaining_eq_error_iff {length : Nat} :
    (∃ digit, remaining length text = .error digit) ↔ HasWord Spoilt text := by
  constructor
  · rintro ⟨digit, stops⟩
    exact (hasWord_of_remaining stops).imp fun word spoils => ⟨digit, spoils⟩
  · intro has
    fun_induction remaining length text with
    | case1 => exact absurd has (not_hasWord_nil not_spoilt_nil)
    | case2 character text blank induction =>
        have outside := startsWord_of_not_isWordCharacter (isWordCharacter_of_isBlank blank)
        exact induction ((hasWord_cons not_spoilt_nil outside).mp has)
    | case3 character text notBlank digit found => exact ⟨digit, rfl⟩
    | case4 character text notBlank kind left found =>
        rename_i induction
        obtain ⟨digit, stops⟩ :=
          induction ((hasWord_of_readsDown not_spoilt_nil (readsDown_of_recognise found)).mp has)
        exact ⟨digit, by rw [stops]; rfl⟩

/-- The only error among the explanations for a line is why it is refused. -/
theorem errors_eq (scanned : Scan) :
    scanned.diagnostics.filter (·.severity = .error) =
      (scanned.error?.map LineError.diagnostic).toList := by
  have noWarning : (scanned.warnings.map LineWarning.diagnostic).filter (·.severity = .error) =
      [] := by
    refine List.filter_eq_nil_iff.mpr fun diagnostic member => ?_
    obtain ⟨warning, -, rfl⟩ := List.mem_map.mp member
    cases warning <;> simp [LineWarning.diagnostic]
  have isError (error : LineError) : error.diagnostic.severity = .error := by
    cases error <;> rfl
  rw [diagnostics, List.filter_append, noWarning, List.append_nil]
  cases scanned.error? with
  | none => rfl
  | some error => simp [isError]

theorem length_errors_le_one (scanned : Scan) :
    (scanned.diagnostics.filter (·.severity = .error)).length ≤ 1 := by
  rw [errors_eq]
  cases scanned.error? <;> simp

end Scan

theorem hasWord_spoilt_iff {text : List Char} :
    HasWord Spoilt text ↔ HasStrayDigit text ∨ HasLongReference text := by
  rw [hasStrayDigit_iff]
  simp only [HasWord, HasLongReference, spoilt_iff, ← exists_or, and_or_left]

/-- Scanning a line without long references fails exactly if it has a stray digit sign, and with
such a sign.  Every line with neither is scanned, and at most one error is reported about it. -/
theorem scan_eq_error_iff_hasStrayDigit (line : String) :
    (¬HasLongReference line.toList →
        ((∃ character, scan line = .error (.stray character)) ↔ HasStrayDigit line.toList)) ∧
      ((∃ scanned, scan line = .ok scanned ∧
        (scanned.diagnostics.filter (·.severity = .error)).length ≤ 1) ↔
          ¬HasStrayDigit line.toList ∧ ¬HasLongReference line.toList) := by
  have fails : (∃ digit, scan line = .error digit) ↔
      HasStrayDigit line.toList ∨ HasLongReference line.toList :=
    Scan.remaining_eq_error_iff.trans hasWord_spoilt_iff
  constructor
  · intro short
    constructor
    · rintro ⟨character, stops⟩
      exact (fails.mp ⟨_, stops⟩).resolve_right short
    · intro stray
      obtain ⟨digit, stops⟩ := fails.mpr (.inl stray)
      cases digit with
      | stray character => exact ⟨character, stops⟩
      | surplus digits =>
          have long : HasLongReference line.toList :=
            (Scan.hasWord_of_remaining stops).imp fun _ spoils => spoils.1
          exact absurd long short
  · rw [← not_or, ← fails]
    cases scan line with
    | error digit => simp
    | ok scanned => simp [scanned.length_errors_le_one]

/-- A superscript digit stops a scan where a token has to start, and does not within a word. -/
theorem scan_eq_error_superscript :
    (∃ character, scan "about 5²" = .error (.stray character)) ∧
      ∃ scanned, scan "about x² or 5 kB" = .ok scanned ∧
        (scanned.diagnostics.filter (·.severity = .error)).length ≤ 1 := by
  obtain ⟨stops, -⟩ := scan_eq_error_iff_hasStrayDigit "about 5²"
  obtain ⟨-, reads⟩ := scan_eq_error_iff_hasStrayDigit "about x² or 5 kB"
  exact ⟨(stops (by decide +kernel)).mpr (by decide +kernel), reads.mpr (by decide +kernel)⟩

end NoteCalc
