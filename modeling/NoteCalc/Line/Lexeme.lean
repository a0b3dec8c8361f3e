import NoteCalc.Line.Token
import NoteCalc.Measure.Spelling
import NoteCalc.Number.Reading

/-!
# Lexemes

The forms that a token can take at the head of a text.  Every recogniser answers what it found and
the text that is left; what is left is always a shorter ending of the text, which `Leaves` says and
the lemma beside each recogniser shows.
-/

namespace NoteCalc

open NoteCalc.Text

/-- A text leaves a rest when the rest is an ending of it and something stands before it. -/
def Leaves (text rest : List Char) : Prop :=
  rest <:+ text ∧ rest.length < text.length

namespace Leaves

variable {text middle rest : List Char}

/-- The part in front of a rest is not empty, and together they are the text. -/
theorem exists_lexeme (leaves : Leaves text rest) :
    ∃ lexeme, lexeme ≠ [] ∧ lexeme ++ rest = text := by
  obtain ⟨⟨lexeme, whole⟩, shorter⟩ := leaves
  refine ⟨lexeme, ?_, whole⟩
  rintro rfl
  simp [← whole] at shorter

theorem trans_suffix (leaves : Leaves text middle) (ending : rest <:+ middle) :
    Leaves text rest :=
  ⟨ending.trans leaves.1, Nat.lt_of_le_of_lt ending.length_le leaves.2⟩

theorem suffix_trans (ending : middle <:+ text) (leaves : Leaves middle rest) :
    Leaves text rest :=
  ⟨leaves.1.trans ending, Nat.lt_of_lt_of_le leaves.2 ending.length_le⟩

theorem trans (first : Leaves text middle) (second : Leaves middle rest) : Leaves text rest :=
  first.trans_suffix second.1

theorem cons (character : Char) (ending : rest <:+ text) : Leaves (character :: text) rest :=
  ⟨ending.trans (List.suffix_cons _ _), Nat.lt_succ_of_le ending.length_le⟩

end Leaves

namespace Lexeme

/-- Whether a text starts with a word character. -/
def startsWithWordCharacter : List Char → Bool
  | [] => false
  | character :: _ => isWordCharacter character

/-- Remove the blanks that may stand inside an amount. -/
def skipInlineBlanks (text : List Char) : List Char :=
  text.dropWhile isInlineBlank

theorem skipInlineBlanks_suffix (text : List Char) : skipInlineBlanks text <:+ text :=
  List.dropWhile_suffix _

theorem word?_leaves {text word rest : List Char} (found : word? text = some (word, rest)) :
    Leaves text rest := by
  have whole := word?_append found
  have nonempty := List.length_pos_iff.mpr (word?_ne_nil found)
  refine ⟨⟨word, whole⟩, ?_⟩
  simp only [← whole, List.length_append]
  omega

/-! ## References -/

/-- Whether four characters spell the word that opens a reference, in any case.  The dotless and
the dotted i of Turkish count as an i. -/
def opensReference (first second third fourth : Char) : Bool :=
  (first == 'l' || first == 'L') &&
    (second == 'i' || second == 'I' || second == '\u0131' || second == '\u0130') &&
    (third == 'n' || third == 'N') && (fourth == 'e' || fourth == 'E')

/-- A reference to a line: `line` and a number, with no word character after it. -/
def reference? : List Char → Option (Nat × List Char)
  | first :: second :: third :: fourth :: text =>
      let digits := text.takeWhile isDecimal
      let rest := text.dropWhile isDecimal
      if opensReference first second third fourth && !digits.isEmpty &&
          !startsWithWordCharacter rest then
        some (decimalValue digits, rest)
      else none
  | _ => none

/-- How many digits a reference has behind its four letters, given the text that starts with it and
the text that is left. -/
def referenceDigits (before rest : List Char) : Nat :=
  before.length - rest.length - 4

theorem reference?_leaves {text rest : List Char} {written : Nat}
    (found : reference? text = some (written, rest)) : Leaves text rest := by
  unfold reference? at found
  split at found
  · simp only at found
    split at found
    · obtain ⟨-, rfl⟩ := Prod.mk.inj (Option.some.inj found)
      exact Leaves.cons _ <| (List.dropWhile_suffix _).trans <|
        (List.suffix_cons _ _).trans <| (List.suffix_cons _ _).trans (List.suffix_cons _ _)
    · simp at found
  · simp at found

/-! ## Keywords -/

/-- The keyword that a word is. -/
def keywordKind? (word : List Char) : Option Token.Kind :=
  if word = "to".toList then some .to
  else if word = "in".toList then some .into
  else if word = "of".toList then some .of
  else none

/-- Whether a word is a keyword. -/
def isKeyword (word : List Char) : Bool :=
  (keywordKind? word).isSome

/-- A keyword. -/
def keyword? (text : List Char) : Option (Token.Kind × List Char) :=
  (word? text).bind fun (word, rest) => (keywordKind? word).map (·, rest)

theorem keyword?_leaves {text rest : List Char} {kind : Token.Kind}
    (found : keyword? text = some (kind, rest)) : Leaves text rest := by
  obtain ⟨⟨word, after⟩, isWord, known⟩ := Option.bind_eq_some_iff.mp found
  obtain ⟨kind, -, same⟩ := Option.map_eq_some_iff.mp known
  obtain ⟨-, rfl⟩ := Prod.mk.inj same
  exact word?_leaves isWord

/-! ## Numerals -/

/-- The digits of a whole number, of which each may have a comma before it, and the text after
them. -/
def takeGrouped : List Char → List Char × List Char
  | [] => ([], [])
  | character :: text =>
      if isDecimal character then
        (character :: (takeGrouped text).1, (takeGrouped text).2)
      else if character == ',' && Reading.startsWithDecimal text then takeGrouped text
      else ([], character :: text)

theorem takeGrouped_suffix (text : List Char) : (takeGrouped text).2 <:+ text := by
  induction text with
  | nil => simp [takeGrouped]
  | cons character text induction =>
      unfold takeGrouped
      split
      · exact induction.trans (List.suffix_cons _ _)
      · split
        · exact induction.trans (List.suffix_cons _ _)
        · exact List.suffix_refl _

/-- The places of a numeral: a point and digits right after it, and the text after them. -/
def takePlaces : List Char → List Char × List Char
  | '.' :: text =>
      if Reading.startsWithDecimal text then
        (text.takeWhile isDecimal, text.dropWhile isDecimal)
      else ([], '.' :: text)
  | text => ([], text)

theorem takePlaces_suffix (text : List Char) : (takePlaces text).2 <:+ text := by
  unfold takePlaces
  split
  · split
    · exact (List.dropWhile_suffix _).trans (List.suffix_cons _ _)
    · exact List.suffix_refl _
  · exact List.suffix_refl _

/-- A numeral: digits, commas between them, and at most one point with digits after it. -/
def numeral? (text : List Char) : Option (Float × List Char) :=
  if Reading.startsWithDecimal text then
    let whole := takeGrouped text
    let places := takePlaces whole.2
    let digits := decimalValue (whole.1 ++ places.1)
    some (Binary64.ofDecimal false digits (-(places.1.length : Int)), places.2)
  else none

theorem numeral?_leaves {text rest : List Char} {amount : Float}
    (found : numeral? text = some (amount, rest)) : Leaves text rest := by
  unfold numeral? at found
  cases text with
  | nil => simp [Reading.startsWithDecimal] at found
  | cons character text =>
      split at found
      · rename_i starts
        simp only [Reading.startsWithDecimal] at starts
        have after : (takeGrouped (character :: text)).2 = (takeGrouped text).2 := by
          simp [takeGrouped, starts]
        simp only [Option.some.injEq, Prod.mk.injEq] at found
        rw [← found.2, after]
        exact (Leaves.cons character (takeGrouped_suffix text)).trans_suffix (takePlaces_suffix _)
      · simp at found

/-- A `k` right after a number multiplies it by a thousand, unless a word goes on with it. -/
def takeThousands (amount : Float) (text : List Char) : Float × List Char :=
  match text with
  | letter :: rest =>
      if (letter == 'k' || letter == 'K') && !startsWithWordCharacter rest then
        (amount * 1000, rest)
      else (amount, text)
  | [] => (amount, text)

theorem takeThousands_suffix (amount : Float) (text : List Char) :
    (takeThousands amount text).2 <:+ text := by
  unfold takeThousands
  split
  · split
    · exact List.suffix_cons _ _
    · exact List.suffix_refl _
  · exact List.suffix_refl _

/-! ## Units -/

/-- The currency that a single character stands for. -/
def currencySign? : Char → Option Currency
  | '$' => some .usd
  | '€' => some .eur
  | '£' => some .gbp
  | '¥' => some .jpy
  | '₹' => some .inr
  | '₩' => some .krw
  | _ => none

/-- The unit that a single character stands for: a currency, or percent. -/
def unitSign? (character : Char) : Option NamedUnit :=
  if character = '%' then some .percent else (currencySign? character).map .currency

/-- The numerator of a rate: a currency sign or a word that is no keyword. -/
def numerator? : List Char → Option (List Char × List Char)
  | [] => none
  | character :: rest =>
      if (currencySign? character).isSome then some ([character], rest)
      else (word? (character :: rest)).filter fun found => !isKeyword found.1

theorem numerator?_leaves {text numerator rest : List Char}
    (found : numerator? text = some (numerator, rest)) : Leaves text rest := by
  cases text with
  | nil => simp [numerator?] at found
  | cons character text =>
      simp only [numerator?] at found
      split at found
      · obtain ⟨-, rfl⟩ := Prod.mk.inj (Option.some.inj found)
        exact Leaves.cons _ (List.suffix_refl _)
      · exact word?_leaves (Option.filter_eq_some_iff.mp found).1

/-- The denominator of a rate: a slash and a word. -/
def denominator? (text : List Char) : Option (List Char × List Char) :=
  match skipInlineBlanks text with
  | '/' :: rest => word? (skipInlineBlanks rest)
  | _ => none

theorem denominator?_leaves {text denominator rest : List Char}
    (found : denominator? text = some (denominator, rest)) : Leaves text rest := by
  unfold denominator? at found
  split at found
  · rename_i slash
    refine Leaves.suffix_trans (skipInlineBlanks_suffix text) ?_
    rw [slash]
    exact Leaves.cons _
      ((word?_leaves found).1.trans (skipInlineBlanks_suffix _))
  · simp at found

/-- A rate: two unit words, or a currency sign and one, around a slash. -/
def rate? (text : List Char) : Option (Measure × List Char) :=
  (numerator? text).bind fun (numerator, rest) =>
    (denominator? rest).bind fun (denominator, rest) =>
      (Measure.ofWords? numerator denominator).map (·, rest)

theorem rate?_leaves {text rest : List Char} {measure : Measure}
    (found : rate? text = some (measure, rest)) : Leaves text rest := by
  obtain ⟨⟨numerator, afterNumerator⟩, top, found⟩ := Option.bind_eq_some_iff.mp found
  obtain ⟨⟨denominator, afterDenominator⟩, bottom, found⟩ := Option.bind_eq_some_iff.mp found
  obtain ⟨measure, -, same⟩ := Option.map_eq_some_iff.mp found
  obtain ⟨-, rfl⟩ := Prod.mk.inj same
  exact (numerator?_leaves top).trans (denominator?_leaves bottom)

/-- A single unit: a word, or a sign that stands for a unit. -/
def unit? (text : List Char) : Option (Measure × List Char) :=
  match word? text, text with
  | some (word, rest), _ =>
      if isKeyword word then none else (Measure.ofWord? word).map (·, rest)
  | none, sign :: rest => (unitSign? sign).map (Measure.single ·, rest)
  | none, [] => none

theorem unit?_leaves {text rest : List Char} {measure : Measure}
    (found : unit? text = some (measure, rest)) : Leaves text rest := by
  unfold unit? at found
  split at found
  · rename_i isWord
    split at found
    · simp at found
    · obtain ⟨measure, -, same⟩ := Option.map_eq_some_iff.mp found
      obtain ⟨-, rfl⟩ := Prod.mk.inj same
      exact word?_leaves isWord
  · obtain ⟨unit, -, same⟩ := Option.map_eq_some_iff.mp found
    obtain ⟨-, rfl⟩ := Prod.mk.inj same
    exact Leaves.cons _ (List.suffix_refl _)
  · simp at found

/-- The unit that belongs to the number before the text: a rate or a single unit, possibly after
blanks. -/
def attachedUnit? (text : List Char) : Option (Measure × List Char) :=
  (rate? (skipInlineBlanks text)).or (unit? (skipInlineBlanks text))

theorem attachedUnit?_leaves {text rest : List Char} {measure : Measure}
    (found : attachedUnit? text = some (measure, rest)) : Leaves text rest := by
  refine Leaves.suffix_trans (skipInlineBlanks_suffix text) ?_
  rcases Option.or_eq_some_iff.mp found with isRate | ⟨-, isUnit⟩
  · exact rate?_leaves isRate
  · exact unit?_leaves isUnit

/-! ## Amounts -/

/-- A number, with the unit that is attached to it if there is one. -/
def number? (text : List Char) : Option (Token.Kind × List Char) :=
  (numeral? text).map fun (amount, rest) =>
    let (amount, rest) := takeThousands amount rest
    match attachedUnit? rest with
    | some (measure, rest) => (.amount amount measure, rest)
    | none => (.number amount, rest)

theorem number?_leaves {text rest : List Char} {kind : Token.Kind}
    (found : number? text = some (kind, rest)) : Leaves text rest := by
  obtain ⟨⟨amount, after⟩, isNumeral, same⟩ := Option.map_eq_some_iff.mp found
  have leaves := (numeral?_leaves isNumeral).trans_suffix (takeThousands_suffix amount after)
  simp only at same
  split at same
  · rename_i isUnit
    obtain ⟨-, rfl⟩ := Prod.mk.inj same
    exact leaves.trans (attachedUnit?_leaves isUnit)
  · obtain ⟨-, rfl⟩ := Prod.mk.inj same
    exact leaves

/-- A slash and a unit word right after an amount of money turn it into a price. -/
def takePrice (sign : Char) (currency : Currency) (text : List Char) : Measure × List Char :=
  let price? :=
    match text with
    | '/' :: rest =>
        (word? rest).bind fun (word, rest) =>
          (Measure.ofWords? [sign] word).map (·, rest)
    | _ => none
  price?.getD (.single (.currency currency), text)

theorem takePrice_suffix (sign : Char) (currency : Currency) (text : List Char) :
    (takePrice sign currency text).2 <:+ text := by
  unfold takePrice
  split
  · rename_i rest
    cases found : ((word? rest).bind fun (word, rest) =>
        (Measure.ofWords? [sign] word).map (·, rest)) with
    | none => simp
    | some price =>
        obtain ⟨⟨word, after⟩, isWord, known⟩ := Option.bind_eq_some_iff.mp found
        obtain ⟨measure, -, rfl⟩ := Option.map_eq_some_iff.mp known
        exact (word?_leaves isWord).1.trans (List.suffix_cons _ _)
  · simp

/-- An amount of money: a currency sign and a number, and possibly what it is the price of. -/
def money? : List Char → Option (Token.Kind × List Char)
  | [] => none
  | sign :: text =>
      (currencySign? sign).bind fun currency =>
        (numeral? (skipInlineBlanks text)).map fun (amount, rest) =>
          let (amount, rest) := takeThousands amount rest
          let (measure, rest) := takePrice sign currency rest
          (.amount amount measure, rest)

theorem money?_leaves {text rest : List Char} {kind : Token.Kind}
    (found : money? text = some (kind, rest)) : Leaves text rest := by
  cases text with
  | nil => simp [money?] at found
  | cons sign text =>
      obtain ⟨currency, -, found⟩ := Option.bind_eq_some_iff.mp found
      obtain ⟨⟨amount, after⟩, isNumeral, same⟩ := Option.map_eq_some_iff.mp found
      obtain ⟨-, rfl⟩ := Prod.mk.inj same
      exact Leaves.cons _ <| (takePrice_suffix _ _ _).trans <|
        (takeThousands_suffix _ _).trans <|
          (numeral?_leaves isNumeral).1.trans (skipInlineBlanks_suffix text)

/-! ## Words and signs -/

/-- The function that a word names, in any case, if an opening parenthesis follows. -/
def function? (word rest : List Char) : Option NamedFunction :=
  if (rest.dropWhile isBlank).head? = some '(' then
    NamedFunction.all.find? fun function => function.name.toList == smallLetters word
  else none

/-- What a word that is no keyword stands for: a function, a rate that it starts, a unit, or a
variable. -/
def name? (text : List Char) : Option (Token.Kind × List Char) :=
  (word? text).map fun (word, rest) =>
    match function? word rest with
    | some function => (.call function, rest)
    | none =>
        match rate? text with
        | some (measure, rest) => (.amount 1 measure, rest)
        | none =>
            match Measure.ofWord? word with
            | some measure => (.amount 1 measure, rest)
            | none => (.identifier (String.ofList word), rest)

theorem name?_leaves {text rest : List Char} {kind : Token.Kind}
    (found : name? text = some (kind, rest)) : Leaves text rest := by
  obtain ⟨⟨word, after⟩, isWord, same⟩ := Option.map_eq_some_iff.mp found
  have leaves := word?_leaves isWord
  simp only at same
  split at same
  · obtain ⟨-, rfl⟩ := Prod.mk.inj same
    exact leaves
  · split at same
    · rename_i isRate
      obtain ⟨-, rfl⟩ := Prod.mk.inj same
      exact rate?_leaves isRate
    · split at same <;>
        (obtain ⟨-, rfl⟩ := Prod.mk.inj same
         exact leaves)

/-- The arithmetic operator, the parenthesis or the equals sign that a character is. -/
def sign? : Char → Option Token.Kind
  | '+' => some (.operator .plus)
  | '-' => some (.operator .minus)
  | '*' => some (.operator .times)
  | '/' => some (.operator .over)
  | '^' => some (.operator .power)
  | '=' => some .assign
  | '(' => some .openParenthesis
  | ')' => some .closeParenthesis
  | _ => none

/-- A sign that stands for a unit without a number before it, alone or as the numerator of a
rate. -/
def loneUnit? : List Char → Option (Token.Kind × List Char)
  | [] => none
  | sign :: text =>
      (unitSign? sign).map fun unit =>
        match rate? (sign :: text) with
        | some (measure, rest) => (.amount 1 measure, rest)
        | none => (.amount 1 (.single unit), text)

theorem loneUnit?_leaves {text rest : List Char} {kind : Token.Kind}
    (found : loneUnit? text = some (kind, rest)) : Leaves text rest := by
  cases text with
  | nil => simp [loneUnit?] at found
  | cons sign text =>
      obtain ⟨unit, -, same⟩ := Option.map_eq_some_iff.mp found
      split at same
      · rename_i isRate
        obtain ⟨-, rfl⟩ := Prod.mk.inj same
        exact rate?_leaves isRate
      · obtain ⟨-, rfl⟩ := Prod.mk.inj same
        exact Leaves.cons _ (List.suffix_refl _)

end Lexeme

end NoteCalc
