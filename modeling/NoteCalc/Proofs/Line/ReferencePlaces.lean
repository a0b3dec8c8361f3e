import NoteCalc.Line.Highlight
import NoteCalc.Proofs.Line.ReferenceWords
import NoteCalc.Proofs.Line.WholeWords

/-!
# Where the references of a line stand

The references of a line are the words of the line that are references.  A scan finds them as
tokens, and highlighting finds them as coloured spans; neither of the two begins or ends inside a
word, so both find them all, at the same places.
-/

namespace NoteCalc

open NoteCalc.Text Lexeme

namespace Token

/-- The number that is written in a reference. -/
def written? (token : Token) : Option Nat :=
  match token.kind with
  | .reference written => some written
  | _ => none

theorem written?_eq_some_iff {token : Token} {written : Nat} :
    token.written? = some written ↔ token.kind = .reference written := by
  unfold written?
  split
  · rename_i number kind
    rw [kind, Option.some.injEq, Kind.reference.injEq]
  · rename_i other
    exact iff_of_false (by simp) (other written)

/-- Whether a token is a reference. -/
def isReference (token : Token) : Bool :=
  token.written?.isSome

theorem isReference_iff {token : Token} :
    token.isReference = true ↔ ∃ written, token.kind = .reference written := by
  rw [isReference, Option.isSome_iff_exists]
  exact exists_congr fun _ => written?_eq_some_iff

end Token

/-- Every reference of a line has a property, which may depend on the number that is written. -/
def EveryReference (property : Token → Nat → Prop) (line : String) : Prop :=
  ∀ scanned, scan line = .ok scanned → ∀ token ∈ scanned.tokens, ∀ written,
    token.kind = .reference written → property token written

instance (property : Token → Nat → Prop) [∀ token written, Decidable (property token written)]
    (line : String) : Decidable (EveryReference property line) :=
  match known : scan line with
  | .error _ => isTrue fun _ isScan => absurd (known.symm.trans isScan) (by simp)
  | .ok scanned =>
      decidable_of_iff
        (∀ token ∈ scanned.tokens, ∀ written ∈ token.written?, property token written)
        ⟨fun every found isScan token member written kind =>
            every token (Except.ok.inj (known.symm.trans isScan) ▸ member) written
              (Token.written?_eq_some_iff.mpr kind),
          fun every token member written isWritten =>
            every scanned known token member written (Token.written?_eq_some_iff.mp isWritten)⟩

/-- The references among the words that are left of a line of a given length. -/
def referencesLeft (length : Nat) : List Char → List Token
  | [] => []
  | character :: rest =>
      match _found : word? (character :: rest) with
      | some (word, left) =>
          let token? := (referenceNumber? word).map fun written =>
            (⟨.reference written, String.ofList word,
              Scan.spanBetween length (character :: rest) left⟩ : Token)
          token?.toList ++ referencesLeft length left
      | none => referencesLeft length rest
termination_by text => text.length
decreasing_by
  · exact (word?_leaves ‹_›).2
  · simp

section References

variable {length : Nat} {character : Char} {text rest word : List Char} {written : Nat}

theorem referencesLeft_nil : referencesLeft length [] = [] := by
  rw [referencesLeft]

theorem referencesLeft_cons (outside : startsWord character = false) :
    referencesLeft length (character :: text) = referencesLeft length text := by
  rw [referencesLeft]
  split
  · rename_i isWord
    rw [word?_of_not_startsWord outside] at isWord
    exact absurd isWord (by simp)
  · rfl

theorem referencesLeft_of_word? (isWord : word? text = some (word, rest)) :
    referencesLeft length text =
      ((referenceNumber? word).map fun written =>
        (⟨.reference written, String.ofList word, Scan.spanBetween length text rest⟩ :
          Token)).toList ++ referencesLeft length rest := by
  cases text with
  | nil => simp [word?] at isWord
  | cons character text =>
      rw [referencesLeft]
      split
      · rename_i isWord'
        rw [isWord] at isWord'
        obtain ⟨rfl, rfl⟩ := Prod.mk.inj (Option.some.inj isWord')
        rfl
      · rename_i noWord
        rw [isWord] at noWord
        exact absurd noWord (by simp)

/-- What is read down without a reference has no part in the references that are left. -/
theorem referencesLeft_of_readsDown
    (reads : ReadsDown (fun word => referenceNumber? word = none) text rest) :
    referencesLeft length text = referencesLeft length rest := by
  induction reads with
  | refl => rfl
  | cons outside _ induction => rw [referencesLeft_cons outside, induction]
  | word isWord plain _ induction =>
      rw [referencesLeft_of_word? isWord, plain, induction]
      rfl

/-! ## Scanning -/

/-- Words that mean something else are no references. -/
theorem admits_noReference : Admits fun word => referenceNumber? word = none where
  keyword := fun isKeyword => Option.eq_none_iff_forall_ne_some.mpr fun written isReference => by
    rw [(inert_of_referenceNumber? isReference).noKeyword] at isKeyword
    exact absurd isKeyword (by simp)
  unit := fun isUnit => Option.eq_none_iff_forall_ne_some.mpr fun written isReference => by
    rw [(inert_of_referenceNumber? isReference).noMeasure] at isUnit
    exact absurd isUnit (by simp)
  thousands := ⟨rfl, rfl⟩

/-- The references that a scan finds are the words that are references. -/
theorem Scan.Cuts.references {scanned : Scan} (cuts : Scan.Cuts length text scanned) :
    scanned.tokens.filter Token.isReference = referencesLeft length text := by
  induction cuts with
  | done =>
      rw [referencesLeft_nil]
      rfl
  | blank blank _ induction =>
      have outside := startsWord_of_not_isWordCharacter (isWordCharacter_of_isBlank blank)
      rw [referencesLeft_cons outside, induction]
  | @piece character text left kind later _ found _ induction =>
      simp only [Scan.extend, List.filter_append, induction]
      rcases Scan.recognise_cases found with ⟨written, rfl, isReference, -⟩ | ⟨plain, piece⟩
      · obtain ⟨word, isWord, isNumber⟩ := reference?_eq_some_iff.mp isReference
        have lexeme : (character :: text).take ((character :: text).length - left.length) =
            word := by
          rw [← word?_append isWord, List.length_append, Nat.add_sub_cancel, List.take_left]
        rw [referencesLeft_of_word? isWord, isNumber, Scan.token?, lexeme]
        rfl
      · have reads := piece.readsDown admits_noReference fun word after isWord =>
          referenceNumber?_of_plain plain isWord
        rw [referencesLeft_of_readsDown reads]
        cases kind with
        | none => rfl
        | some kind =>
            simp only [Scan.token?, Option.map_some, Option.toList_some, List.filter_cons,
              List.filter_nil]
            rw [if_neg]
            · rfl
            · intro isReference
              obtain ⟨written, isKind⟩ := Token.isReference_iff.mp isReference
              exact piece.ne_reference written isKind

/-- The references that a scan finds have numbers with not too many digits. -/
theorem Scan.Cuts.written_lt {scanned : Scan} (cuts : Scan.Cuts length text scanned)
    {token : Token} (member : token ∈ scanned.tokens) (kind : token.kind = .reference written) :
    written < 10 ^ mostLineDigits := by
  induction cuts with
  | done => exact absurd member List.not_mem_nil
  | blank _ _ induction => exact induction member
  | @piece character text left found later _ recognised _ induction =>
      rcases List.mem_append.mp member with isFirst | isLater
      · rcases Scan.recognise_cases recognised with ⟨number, rfl, isReference, short⟩ | ⟨-, piece⟩
        · obtain rfl := List.mem_singleton.mp isFirst
          obtain rfl := Token.Kind.reference.inj kind
          exact written_lt_of_reference? isReference short
        · cases found with
          | none => exact absurd isFirst List.not_mem_nil
          | some found =>
              obtain rfl := List.mem_singleton.mp isFirst
              exact absurd kind (piece.ne_reference written)
      · exact induction isLater

end References

/-! ## Highlighting -/

namespace Highlight

/-- The spans that are coloured as references, each with the place where it starts if the first span
starts at a given place. -/
def referencePlaces (place : Nat) : List HighlightedSpan → List (Nat × List Char)
  | [] => []
  | span :: spans =>
      let later := referencePlaces (place + span.text.length) spans
      if span.highlight = .reference then (place, span.text) :: later else later

variable {isVariable : String → Bool} {character : Char} {text word rest : List Char}

/-- A word is coloured as a reference exactly if it is one. -/
theorem ofWord_eq_reference_iff (isWord : IsWord word) :
    ofWord isVariable word = .reference ↔ (referenceNumber? word).isSome = true := by
  have whole : word? word = some (word, []) :=
    word?_eq_some_iff.mpr ⟨(List.append_nil word).symm, isWord, rfl⟩
  have same : ((reference? word).any fun found => found.2.isEmpty) = true ↔
      (referenceNumber? word).isSome = true := by
    rw [Option.any_eq_true]
    constructor
    · rintro ⟨⟨written, left⟩, isReference, -⟩
      obtain ⟨found, isFound, isNumber⟩ := reference?_eq_some_iff.mp isReference
      rw [whole, Option.some.injEq, Prod.mk.injEq] at isFound
      rw [isFound.1, isNumber]
      rfl
    · intro isReference
      obtain ⟨written, isNumber⟩ := Option.isSome_iff_exists.mp isReference
      exact ⟨(written, []), reference?_eq_some_iff.mpr ⟨word, whole, isNumber⟩, rfl⟩
  rw [← same]
  unfold ofWord
  simp only
  constructor
  · intro isReference
    by_contra plain
    rw [if_neg plain] at isReference
    split_ifs at isReference
  · exact fun isReference => if_pos isReference

theorem ofCharacter_ne_reference (character : Char) : ofCharacter character ≠ .reference := by
  unfold ofCharacter
  split_ifs <;> exact Highlight.noConfusion

theorem belongsToNumber_eq_false (starts : startsWord character = true) :
    belongsToNumber character = false := by
  have noPoint : character ≠ '.' := by
    rintro rfl
    exact absurd (by decide) (not_mem_signs starts)
  have noComma : character ≠ ',' := by
    rintro rfl
    exact absurd (by decide) (not_mem_signs starts)
  simp [belongsToNumber, isDecimal_eq_false starts, noPoint, noComma]

/-- A coloured number has no word in it. -/
theorem readsDown_number? {allowed : List Char → Prop} {digits : List Char}
    (isNumber : number? text = some (digits, rest)) : ReadsDown allowed text rest := by
  cases text with
  | nil => exact absurd isNumber (by simp [number?])
  | cons character text =>
      simp only [number?] at isNumber
      split at isNumber
      · obtain ⟨-, rfl⟩ := Prod.mk.inj (Option.some.inj isNumber)
        exact .dropWhile belongsToNumber_eq_false _
      · exact absurd isNumber (by simp)

/-- The first span is a word that is a reference, or it has no reference in it. -/
theorem next_cases {found : HighlightedSpan × List Char}
    (isNext : next isVariable character text = found) :
    (∃ word written, word? (character :: text) = some (word, found.2) ∧
      referenceNumber? word = some written ∧ found.1 = ⟨word, .reference⟩) ∨
    (found.1.highlight ≠ .reference ∧
      ReadsDown (fun word => referenceNumber? word = none) (character :: text) found.2) := by
  subst isNext
  unfold next
  cases isWord : word? (character :: text) with
  | some found =>
      obtain ⟨word, left⟩ := found
      have colour := @ofWord_eq_reference_iff isVariable _ (word?_eq_some_iff.mp isWord).2.1
      cases isNumber : referenceNumber? word with
      | some written =>
          rw [isNumber] at colour
          exact .inl ⟨word, written, rfl, isNumber, by simp [colour.mpr rfl]⟩
      | none =>
          rw [isNumber] at colour
          exact .inr ⟨mt colour.mp (by simp), .word isWord isNumber (.refl left)⟩
  | none =>
      refine .inr ?_
      cases isNumber : number? (character :: text) with
      | some found => exact ⟨Highlight.noConfusion, readsDown_number? isNumber⟩
      | none =>
          refine ⟨ofCharacter_ne_reference character, ?_⟩
          exact .cons (startsWord_eq_false isWord) (.refl text)

/-- The spans that are coloured as references are the words that are references. -/
theorem referencePlaces_spans {length place : Nat} (fits : place + text.length = length) :
    referencePlaces place (spans isVariable text) =
      (referencesLeft length text).map fun token => (token.span.start, token.lexeme.toList) := by
  fun_induction spans isVariable text generalizing place with
  | case1 =>
      rw [referencesLeft_nil]
      rfl
  | case2 character text found =>
      rename_i induction
      have sizes : found.1.text.length + found.2.length = (character :: text).length :=
        List.length_append.symm.trans
          (congrArg List.length (next_append isVariable character text).1)
      have fitsLater : place + found.1.text.length + found.2.length = length := by omega
      rw [referencePlaces, induction fitsLater]
      rcases next_cases (rfl : next isVariable character text = found) with
        ⟨word, written, isWord, isNumber, isSpan⟩ | ⟨plain, reads⟩
      · have start : length - (character :: text).length = place := by omega
        rw [referencesLeft_of_word? isWord, isNumber, isSpan, if_pos rfl]
        simp only [Scan.spanBetween, start, Option.map_some, Option.toList_some,
          List.singleton_append, List.map_cons, String.toList_ofList]
        rfl
      · rw [referencesLeft_of_readsDown reads]
        exact if_neg plain

end Highlight

/-- Highlighting and scanning agree on references: the spans that are coloured as references are
the tokens that are references, at the same places and with the same texts. -/
theorem referencePlaces_highlight {line : String} {scanned : Scan}
    (isScan : scan line = .ok scanned) (isVariable : String → Bool) :
    Highlight.referencePlaces 0 (highlight isVariable line) =
      (scanned.tokens.filter Token.isReference).map fun token =>
        (token.span.start, token.lexeme.toList) := by
  rw [(Scan.scan_eq_ok_iff.mp isScan).references]
  exact Highlight.referencePlaces_spans (Nat.zero_add _)

/-- A reference after a unit, and one that runs into a point. -/
theorem referencePlaces_highlight_mixed :
    ∃ scanned, scan "5k GiB/line3 + LINE2.5" = .ok scanned ∧
      Highlight.referencePlaces 0 (highlight (fun _ => false) "5k GiB/line3 + LINE2.5") =
        [(7, "line3".toList), (15, "LINE2".toList)] := by
  have isScan := Scan.scan_eq_ok_iff.mpr
    (.piece (by decide +kernel) rfl
      (.piece (by decide +kernel) rfl
        (.piece (by decide +kernel) rfl
          (.blank (by decide +kernel)
            (.piece (by decide +kernel) rfl
              (.blank (by decide +kernel)
                (.piece (by decide +kernel) rfl
                  (.piece (by decide +kernel) rfl
                    (.piece (by decide +kernel) rfl .done)))))))) :
      Scan.Cuts "5k GiB/line3 + LINE2.5".toList.length "5k GiB/line3 + LINE2.5".toList _)
  exact ⟨_, isScan, (referencePlaces_highlight isScan fun _ => false).trans rfl⟩

end NoteCalc
