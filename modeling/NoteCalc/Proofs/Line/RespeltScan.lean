import NoteCalc.Proofs.Line.RespeltLexemes
import NoteCalc.Proofs.Line.ScanPieces

/-!
# Scanning a respelt line

A scan of a respelt line meets the pieces of the line one after the other, with the same forms; only
the references have their new spellings.
-/

namespace NoteCalc

open NoteCalc.Text Lexeme

namespace Respelling

variable {respelling : Respelling}

/-! ## Pieces that are no references -/

theorem reference?_text {before : List Char} (plain : reference? before = none) :
    reference? (respelling.text before) = none := by
  cases after : reference? (respelling.text before) with
  | none => rfl
  | some found =>
      obtain ⟨respelt, isWord, isReference⟩ := reference?_eq_some_iff.mp after
      rw [respelling.word?_text] at isWord
      obtain ⟨⟨found, rest⟩, isWordBefore, same⟩ := Option.map_eq_some_iff.mp isWord
      have noReference := referenceNumber?_of_plain plain isWordBefore
      obtain ⟨rfl, -⟩ := Prod.mk.inj same
      rw [respelling.word_of_not_reference noReference, noReference] at isReference
      exact absurd isReference (by simp)

/-- A piece that is no reference starts with the same character after the respelling. -/
theorem exists_text_cons {character : Char} {rest : List Char}
    (plain : reference? (character :: rest) = none) :
    ∃ after, respelling.text (character :: rest) = character :: after := by
  cases starts : startsWord character with
  | false => exact ⟨_, respelling.text_cons starts rest⟩
  | true =>
      have isWord := word?_of_startsWord starts rest
      rw [respelling.text_of_word? isWord,
        respelling.word_of_not_reference (referenceNumber?_of_plain plain isWord)]
      exact ⟨_, List.cons_append⟩

/-- A piece that is no reference is recognised alike after the respelling. -/
theorem recognise_text {character : Char} {rest after : List Char}
    (plain : reference? (character :: rest) = none)
    (respelt : respelling.text (character :: rest) = character :: after) :
    Scan.recognise character after =
      (Scan.recognise character rest).map fun found => (found.1, respelling.text found.2) := by
  -- The forms are tried in the same order before and after, and each of them commutes.
  have plainAfter := @reference?_text respelling _ plain
  have isKeyword := (@respects_keyword? respelling).commutes (character :: rest)
  have isMoney := (@respects_money? respelling).commutes (character :: rest)
  have isNumber := (@respects_number? respelling).commutes (character :: rest)
  have isUnit := (@respects_loneUnit? respelling).commutes (character :: rest)
  rw [respelt] at plainAfter isKeyword isMoney isNumber isUnit
  unfold Scan.recognise
  simp only [plain, plainAfter, isKeyword, isMoney, isNumber, isUnit]
  cases keyword? (character :: rest) with
  | some found => rfl
  | none =>
      cases money? (character :: rest) with
      | some found => rfl
      | none =>
          simp only [Option.map_none, Option.none_or]
          split
          · cases number? (character :: rest) <;> rfl
          · cases starts : startsWord character with
            | true =>
                have isWord := word?_of_startsWord starts rest
                have same := respelling.word_of_not_reference
                  (referenceNumber?_of_plain plain isWord)
                have isName := name?_text isWord same
                obtain ⟨named, isNamed⟩ := exists_name? isWord
                rw [respelt, isNamed] at isName
                simp [sign?_eq_none starts, isName, isNamed, Except.map]
            | false =>
                have sameRest : after = respelling.text rest := by
                  rw [respelling.text_cons starts] at respelt
                  exact (List.cons.inj respelt).2.symm
                simp only [name?_of_not_startsWord starts, sameRest]
                cases sign? character with
                | some kind => rfl
                | none => cases loneUnit? (character :: rest) <;> rfl

/-- A piece that is no reference is kept by the respelling. -/
theorem keeps_piece {character : Char} {rest left : List Char} {kind : Option Token.Kind}
    (plain : reference? (character :: rest) = none)
    (piece : Scan.Plain character rest kind left) :
    respelling.Keeps (character :: rest) left := by
  refine keeps_of_readsDown (piece.readsDown admits_unchanged fun word after isWord => ?_)
  exact respelling.word_of_not_reference (referenceNumber?_of_plain plain isWord)

/-! ## References -/

/-- What an inert word stands for where it is met as a token. -/
def kindOfInert (found : List Char) : Token.Kind :=
  match referenceNumber? found with
  | some written => .reference written
  | none => .identifier (String.ofList found)

theorem recognise_inert {character : Char} {rest found left : List Char} (inert : Inert found)
    (isWord : word? (character :: rest) = some (found, left))
    (noDigit : isDigitSign character = false) (short : found.length ≤ mostLineDigits + 4) :
    Scan.recognise character rest = .ok (some (kindOfInert found), left) := by
  have starts := startsWord_of_word? isWord
  unfold kindOfInert
  cases isReference : referenceNumber? found with
  | some written =>
      have digits : referenceDigits (character :: rest) left ≤ mostLineDigits := by
        rw [referenceDigits_of_word? isWord]
        exact Nat.sub_le_of_le_add short
      exact Scan.recognise_reference
        (reference?_eq_some_iff.mpr ⟨found, isWord, isReference⟩) digits
  | none =>
      have plain : reference? (character :: rest) = none := by
        cases isKnown : reference? (character :: rest) with
        | none => rfl
        | some known =>
            obtain ⟨other, isOther, isReferenceToo⟩ := reference?_eq_some_iff.mp isKnown
            rw [isWord] at isOther
            obtain ⟨rfl, -⟩ := Prod.mk.inj (Option.some.inj isOther)
            rw [isReference] at isReferenceToo
            exact absurd isReferenceToo (by simp)
      have noKeyword : keyword? (character :: rest) = none := by
        simp [keyword?, isWord, inert.noKeyword]
      have noMoney : money? (character :: rest) = none := by
        simp [money?, currencySign?_eq_none starts]
      have noRate : rate? (character :: rest) = none := by
        have noNumerator : numeratorMeasure? (character :: rest) = none := by
          rw [numeratorMeasure?_eq]
          cases keyword : isKeyword found <;>
            simp [numerator?, currencySign?_eq_none starts, isWord, keyword, Option.filter,
              inert.noMeasure]
        rw [rate?_eq]
        simp [Recogniser.andThen, noNumerator]
      have isName : name? (character :: rest) =
          some (.identifier (String.ofList found), left) := by
        unfold name?
        rw [isWord]
        simp [function?_of_inert inert, noRate, inert.noMeasure]
      unfold Scan.recognise
      simp [plain, noKeyword, noMoney, noDigit, sign?_eq_none starts, isName]

/-- What a token stands for in the respelt line. -/
def kind (respelling : Respelling) : Token.Kind → Token.Kind
  | .reference written =>
      ((respelling.spelling written).map fun text => kindOfInert text.toList).getD
        (.reference written)
  | kind => kind

theorem kind_of_ne_reference {kind : Token.Kind} (plain : ∀ written, kind ≠ .reference written) :
    respelling.kind kind = kind := by
  cases kind with
  | reference written => exact absurd rfl (plain written)
  | _ => rfl

theorem kindOfInert_word {found : List Char} {written : Nat}
    (isReference : referenceNumber? found = some written) :
    kindOfInert (respelling.word found) = respelling.kind (.reference written) := by
  rw [respelling.word_of_reference isReference, kind]
  cases respelling.spelling written with
  | none => simp [kindOfInert, isReference]
  | some text => rfl

theorem isDigitSign_word {found : List Char} {written : Nat}
    (isReference : referenceNumber? found = some written) :
    ∀ character ∈ (respelling.word found).head?, isDigitSign character = false := by
  rw [respelling.word_of_reference isReference]
  cases respelt : respelling.spelling written with
  | none =>
      obtain ⟨first, rest, rfl, head, -⟩ := exists_of_referenceNumber? isReference
      intro character isHead
      obtain rfl := Option.some.inj isHead
      rcases head with rfl | rfl <;> decide +kernel
  | some text => exact respelling.noDigit respelt

/-! ## Whole lines -/

/-- Whatever new spellings the references among tokens have, they have no more digits than the
number of a line may have. -/
def Short (respelling : Respelling) (tokens : List Token) : Prop :=
  ∀ token ∈ tokens, ∀ written, token.kind = .reference written →
    ∀ text, respelling.spelling written = some text → text.toList.length ≤ mostLineDigits + 4

theorem Short.mono {tokens others : List Token} (short : respelling.Short tokens)
    (among : others ⊆ tokens) : respelling.Short others :=
  fun token member => short token (among member)

/-- A reference that is read has a new spelling that can be read. -/
theorem length_word_le {found : List Char} {written : Nat}
    (isReference : referenceNumber? found = some written)
    (digits : found.length - 4 ≤ mostLineDigits)
    (short : ∀ text, respelling.spelling written = some text →
      text.toList.length ≤ mostLineDigits + 4) :
    (respelling.word found).length ≤ mostLineDigits + 4 := by
  rw [respelling.word_of_reference isReference]
  cases respelt : respelling.spelling written with
  | none => exact Nat.le_add_of_sub_le digits
  | some text => exact short text respelt

/-- A respelt line is cut like the line itself, and its tokens are the respelt tokens. -/
theorem cuts_text {length : Nat} {before : List Char} {scanned : Scan}
    (cuts : Scan.Cuts length before scanned) (short : respelling.Short scanned.tokens)
    (newLength : Nat) :
    ∃ rescanned, Scan.Cuts newLength (respelling.text before) rescanned ∧
      rescanned.tokens.map Token.kind =
        scanned.tokens.map fun token => respelling.kind token.kind := by
  induction cuts with
  | done =>
      rw [text_nil]
      exact ⟨{}, .done, rfl⟩
  | @blank character rest scanned blank _ induction =>
      obtain ⟨rescanned, cutsAfter, kinds⟩ := induction short
      have outside := startsWord_of_not_isWordCharacter (isWordCharacter_of_isBlank blank)
      rw [respelling.text_cons outside]
      exact ⟨rescanned, .blank blank cutsAfter, kinds⟩
  | @piece character rest left kind later notBlank found _ induction =>
      obtain ⟨rescanned, cutsAfter, kinds⟩ :=
        induction (short.mono (List.subset_append_right ..))
      rcases Scan.recognise_cases found with ⟨written, rfl, isReference, digits⟩ | ⟨isPlain, piece⟩
      · obtain ⟨word, isWord, isNumber⟩ := reference?_eq_some_iff.mp isReference
        have isWordAfter := respelling.word?_text (character :: rest)
        rw [isWord, Option.map_some] at isWordAfter
        -- The new spelling is an inert word as well, so that it is a piece of its own.
        have inert := respelling.inert_word isNumber
        rw [referenceDigits_of_word? isWord] at digits
        have shortAfter := length_word_le isNumber digits
          (short _ (List.mem_append_left _ (List.mem_singleton_self _)) written rfl)
        obtain ⟨first, others, spelled, starts, -⟩ := inert.isWord
        have respelt : respelling.text (character :: rest) =
            first :: (others ++ respelling.text left) := by
          rw [respelling.text_of_word? isWord, spelled, List.cons_append]
        have noDigit := isDigitSign_word isNumber first (by rw [spelled]; rfl)
        rw [respelt] at isWordAfter ⊢
        have foundAfter := recognise_inert inert isWordAfter noDigit shortAfter
        refine ⟨_, .piece (isBlank_eq_false starts) foundAfter cutsAfter, ?_⟩
        simp [Scan.extend, Scan.token?, kinds, kindOfInert_word isNumber]
      · obtain ⟨after, respelt⟩ := @exists_text_cons respelling _ _ isPlain
        have foundAfter := recognise_text isPlain respelt
        rw [found] at foundAfter
        rw [respelt]
        refine ⟨_, .piece notBlank foundAfter cutsAfter, ?_⟩
        cases kind with
        | none => exact kinds
        | some kind =>
            have plain := piece.ne_reference
            simp [Scan.extend, Scan.token?, kinds, kind_of_ne_reference plain]

end Respelling

end NoteCalc
