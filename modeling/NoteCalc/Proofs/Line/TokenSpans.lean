import NoteCalc.Line.Structure
import NoteCalc.Proofs.Line.ScanPieces

/-!
# Where the tokens of a line stand

The pieces of a line follow one another without gaps, so every character belongs to a token, is
blank, or is skipped.  A skipped character is an ordinary punctuation mark, or it is warned about.
All facts are about what is left of a line after a part of it has been scanned; they hold of the
line when nothing has been scanned yet.
-/

namespace NoteCalc

open NoteCalc.Text

/-- The characters of a line in a span. -/
def Span.within (span : Span) (source : List Char) : List Char :=
  (source.drop span.start).take (span.stop - span.start)

/-- A token stands in a line: its span is not empty, lies in the line and holds the lexeme. -/
structure Token.StandsIn (source : List Char) (token : Token) : Prop where
  nonempty : token.span.start < token.span.stop
  inside : token.span.stop ≤ source.length
  lexeme : token.lexeme.toList = token.span.within source

/-- Whether a warning says that the character at a place is skipped. -/
def LineWarning.isSkipAt (place : Nat) (warning : LineWarning) : Bool :=
  warning.diagnostic.code = "L004" ∧ warning.diagnostic.span = some ⟨place, place + 1⟩

namespace Scan

/-- No token stands at a place. -/
def Uncovered (scanned : Scan) (place : Nat) : Prop :=
  ∀ token ∈ scanned.tokens, place < token.span.start ∨ token.span.stop ≤ place

/-- A warning about a skipped character is about a single character that no token stands on and
that is neither blank nor an ordinary punctuation mark. -/
structure SkipsAt (source : List Char) (scanned : Scan) (warning : LineWarning) (place : Nat)
    (character : Char) : Prop where
  warned : warning = .skippedCharacter character ⟨place, place + 1⟩
  stands : source[place]? = some character
  notBlank : isBlank character = false
  notPunctuation : punctuation.contains character = false
  uncovered : scanned.Uncovered place

/-! ## One piece -/

variable {source before text left lexeme : List Char} {character : Char} {length place : Nat}
  {kind : Option Token.Kind} {scanned later : Scan} {token : Token} {warning : LineWarning}

theorem mem_tokens_extend {first : Option Token} {note : Option LineWarning} :
    token ∈ (extend first note later).tokens ↔ first = some token ∨ token ∈ later.tokens := by
  simp [extend]

theorem mem_warnings_extend {first : Option Token} {note : Option LineWarning} :
    warning ∈ (extend first note later).warnings ↔
      note = some warning ∨ warning ∈ later.warnings := by
  simp [extend]

/-- A character is skipped alone. -/
theorem recognise_eq_none (found : recognise character text = .ok (none, left)) :
    left = text := by
  rcases recognise_cases found with ⟨written, isNone, -⟩ | ⟨-, plain⟩
  · exact absurd isNone (by simp)
  · cases plain
    rfl

/-- Only a skipped character that is no punctuation mark is warned about as such. -/
theorem warning?_of_skip
    (warned : warning? length character kind before left = some warning)
    (isSkip : warning.diagnostic.code = "L004") :
    kind = none ∧ punctuation.contains character = false ∧
      warning = .skippedCharacter character (spanBetween length before left) := by
  unfold warning? at warned
  split at warned
  · split at warned
    · exact absurd warned (by simp)
    · rename_i unusual
      exact ⟨rfl, by simpa using unusual, (Option.some.inj warned).symm⟩
  · -- The other warning has a code of its own.
    obtain ⟨⟨word, rest⟩, -, misspelt⟩ := Option.bind_eq_some_iff.mp warned
    simp only [Option.ite_none_right_eq_some, Option.some.injEq] at misspelt
    rw [← misspelt.2] at isSkip
    exact absurd (show "L005" = "L004" from isSkip) (by decide)
  · exact absurd warned (by simp)

theorem spanBetween_append (whole : before ++ (lexeme ++ left) = source) :
    spanBetween source.length (lexeme ++ left) left =
      ⟨before.length, before.length + lexeme.length⟩ := by
  rw [← whole]
  simp only [spanBetween, List.length_append, Span.mk.injEq]
  omega

/-- The token for a piece starts where the piece starts, and holds all of it. -/
theorem standsIn_of_token? (whole : before ++ (lexeme ++ left) = source) (nonempty : lexeme ≠ [])
    (isToken : token? source.length (lexeme ++ left) left kind = some token) :
    token.span = ⟨before.length, before.length + lexeme.length⟩ ∧ token.StandsIn source := by
  obtain ⟨known, -, rfl⟩ := Option.map_eq_some_iff.mp isToken
  have positive := List.length_pos_iff.mpr nonempty
  have span := spanBetween_append whole
  refine ⟨span, ?_, ?_, ?_⟩
  · simp only [span]
    omega
  · simp only [span]
    rw [← whole]
    simp only [List.length_append]
    omega
  · simp only [span, Span.within, String.toList_ofList]
    rw [← whole]
    simp

/-! ## All pieces -/

/-- Every token stands in the line, behind what has been scanned before. -/
theorem Cuts.standsIn (cuts : Cuts source.length text scanned) (whole : before ++ text = source) :
    ∀ token ∈ scanned.tokens, before.length ≤ token.span.start ∧ token.StandsIn source := by
  induction cuts generalizing before with
  | done => simp
  | @blank character text scanned _ _ induction =>
      intro token member
      obtain ⟨behind, stands⟩ :=
        @induction (before ++ [character]) (by simpa using whole) token member
      rw [List.length_append] at behind
      exact ⟨Nat.le_of_add_right_le behind, stands⟩
  | @piece character text left kind later _ found _ induction =>
      obtain ⟨lexeme, nonempty, split⟩ := (recognise_leaves found).exists_lexeme
      rw [← split] at whole
      intro token member
      rcases mem_tokens_extend.mp member with isHead | isLater
      · rw [← split] at isHead
        obtain ⟨span, stands⟩ := standsIn_of_token? whole nonempty isHead
        rw [span]
        exact ⟨Nat.le_refl _, stands⟩
      · obtain ⟨behind, stands⟩ :=
          @induction (before ++ lexeme) (by simpa using whole) token isLater
        rw [List.length_append] at behind
        exact ⟨Nat.le_of_add_right_le behind, stands⟩

/-- The tokens stand one behind the other. -/
theorem Cuts.ordered (cuts : Cuts source.length text scanned) (whole : before ++ text = source) :
    scanned.tokens.Pairwise fun first second => first.span.stop ≤ second.span.start := by
  induction cuts generalizing before with
  | done => exact List.Pairwise.nil
  | @blank character text scanned _ _ induction =>
      exact @induction (before ++ [character]) (by simpa using whole)
  | @piece character text left kind later _ found rest induction =>
      obtain ⟨lexeme, nonempty, split⟩ := (recognise_leaves found).exists_lexeme
      rw [← split] at whole
      have wholeLater : (before ++ lexeme) ++ left = source := by simpa using whole
      have tail := induction wholeLater
      refine List.pairwise_append.mpr ⟨?_, tail, ?_⟩
      · cases kind <;> simp [token?]
      · intro token isHead other isLater
        rw [← split, Option.mem_toList] at isHead
        obtain ⟨span, -⟩ := standsIn_of_token? whole nonempty isHead
        obtain ⟨behind, -⟩ := rest.standsIn wholeLater other isLater
        rw [List.length_append] at behind
        rw [span]
        exact behind

/-- Every warning about a skipped character is about a character of its own, behind what has been
scanned before. -/
theorem Cuts.exists_skipsAt (cuts : Cuts source.length text scanned)
    (whole : before ++ text = source) :
    ∀ warning ∈ scanned.warnings, warning.diagnostic.code = "L004" →
      ∃ place character, before.length ≤ place ∧
        SkipsAt source scanned warning place character := by
  induction cuts generalizing before with
  | done => simp
  | @blank character text scanned _ _ induction =>
      intro warning member isSkip
      obtain ⟨place, skipped, behind, skips⟩ :=
        @induction (before ++ [character]) (by simpa using whole) warning member isSkip
      rw [List.length_append] at behind
      exact ⟨place, skipped, Nat.le_of_add_right_le behind, skips⟩
  | @piece character text left kind later notBlank found rest induction =>
      obtain ⟨lexeme, nonempty, split⟩ := (recognise_leaves found).exists_lexeme
      have wholeLater : (before ++ lexeme) ++ left = source := by
        rw [List.append_assoc, split]
        exact whole
      intro warning member isSkip
      rcases mem_warnings_extend.mp member with isHead | isLater
      · obtain ⟨rfl, unusual, warned⟩ := warning?_of_skip isHead isSkip
        have same := recognise_eq_none found
        subst same
        have single : lexeme = [character] := List.append_cancel_right split
        rw [single] at wholeLater
        have span := @spanBetween_append _ _ _ [character] whole
        refine ⟨before.length, character, Nat.le_refl _, ?_, ?_, notBlank, unusual, ?_⟩
        · rw [warned]
          exact congrArg (LineWarning.skippedCharacter character) span
        · rw [← whole]
          simp
        · intro token isToken
          rcases mem_tokens_extend.mp isToken with isHead | isLater
          · exact absurd isHead (by simp [token?])
          · obtain ⟨behind, -⟩ := rest.standsIn wholeLater token isLater
            rw [List.length_append, List.length_singleton] at behind
            exact .inl behind
      · obtain ⟨place, skipped, behind, skips⟩ := induction wholeLater warning isLater isSkip
        rw [List.length_append] at behind
        refine ⟨place, skipped, Nat.le_of_add_right_le behind, { skips with uncovered := ?_ }⟩
        intro token isToken
        rcases mem_tokens_extend.mp isToken with isHead | isLater
        · rw [← split] at isHead whole
          obtain ⟨span, -⟩ := standsIn_of_token? whole nonempty isHead
          rw [span]
          exact .inr behind
        · exact skips.uncovered token isLater

/-- Nothing behind a place is a warning about the character there. -/
theorem Cuts.countP_isSkipAt_eq_zero (cuts : Cuts source.length text scanned)
    (whole : before ++ text = source) (isBefore : place < before.length) :
    scanned.warnings.countP (LineWarning.isSkipAt place) = 0 := by
  rw [List.countP_eq_zero]
  intro warning member isHere
  obtain ⟨isSkip, span⟩ := of_decide_eq_true isHere
  obtain ⟨found, character, behind, skips⟩ := cuts.exists_skipsAt whole warning member isSkip
  rw [skips.warned] at span
  have same : found = place := (Span.mk.inj (Option.some.inj span)).1
  omega

/-- A piece that starts before a place has no warning about the character there. -/
theorem countP_warning?_eq_zero (whole : before ++ (lexeme ++ left) = source)
    (behind : before.length < place) :
    (warning? source.length character kind (lexeme ++ left) left).toList.countP
      (LineWarning.isSkipAt place) = 0 := by
  rw [List.countP_eq_zero]
  intro warning member isHere
  obtain ⟨isSkip, span⟩ := of_decide_eq_true isHere
  obtain ⟨-, -, warned⟩ := warning?_of_skip (Option.mem_toList.mp member) isSkip
  rw [warned, spanBetween_append whole] at span
  have same : before.length = place := (Span.mk.inj (Option.some.inj span)).1
  omega

/-- A character of a piece that no token stands on is skipped: it is a punctuation mark, or it is
warned about once. -/
theorem accounted_of_piece (found : recognise character text = .ok (kind, left))
    (rest : Cuts source.length left later) (whole : before ++ character :: text = source)
    (behind : before.length ≤ place) (inside : place < source.length - left.length)
    (uncovered : (extend (token? source.length (character :: text) left kind)
      (warning? source.length character kind (character :: text) left) later).Uncovered place) :
    source[place]? = some character ∧ (punctuation.contains character = true ∨
      (extend (token? source.length (character :: text) left kind)
        (warning? source.length character kind (character :: text) left) later).warnings.countP
          (LineWarning.isSkipAt place) = 1) := by
  cases kind with
  | some kind =>
      have outside := uncovered _ (mem_tokens_extend.mpr (.inl rfl))
      simp only [spanBetween] at outside
      rw [← whole, List.length_append] at outside inside
      omega
  | none =>
      obtain rfl := recognise_eq_none found
      have here : place = before.length := by
        rw [← whole, List.length_append, List.length_cons] at inside
        omega
      subst here
      have wholeLater : (before ++ [character]) ++ left = source := by simpa using whole
      have isBefore : before.length < (before ++ [character]).length := by simp
      have none := rest.countP_isSkipAt_eq_zero wholeLater isBefore
      have span := @spanBetween_append _ _ _ [character] whole
      refine ⟨by simp [← whole], ?_⟩
      cases isMark : punctuation.contains character with
      | true => exact .inl rfl
      | false =>
          right
          rw [List.singleton_append] at span
          have warned : warning? source.length character Option.none (character :: left) left =
              some (.skippedCharacter character ⟨before.length, before.length + 1⟩) := by
            simp only [warning?, isMark, span, List.length_singleton]
            rfl
          rw [extend, List.countP_append, none, warned]
          simp [LineWarning.isSkipAt, LineWarning.diagnostic]

/-- A character that no token stands on is blank, a punctuation mark, or warned about once. -/
theorem Cuts.accounted (cuts : Cuts source.length text scanned) (whole : before ++ text = source)
    (behind : before.length ≤ place) (stands : source[place]? = some character)
    (uncovered : scanned.Uncovered place) :
    isBlank character = true ∨ punctuation.contains character = true ∨
      scanned.warnings.countP (LineWarning.isSkipAt place) = 1 := by
  induction cuts generalizing before with
  | done =>
      rw [← whole, List.append_nil, List.getElem?_eq_none behind] at stands
      exact absurd stands (by simp)
  | @blank first text scanned blank _ induction =>
      rcases Nat.eq_or_lt_of_le behind with here | further
      · rw [← whole, ← here] at stands
        obtain rfl : first = character := by simpa using stands
        exact .inl blank
      · refine @induction (before ++ [first]) (by simpa using whole) ?_ uncovered
        rw [List.length_append]
        exact further
  | @piece first text left kind later _ found rest induction =>
      obtain ⟨lexeme, nonempty, split⟩ := (recognise_leaves found).exists_lexeme
      have positive := List.length_pos_iff.mpr nonempty
      have wholeLater : (before ++ lexeme) ++ left = source := by
        rw [List.append_assoc, split]
        exact whole
      rcases Nat.lt_or_ge place (source.length - left.length) with inside | further
      · obtain ⟨here, skipped⟩ := accounted_of_piece found rest whole behind inside uncovered
        obtain rfl := Option.some.inj (here.symm.trans stands)
        exact .inr skipped
      · rw [← wholeLater, List.length_append, Nat.add_sub_cancel] at further
        have isBehind : before.length < place := by
          rw [List.length_append] at further
          omega
        have wholePiece : before ++ (lexeme ++ left) = source := split.symm ▸ whole
        have silent := @countP_warning?_eq_zero _ _ _ _ first _ kind wholePiece isBehind
        rw [split] at silent
        rw [extend, List.countP_append, silent, Nat.zero_add]
        exact induction wholeLater further fun token member =>
          uncovered token (mem_tokens_extend.mpr (.inr member))

/-! ## The whole line -/

/-- A line consists of its tokens, which stand one behind the other, and of characters that are
blank, punctuation marks, or warned about once each. -/
structure Partitions (source : List Char) (scanned : Scan) : Prop where
  standsIn : ∀ token ∈ scanned.tokens, token.StandsIn source
  ordered : scanned.tokens.Pairwise fun first second => first.span.stop ≤ second.span.start
  accounted : ∀ place character, source[place]? = some character → scanned.Uncovered place →
    isBlank character = true ∨ punctuation.contains character = true ∨
      scanned.warnings.countP (LineWarning.isSkipAt place) = 1
  skips : ∀ warning ∈ scanned.warnings, warning.diagnostic.code = "L004" →
    ∃ place character, SkipsAt source scanned warning place character

/-- A scan partitions its line, whether the line is refused or not. -/
theorem partitions_of_scan {line : String} {scanned : Scan} (isScan : scan line = .ok scanned) :
    scanned.Partitions line.toList where
  standsIn token member := ((scan_eq_ok_iff.mp isScan).standsIn (List.nil_append _) token member).2
  ordered := (scan_eq_ok_iff.mp isScan).ordered (List.nil_append _)
  accounted _ _ := (scan_eq_ok_iff.mp isScan).accounted (List.nil_append _) (Nat.zero_le _)
  skips := by
    intro warning member isSkip
    obtain ⟨place, character, -, skips⟩ :=
      (scan_eq_ok_iff.mp isScan).exists_skipsAt (List.nil_append _) warning member isSkip
    exact ⟨place, character, skips⟩

/-- A refused line with a unit after a blank, a punctuation mark and a character that means
nothing. -/
theorem partitions_refused_line :
    ∃ scanned, scan "(5 GiB; ¤" = .ok scanned ∧ scanned.error? = some .unclosedOpen ∧
      scanned.tokens.map Token.span = [⟨0, 1⟩, ⟨1, 6⟩] ∧
      scanned.Partitions "(5 GiB; ¤".toList := by
  have isScan := scan_eq_ok_iff.mpr
    (.piece (by decide +kernel) rfl
      (.piece (by decide +kernel) rfl
        (.piece (by decide +kernel) rfl
          (.blank (by decide +kernel)
            (.piece (by decide +kernel) rfl .done)))) :
      Cuts "(5 GiB; ¤".toList.length "(5 GiB; ¤".toList _)
  exact ⟨_, isScan, rfl, rfl, partitions_of_scan isScan⟩

end Scan

end NoteCalc
