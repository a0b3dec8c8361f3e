import NoteCalc.Proofs.Line.ReferencePlaces
import NoteCalc.Proofs.Line.RespeltScan

/-!
# Renumbered lines

A line is renumbered in the places where a scan finds references, and then scanned again.  The words
of a line that are references are the references that a scan finds, so the renumbered line is the
line with all its words respelt, and the second scan finds the tokens of the first one with their
references renumbered.  Inserting a line fails where the next number of a reference has too many
digits, and only there; removing a line never fails on a line that can be scanned.
-/

namespace NoteCalc

open NoteCalc.Text Lexeme

namespace Renumbering

variable {place : Nat} {text result : List Char} {edits : List (Span × List Char)}

/-! ## Replacing spans of a text -/

/-- A text, which starts at a place of its line, becomes another one by replacing ascending spans of
the line.  Everything between the spans is kept. -/
inductive Replaces : Nat → List Char → List (Span × List Char) → List Char → Prop where
  | done (place : Nat) (text : List Char) : Replaces place text [] text
  | edit {place : Nat} {span : Span} {kept replaced rest new result : List Char}
      {edits : List (Span × List Char)} (starts : span.start = place + kept.length)
      (stops : span.stop = span.start + replaced.length)
      (later : Replaces span.stop rest edits result) :
      Replaces place (kept ++ (replaced ++ rest)) ((span, new) :: edits) (kept ++ (new ++ result))

theorem Replaces.keep (kept : List Char)
    (replaces : Replaces (place + kept.length) text edits result) :
    Replaces place (kept ++ text) edits (kept ++ result) := by
  cases replaces with
  | done => exact .done place _
  | @edit _ span between replaced rest new result edits starts stops later =>
      rw [← List.append_assoc kept between, ← List.append_assoc kept between]
      refine .edit ?_ stops later
      rw [starts, List.length_append, Nat.add_assoc]

theorem Replaces.splice_eq (replaces : Replaces place text edits result) :
    splice place text edits = result := by
  induction replaces with
  | done => rfl
  | @edit place span kept replaced rest new result edits starts stops later induction =>
      have toStart : span.start - place = kept.length := by omega
      have toStop : span.stop - place = kept.length + replaced.length := by omega
      rw [splice, toStart, toStop, List.take_left, ← List.append_assoc kept replaced,
        ← List.length_append, List.drop_left, induction, List.append_assoc]

/-! ## Replacing references -/

section Edits

variable {respell : Nat → Except UnreadableDigit (Option String)} {token : Token} {written : Nat}

theorem edit?_of_reference (kind : token.kind = .reference written) :
    edit? respell token =
      (respell written).map (Option.map fun text => (token.span, text.toList)) := by
  unfold edit?
  rw [kind]

theorem edit?_of_ne_reference (plain : ∀ written, token.kind ≠ .reference written) :
    edit? respell token = .ok none := by
  unfold edit?
  split
  · rename_i written isReference
    exact absurd isReference (plain written)
  · rfl

/-- Only a reference can be replaced. -/
theorem edit?_cases (respell : Nat → Except UnreadableDigit (Option String)) (token : Token) :
    (∃ written, token.kind = .reference written ∧
      edit? respell token =
        (respell written).map (Option.map fun text => (token.span, text.toList))) ∨
    edit? respell token = .ok none := by
  by_cases isReference : ∃ written, token.kind = .reference written
  · obtain ⟨written, kind⟩ := isReference
    exact .inl ⟨written, kind, edit?_of_reference kind⟩
  · exact .inr (edit?_of_ne_reference (not_exists.mp isReference))

/-- A reference that is replaced is replaced by its new spelling. -/
theorem exists_reference_of_edit? {edit : Span × List Char}
    (isEdit : edit? respell token = .ok (some edit)) :
    ∃ written text, token.kind = .reference written ∧ respell written = .ok (some text) ∧
      edit = (token.span, text.toList) := by
  rcases edit?_cases respell token with ⟨written, kind, edits⟩ | edits
  · rw [edits] at isEdit
    obtain ⟨spelled, spells, same⟩ := map_eq_ok_iff.mp isEdit
    obtain ⟨text, rfl, rfl⟩ := Option.map_eq_some_iff.mp same
    exact ⟨written, text, kind, spells, rfl⟩
  · exact absurd (Except.ok.inj (edits.symm.trans isEdit)) (by simp)

/-- Whatever is replaced is a reference among the tokens. -/
theorem exists_reference_of_mem_edits {tokens : List Token}
    {edits : List (Option (Span × List Char))}
    (edited : tokens.mapM (edit? respell) = .ok edits) {edit : Span × List Char}
    (member : edit ∈ edits.filterMap id) :
    ∃ token ∈ tokens, ∃ written text, token.kind = .reference written ∧
      respell written = .ok (some text) ∧ edit = (token.span, text.toList) := by
  obtain ⟨known, isKnown, rfl⟩ := List.mem_filterMap.mp member
  obtain ⟨token, isToken, isEdit⟩ := exists_input_of_mapM edited _ isKnown
  exact ⟨token, isToken, exists_reference_of_edit? isEdit⟩

/-- All references among tokens can be respelt. -/
def Succeeds (respell : Nat → Except UnreadableDigit (Option String)) (tokens : List Token) :
    Prop :=
  ∀ token ∈ tokens, ∀ written, token.kind = .reference written →
    ∃ spelled, respell written = .ok spelled

theorem exists_edits_iff {tokens : List Token} :
    (∃ edits, tokens.mapM (edit? respell) = .ok edits) ↔ Succeeds respell tokens := by
  rw [exists_mapM_eq_ok_iff]
  refine forall₂_congr fun token _ => ?_
  constructor
  · rintro ⟨edit, isEdit⟩ written kind
    rw [edit?_of_reference kind] at isEdit
    obtain ⟨spelled, spells, -⟩ := map_eq_ok_iff.mp isEdit
    exact ⟨spelled, spells⟩
  · intro succeeds
    rcases edit?_cases respell token with ⟨written, kind, edits⟩ | edits
    · obtain ⟨spelled, spells⟩ := succeeds written kind
      rw [edits, spells]
      exact ⟨_, rfl⟩
    · exact ⟨none, edits⟩

theorem respellReferences_eq_ok_iff {line new : String} :
    respellReferences respell line = .ok new ↔
      ∃ scanned edits, scan line = .ok scanned ∧ scanned.tokens.mapM (edit? respell) = .ok edits ∧
        String.ofList (splice 0 line.toList (edits.filterMap id)) = new := by
  simp only [respellReferences, bind_eq_ok_iff, pure, Except.pure, Except.ok.injEq, exists_and_left]

/-- A line that is respelt is scanned, and all its references can be respelt. -/
theorem exists_scan_of_respellReferences {line new : String}
    (respelt : respellReferences respell line = .ok new) :
    ∃ scanned, scan line = .ok scanned ∧ Succeeds respell scanned.tokens := by
  obtain ⟨scanned, edits, isScan, edited, -⟩ := respellReferences_eq_ok_iff.mp respelt
  exact ⟨scanned, isScan, exists_edits_iff.mp ⟨edits, edited⟩⟩

/-- Respelling the references of a line fails as it does for some reference. -/
theorem exists_error_of_respellReferences {line : String} {scanned : Scan}
    {digit : UnreadableDigit} (isScan : scan line = .ok scanned)
    (fails : respellReferences respell line = .error digit) :
    ∃ token ∈ scanned.tokens, ∃ written, token.kind = .reference written ∧
      respell written = .error digit := by
  have failsToo : scanned.tokens.mapM (edit? respell) = .error digit := by
    unfold respellReferences at fails
    rw [isScan] at fails
    cases edited : scanned.tokens.mapM (edit? respell) with
    | error other =>
        simp only [bind, Except.bind, edited] at fails
        exact congrArg Except.error (Except.error.inj fails)
    | ok edits => simp [bind, Except.bind, edited, pure, Except.pure] at fails
  obtain ⟨token, member, isError⟩ := exists_error_of_mapM failsToo
  rcases edit?_cases respell token with ⟨written, kind, edits⟩ | edits
  · rw [edits, map_eq_error_iff] at isError
    exact ⟨token, member, written, kind, isError⟩
  · exact absurd (edits.symm.trans isError) (by simp)

end Edits

end Renumbering

open Renumbering

namespace Respelling

variable {respelling : Respelling} {respell : Nat → Except UnreadableDigit (Option String)}
  {length : Nat} {before rest : List Char} {edits : List (Option (Span × List Char))}

/-- Spellings that are computed, which can fail, are those of a respelling, and they can be read. -/
structure Writes (respelling : Respelling)
    (respell : Nat → Except UnreadableDigit (Option String)) : Prop where
  agrees : ∀ {written : Nat} {spelled : Option String},
    respell written = .ok spelled → respelling.spelling written = spelled
  short : ∀ {written : Nat} {text : String},
    respell written = .ok (some text) → text.toList.length ≤ mostLineDigits + 4

theorem Writes.short_of_succeeds {tokens : List Token} (writes : respelling.Writes respell)
    (succeeds : Succeeds respell tokens) : respelling.Short tokens := by
  intro token member written kind text spells
  obtain ⟨spelled, computed⟩ := succeeds token member written kind
  rw [writes.agrees computed] at spells
  exact writes.short (spells ▸ computed)

/-- What is kept at the head of a text does not change what is replaced behind it. -/
theorem replaces_of_keeps {edits : List (Span × List Char)} (keeps : respelling.Keeps before rest)
    (within : before.length ≤ length)
    (later : Replaces (length - rest.length) rest edits (respelling.text rest)) :
    Replaces (length - before.length) before edits (respelling.text before) := by
  obtain ⟨kept, rfl, respelt⟩ := keeps
  rw [List.length_append] at within
  have place : length - rest.length = length - (kept ++ rest).length + kept.length := by
    rw [List.length_append]
    omega
  rw [respelt]
  exact .keep kept (place ▸ later)

/-- Replacing the references that a scan finds respells the line. -/
theorem replaces_of_cuts (writes : respelling.Writes respell) {scanned : Scan}
    (cuts : Scan.Cuts length before scanned) (within : before.length ≤ length)
    (edited : List.Forall₂ (fun token edit => edit? respell token = .ok edit)
      scanned.tokens edits) :
    Replaces (length - before.length) before (edits.filterMap id) (respelling.text before) := by
  induction cuts generalizing edits with
  | done =>
      obtain rfl := List.forall₂_nil_left_iff.mp edited
      rw [text_nil]
      exact .done _ _
  | @blank character rest scanned blank _ induction =>
      have outside := startsWord_of_not_isWordCharacter (isWordCharacter_of_isBlank blank)
      rw [List.length_cons] at within
      exact replaces_of_keeps (.cons outside (.refl respelling rest)) within
        (induction (Nat.le_of_succ_le within) edited)
  | @piece character rest left kind later notBlank found _ induction =>
      have leaves := Scan.recognise_leaves found
      have withinLater := Nat.le_trans (Nat.le_of_lt leaves.2) within
      rcases Scan.recognise_cases found with ⟨written, rfl, isReference, -⟩ | ⟨isPlain, piece⟩
      · obtain ⟨edit, others, first, editedLater, rfl⟩ := List.forall₂_cons_left_iff.mp edited
        have replaces := induction withinLater editedLater
        obtain ⟨word, isWord, isNumber⟩ := reference?_eq_some_iff.mp isReference
        have respelt := respelling.word_of_reference isNumber
        rw [edit?_of_reference rfl] at first
        obtain ⟨spelled, computed, rfl⟩ := map_eq_ok_iff.mp first
        rw [writes.agrees computed] at respelt
        cases spelled with
        | none => exact replaces_of_keeps (.word isWord respelt) within replaces
        | some new =>
            have whole := word?_append isWord
            have sizes : word.length + left.length = (character :: rest).length := by
              rw [← List.length_append, whole]
            rw [respelling.text_of_word? isWord, respelt]
            nth_rewrite 2 [← whole]
            refine @Replaces.edit _ _ [] _ _ _ _ _ rfl ?_ replaces
            simp only [Scan.spanBetween]
            omega
      · refine replaces_of_keeps (keeps_piece isPlain piece) within ?_
        cases kind with
        | none => exact induction withinLater edited
        | some kind =>
            obtain ⟨edit, others, first, editedLater, rfl⟩ := List.forall₂_cons_left_iff.mp edited
            rw [edit?_of_ne_reference piece.ne_reference] at first
            obtain rfl := Except.ok.inj first
            have replaces := induction withinLater editedLater
            exact replaces

/-- Respelling the references of a line replaces them, and respells its words. -/
theorem replaces_of_scan (writes : respelling.Writes respell) {line : String} {scanned : Scan}
    (isScan : scan line = .ok scanned)
    (edited : scanned.tokens.mapM (edit? respell) = .ok edits) :
    Replaces 0 line.toList (edits.filterMap id) (respelling.text line.toList) := by
  have cuts := Scan.scan_eq_ok_iff.mp isScan
  have replaces := replaces_of_cuts writes cuts (Nat.le_refl _) (mapM_eq_ok_iff.mp edited)
  rwa [Nat.sub_self] at replaces

theorem respellReferences_eq_text (writes : respelling.Writes respell) {line : String}
    {scanned : Scan} (isScan : scan line = .ok scanned)
    (succeeds : Succeeds respell scanned.tokens) :
    respellReferences respell line = .ok (String.ofList (respelling.text line.toList)) := by
  obtain ⟨edits, edited⟩ := exists_edits_iff.mpr succeeds
  refine respellReferences_eq_ok_iff.mpr ⟨scanned, edits, isScan, edited, ?_⟩
  rw [(replaces_of_scan writes isScan edited).splice_eq]

theorem text_of_respellReferences (writes : respelling.Writes respell) {line new : String}
    (respelt : respellReferences respell line = .ok new) :
    new.toList = respelling.text line.toList := by
  obtain ⟨scanned, isScan, succeeds⟩ := exists_scan_of_respellReferences respelt
  have isText := (respellReferences_eq_text writes isScan succeeds).symm.trans respelt
  rw [← Except.ok.inj isText, String.toList_ofList]

/-- Scanning commutes with respelling the references of a line. -/
theorem scan_respelt (writes : respelling.Writes respell) {line : String} {scanned : Scan}
    (isScan : scan line = .ok scanned) (succeeds : Succeeds respell scanned.tokens) :
    ∃ respelt rescanned edits, respellReferences respell line = .ok respelt ∧
      scan respelt = .ok rescanned ∧
      rescanned.tokens.map Token.kind =
        scanned.tokens.map (fun token => respelling.kind token.kind) ∧
      scanned.tokens.mapM (edit? respell) = .ok edits ∧
      Replaces 0 line.toList (edits.filterMap id) respelt.toList := by
  have cuts := Scan.scan_eq_ok_iff.mp isScan
  obtain ⟨edits, edited⟩ := exists_edits_iff.mpr succeeds
  obtain ⟨rescanned, cutsAfter, kinds⟩ :=
    cuts_text cuts (writes.short_of_succeeds succeeds) (respelling.text line.toList).length
  refine ⟨String.ofList (respelling.text line.toList), rescanned, edits,
    respellReferences_eq_text writes isScan succeeds, ?_, kinds, edited, ?_⟩
  · rw [Scan.scan_eq_ok_iff, String.toList_ofList]
    exact cutsAfter
  · rw [String.toList_ofList]
    exact replaces_of_scan writes isScan edited

/-- A line and the line that respelling made of it. -/
theorem scan_of_respellReferences (writes : respelling.Writes respell) {line new : String}
    (respelt : respellReferences respell line = .ok new) :
    ∃ scanned rescanned, scan line = .ok scanned ∧ scan new = .ok rescanned ∧
      rescanned.tokens.map Token.kind =
        scanned.tokens.map (fun token => respelling.kind token.kind) := by
  obtain ⟨scanned, isScan, succeeds⟩ := exists_scan_of_respellReferences respelt
  obtain ⟨known, rescanned, _, isKnown, isRescan, kinds, -⟩ := scan_respelt writes isScan succeeds
  obtain rfl : known = new := Except.ok.inj (isKnown.symm.trans respelt)
  exact ⟨scanned, rescanned, isScan, isRescan, kinds⟩

/-- Where a line and the line that respelling made of it differ. -/
theorem replaces_of_respellReferences (writes : respelling.Writes respell) {line new : String}
    (respelt : respellReferences respell line = .ok new) :
    ∃ scanned edits, scan line = .ok scanned ∧ scanned.tokens.mapM (edit? respell) = .ok edits ∧
      Replaces 0 line.toList (edits.filterMap id) new.toList := by
  obtain ⟨scanned, edits, isScan, edited, -⟩ := respellReferences_eq_ok_iff.mp respelt
  refine ⟨scanned, edits, isScan, edited, ?_⟩
  rw [text_of_respellReferences writes respelt]
  exact replaces_of_scan writes isScan edited

end Respelling

namespace Renumbering

open Respelling (kindOfInert)

variable {place written : Nat} {line : String} {scanned : Scan}

/-! ## The spellings that renumbering gives -/

theorem inert_plainName (number : Nat) : Inert (plainName number).toList :=
  inert_of_referenceNumber? (referenceNumber?_plainName number)

theorem isDigitSign_plainName (number : Nat) :
    ∀ character ∈ (plainName number).toList.head?, isDigitSign character = false := by
  intro character isHead
  rw [toList_plainName] at isHead
  obtain rfl : 'l' = character := Option.some.inj isHead
  decide +kernel

theorem isDigitSign_invalidReference :
    ∀ character ∈ invalidReference.toList.head?, isDigitSign character = false := by
  intro character isHead
  obtain rfl : 'I' = character := Option.some.inj isHead
  decide +kernel

/-- References to a place or below it are given other numbers and are spelt in the plain way, however
many digits their numbers have. -/
def plainBelow (place : Nat) (number : Nat → Nat) : Respelling where
  spelling written := if place < written then some (plainName (number written)) else none
  inert := by
    intro written spelled respelt
    obtain ⟨-, same⟩ := Option.ite_none_right_eq_some.mp respelt
    obtain rfl := Option.some.inj same
    exact inert_plainName (number written)
  noDigit := by
    intro written spelled respelt
    obtain ⟨-, same⟩ := Option.ite_none_right_eq_some.mp respelt
    obtain rfl := Option.some.inj same
    exact isDigitSign_plainName (number written)

section PlainBelow

variable {number : Nat → Nat}

/-- A reference that stays keeps its spelling; one that does not needs a number with not too many
digits. -/
theorem plainBelow_eq_ok_iff (place : Nat) (number : Nat → Nat) {moves : Prop} [Decidable moves]
    {line : Int} (below : moves ↔ place < written)
    (isNumber : place < written → line = number written) {spelled : Option String} :
    (if moves then (lineName line).map some else .ok none) = .ok spelled ↔
      (place < written → number written < 10 ^ mostLineDigits) ∧
        (plainBelow place number).spelling written = spelled := by
  unfold plainBelow
  by_cases isBelow : place < written
  · rw [if_pos (below.mpr isBelow), isNumber isBelow, map_eq_ok_iff]
    simp only [lineName_eq_ok_iff, isBelow, forall_const, if_true]
    constructor
    · rintro ⟨text, ⟨short, rfl⟩, rfl⟩
      exact ⟨short, rfl⟩
    · rintro ⟨short, rfl⟩
      exact ⟨_, ⟨short, rfl⟩, rfl⟩
  · rw [if_neg (mt below.mp isBelow)]
    simp only [Except.ok.injEq, isBelow, false_implies, true_and, if_false]

theorem length_le_of_plainBelow (short : place < written → number written < 10 ^ mostLineDigits)
    {text : String} (spells : (plainBelow place number).spelling written = some text) :
    text.toList.length ≤ mostLineDigits + 4 := by
  obtain ⟨below, same⟩ := Option.ite_none_right_eq_some.mp spells
  obtain rfl := Option.some.inj same
  exact length_plainName_le (short below)

theorem kindOfInert_plainName (number : Nat) :
    kindOfInert (plainName number).toList = .reference number := by
  unfold kindOfInert
  rw [referenceNumber?_plainName]

theorem kind_plainBelow (written : Nat) :
    (plainBelow place number).kind (.reference written) =
      .reference (if place < written then number written else written) := by
  simp only [Respelling.kind, plainBelow]
  by_cases below : place < written
  · rw [if_pos below, if_pos below]
    exact kindOfInert_plainName (number written)
  · rw [if_neg below, if_neg below]
    rfl

end PlainBelow

/-- The spellings after a line is inserted. -/
def insertion (place : Nat) : Respelling :=
  plainBelow place (· + 1)

/-- The spellings after a line is removed. -/
def removal (place : Nat) : Respelling where
  spelling written :=
    if written = place + 1 then some invalidReference
    else (plainBelow (place + 1) (· - 1)).spelling written
  inert := by
    intro written spelled respelt
    split at respelt
    · obtain rfl := Option.some.inj respelt
      exact inert_invalidReference
    · exact (plainBelow _ _).inert respelt
  noDigit := by
    intro written spelled respelt
    split at respelt
    · obtain rfl := Option.some.inj respelt
      exact isDigitSign_invalidReference
    · exact (plainBelow _ _).noDigit respelt

theorem insertionSpelling_eq_ok_iff {spelled : Option String} :
    insertionSpelling place written = .ok spelled ↔
      (place < written → written + 1 < 10 ^ mostLineDigits) ∧
        (insertion place).spelling written = spelled :=
  plainBelow_eq_ok_iff place (· + 1) (by omega) fun _ => rfl

theorem writes_insertion (place : Nat) :
    (insertion place).Writes (insertionSpelling place) where
  agrees := fun computed => (insertionSpelling_eq_ok_iff.mp computed).2
  short := by
    intro written text computed
    obtain ⟨short, spells⟩ := insertionSpelling_eq_ok_iff.mp computed
    exact length_le_of_plainBelow short spells

/-- The number of a reference below the removed line has a digit less at most. -/
theorem removalSpelling_eq_ok_iff {spelled : Option String} :
    removalSpelling place written = .ok spelled ↔
      (place + 1 < written → written - 1 < 10 ^ mostLineDigits) ∧
        (removal place).spelling written = spelled := by
  unfold removalSpelling removal
  by_cases removed : written = place + 1
  · have removedToo : (written : Int) - 1 = place := by omega
    have stays : ¬place + 1 < written := by omega
    simp only [if_pos removedToo, if_pos removed, Except.ok.injEq, stays, false_implies, true_and]
  · have notRemoved : ¬(written : Int) - 1 = place := by omega
    rw [if_neg notRemoved]
    simp only [if_neg removed]
    exact plainBelow_eq_ok_iff (place + 1) (· - 1) (by omega) (by omega)

theorem writes_removal (place : Nat) : (removal place).Writes (removalSpelling place) where
  agrees := fun computed => (removalSpelling_eq_ok_iff.mp computed).2
  short := by
    intro written text computed
    obtain ⟨short, spells⟩ := removalSpelling_eq_ok_iff.mp computed
    unfold removal at spells
    simp only at spells
    split at spells
    · obtain rfl := Option.some.inj spells
      decide
    · exact length_le_of_plainBelow short spells

/-- What a token becomes when a line is inserted at a place: a reference to that place or below it
goes one line further down. -/
def movedDown (place : Nat) : Token.Kind → Token.Kind
  | .reference written =>
      if 1 ≤ written ∧ place ≤ written - 1 then .reference (written + 1) else .reference written
  | kind => kind

/-- What a token becomes when the line at a place is removed: a reference to the line is a variable
then, and a reference below it goes one line up. -/
def movedUp (place : Nat) : Token.Kind → Token.Kind
  | .reference written =>
      if 1 ≤ written ∧ written - 1 = place then .identifier "INVALID_REF"
      else if 1 ≤ written ∧ place < written - 1 then .reference (written - 1)
      else .reference written
  | kind => kind

theorem kindOfInert_invalidReference :
    kindOfInert invalidReference.toList = .identifier "INVALID_REF" := by
  unfold kindOfInert
  rw [referenceNumber?_invalidReference]
  rfl

theorem kind_insertion (kind : Token.Kind) :
    (insertion place).kind kind = movedDown place kind := by
  cases kind with
  | reference written =>
      have moves : 1 ≤ written ∧ place ≤ written - 1 ↔ place < written := by omega
      simp only [insertion, kind_plainBelow, movedDown, moves]
      split <;> rfl
  | _ => rfl

theorem kind_removal (kind : Token.Kind) : (removal place).kind kind = movedUp place kind := by
  cases kind with
  | reference written =>
      have isRemoved : 1 ≤ written ∧ written - 1 = place ↔ written = place + 1 := by omega
      have moves : 1 ≤ written ∧ place < written - 1 ↔ place + 1 < written := by omega
      simp only [movedUp, isRemoved, moves]
      by_cases removed : written = place + 1
      · have invalid : (removal place).spelling written = some invalidReference := if_pos removed
        rw [if_pos removed, Respelling.kind, invalid]
        exact kindOfInert_invalidReference
      · have same : (removal place).kind (.reference written) =
            (plainBelow (place + 1) (· - 1)).kind (.reference written) := by
          simp only [Respelling.kind, removal, if_neg removed]
        rw [if_neg removed, same, kind_plainBelow]
        split <;> rfl
  | _ => rfl

/-! ## Which lines can be renumbered -/

/-- Every reference of a line to a place or below it has a next number with not too many digits. -/
def MovableFrom (place : Nat) (line : String) : Prop :=
  EveryReference (fun _ written => place < written → written + 1 < 10 ^ mostLineDigits) line

instance (place : Nat) (line : String) : Decidable (MovableFrom place line) :=
  inferInstanceAs (Decidable (EveryReference _ line))

theorem succeeds_insertion_iff (isScan : scan line = .ok scanned) :
    Succeeds (insertionSpelling place) scanned.tokens ↔ MovableFrom place line := by
  constructor
  · intro succeeds known isKnown token member written kind
    obtain rfl := Except.ok.inj (isScan.symm.trans isKnown)
    obtain ⟨spelled, computed⟩ := succeeds token member written kind
    exact (insertionSpelling_eq_ok_iff.mp computed).1
  · intro movable token member written kind
    have short := movable scanned isScan token member written kind
    exact ⟨_, insertionSpelling_eq_ok_iff.mpr ⟨short, rfl⟩⟩

/-- A reference that is read can be given any smaller number. -/
theorem succeeds_removal (isScan : scan line = .ok scanned) :
    Succeeds (removalSpelling place) scanned.tokens := by
  intro token member written kind
  have short := (Scan.scan_eq_ok_iff.mp isScan).written_lt member kind
  exact ⟨_, removalSpelling_eq_ok_iff.mpr ⟨fun _ => Nat.lt_of_le_of_lt (Nat.sub_le _ _) short, rfl⟩⟩

/-- A line that can be scanned but not be renumbered for an inserted line has a reference whose next
number has one digit too many. -/
theorem afterInsertion_eq_error (isScan : scan line = .ok scanned)
    (immovable : ¬MovableFrom place line) :
    afterInsertion place line = .error (.surplus (mostLineDigits + 1)) := by
  cases renumbered : afterInsertion place line with
  | ok new =>
      obtain ⟨known, isKnown, succeeds⟩ := exists_scan_of_respellReferences renumbered
      exact absurd ((succeeds_insertion_iff isKnown).mp succeeds) immovable
  | error digit =>
      obtain ⟨token, member, written, kind, fails⟩ :=
        exists_error_of_respellReferences isScan renumbered
      have short := (Scan.scan_eq_ok_iff.mp isScan).written_lt member kind
      have next : (written : Int) + 1 = ((written + 1 : Nat) : Int) := rfl
      unfold insertionSpelling at fails
      split at fails
      · rw [next, map_eq_error_iff] at fails
        exact congrArg Except.error (surplus_of_lineName short fails)
      · exact absurd fails (by simp)

/-! ## Scanning after renumbering -/

/-- Renumbering commutes with scanning: the renumbered line is scanned to the tokens of the line
with the references moved, and all characters outside the references that are moved are kept.  Only
for an inserted line it can fail, with a reference whose next number has too many digits. -/
theorem scan_renumbered (place : Nat) (isScan : scan line = .ok scanned) :
    ((MovableFrom place line ∧
      ∃ renumbered rescanned edits, afterInsertion place line = .ok renumbered ∧
        scan renumbered = .ok rescanned ∧
        rescanned.tokens.map Token.kind =
          scanned.tokens.map (fun token => movedDown place token.kind) ∧
        scanned.tokens.mapM (edit? (insertionSpelling place)) = .ok edits ∧
        Replaces 0 line.toList (edits.filterMap id) renumbered.toList) ∨
      (¬MovableFrom place line ∧
        afterInsertion place line = .error (.surplus (mostLineDigits + 1)))) ∧
    (∃ renumbered rescanned edits, afterRemoval place line = .ok renumbered ∧
      scan renumbered = .ok rescanned ∧
      rescanned.tokens.map Token.kind =
        scanned.tokens.map (fun token => movedUp place token.kind) ∧
      scanned.tokens.mapM (edit? (removalSpelling place)) = .ok edits ∧
      Replaces 0 line.toList (edits.filterMap id) renumbered.toList) := by
  constructor
  · by_cases movable : MovableFrom place line
    · have succeeds := (succeeds_insertion_iff isScan).mpr movable
      have inserted := Respelling.scan_respelt (writes_insertion place) isScan succeeds
      simp only [kind_insertion] at inserted
      exact .inl ⟨movable, inserted⟩
    · exact .inr ⟨movable, afterInsertion_eq_error isScan movable⟩
  · have removed := Respelling.scan_respelt (writes_removal place) isScan (succeeds_removal isScan)
    simp only [kind_removal] at removed
    exact removed

theorem scan_renumbered_denominator :
    ∃ scanned, scan "GiB/line3" = .ok scanned ∧
      (∃ rescanned, afterInsertion 2 "GiB/line3" = .ok "GiB/line4" ∧
        scan "GiB/line4" = .ok rescanned ∧
        rescanned.tokens.map Token.kind =
          scanned.tokens.map fun token => movedDown 2 token.kind) ∧
      (∃ rescanned, afterRemoval 2 "GiB/line3" = .ok "GiB/INVALID_REF" ∧
        scan "GiB/INVALID_REF" = .ok rescanned ∧
        rescanned.tokens.map Token.kind =
          scanned.tokens.map fun token => movedUp 2 token.kind) := by
  have isScan := Scan.scan_eq_ok_iff.mpr
    (.piece (by decide +kernel) rfl
      (.piece (by decide +kernel) rfl
        (.piece (by decide +kernel) rfl .done)) :
      Scan.Cuts "GiB/line3".toList.length "GiB/line3".toList _)
  have isInserted : afterInsertion 2 "GiB/line3" = .ok "GiB/line4" := by
    unfold afterInsertion respellReferences
    rw [isScan]
    rfl
  have isRemoved : afterRemoval 2 "GiB/line3" = .ok "GiB/INVALID_REF" := by
    unfold afterRemoval respellReferences
    rw [isScan]
    rfl
  obtain ⟨⟨-, inserted, rescanned, _, known, after, kinds, -⟩ | ⟨-, fails⟩,
    removed, rescannedToo, _, knownToo, afterToo, kindsToo, -⟩ := scan_renumbered 2 isScan
  · obtain rfl := Except.ok.inj (isInserted.symm.trans known)
    obtain rfl := Except.ok.inj (isRemoved.symm.trans knownToo)
    exact ⟨_, isScan, ⟨rescanned, known, after, kinds⟩, rescannedToo, knownToo, afterToo, kindsToo⟩
  · exact absurd (isInserted.symm.trans fails) (by simp)

/-! ## The last reference that can be read -/

/-- The plain reference with the greatest number that can be read, which is all nines. -/
def lastReference : String :=
  "line" ++ String.ofList (List.replicate mostLineDigits '9')

theorem lastReference_eq : lastReference = plainName (10 ^ mostLineDigits - 1 : Nat) := by
  have digits (number : Nat) :
      toString (number : Int) = String.ofList (Nat.toDigits 10 number) := rfl
  rw [lastReference, plainName, digits, toDigits_nines (by decide)]

/-- A plain reference with not too many digits is scanned as one. -/
theorem exists_scan_plainName {number : Nat} (short : number < 10 ^ mostLineDigits) :
    ∃ scanned, scan (plainName number) = .ok scanned ∧
      ∃ token ∈ scanned.tokens, token.kind = .reference number := by
  have isReference := referenceNumber?_plainName number
  have inert := inert_plainName number
  have isWord : word? (plainName number).toList = some ((plainName number).toList, []) :=
    word?_eq_some_iff.mpr ⟨(List.append_nil _).symm, inert.isWord, rfl⟩
  obtain ⟨first, others, letters, starts, -⟩ := inert.isWord
  have noDigit : isDigitSign first = false :=
    isDigitSign_plainName number first (by rw [letters]; rfl)
  have found : Scan.recognise first others =
      .ok (some (kindOfInert (plainName number).toList), []) :=
    Respelling.recognise_inert inert (letters ▸ isWord) noDigit (length_plainName_le short)
  rw [kindOfInert_plainName] at found
  have cuts := @Scan.Cuts.piece (plainName number).toList.length _ _ _ _ _
    (isBlank_eq_false starts) found .done
  rw [← letters] at cuts
  exact ⟨_, Scan.scan_eq_ok_iff.mpr cuts, _, List.mem_singleton_self _, rfl⟩

theorem exists_scan_lastReference :
    ∃ scanned, scan lastReference = .ok scanned ∧
      ∃ token ∈ scanned.tokens, token.kind = .reference (10 ^ mostLineDigits - 1) := by
  rw [lastReference_eq]
  exact exists_scan_plainName (Nat.sub_one_lt (Nat.ne_of_gt (Nat.pow_pos (by decide))))

/-- The last reference that can be read has no next number. -/
theorem not_movableFrom_lastReference (above : place < mostLineDigits) :
    ¬MovableFrom place lastReference := by
  intro movable
  obtain ⟨scanned, isScan, token, member, kind⟩ := exists_scan_lastReference
  have far : mostLineDigits < 10 ^ mostLineDigits := Nat.lt_pow_self (by decide)
  have next := movable scanned isScan token member _ kind (by omega)
  omega

theorem afterInsertion_lastReference (above : place < mostLineDigits) :
    afterInsertion place lastReference = .error (.surplus (mostLineDigits + 1)) := by
  obtain ⟨scanned, isScan, -⟩ := exists_scan_lastReference
  exact afterInsertion_eq_error isScan (not_movableFrom_lastReference above)

/-- A line that is scanned is not renumbered for a line that is inserted at the top. -/
theorem lastReference_not_renumbered :
    ∃ scanned, scan lastReference = .ok scanned ∧
      ¬∃ renumbered, afterInsertion 0 lastReference = .ok renumbered := by
  obtain ⟨scanned, isScan, -⟩ := exists_scan_lastReference
  have fails := @afterInsertion_lastReference 0 (by decide)
  refine ⟨scanned, isScan, ?_⟩
  rintro ⟨renumbered, done⟩
  exact absurd (fails.symm.trans done) (by simp)

end Renumbering

end NoteCalc
