import NoteCalc.Proofs.Line.ReferencePlaces
import NoteCalc.Proofs.Notebook.RemovedReferences

/-!
# Restored references

Respelling the references of a line does nothing if they have the new spellings already, and two
respellings, one after the other, are one.  Renumbering for an inserted line and then for its
removal gives every reference its old number; all it does to a line is to spell the references from
there on in the plain way.
-/

namespace NoteCalc

open NoteCalc.Text Lexeme Renumbering

namespace Respelling

variable {respelling : Respelling} {line : String} {scanned : Scan}

/-! ## References that keep their spellings -/

/-- Whatever references are respelt have their new spellings already. -/
def Fixes (respelling : Respelling) (tokens : List Token) : Prop :=
  ∀ token ∈ tokens, ∀ written, token.kind = .reference written →
    ∀ spelled, respelling.spelling written = some spelled → spelled = token.lexeme

theorem Fixes.mono {tokens others : List Token} (fixes : respelling.Fixes tokens)
    (among : others ⊆ tokens) : respelling.Fixes others :=
  fun token member => fixes token (among member)

theorem word_of_fixed {found : List Char} {written : Nat}
    (isReference : referenceNumber? found = some written)
    (fixed : ∀ spelled, respelling.spelling written = some spelled →
      spelled = String.ofList found) : respelling.word found = found := by
  rw [respelling.word_of_reference isReference]
  cases spelled : respelling.spelling written with
  | none => rfl
  | some text =>
      rw [fixed text spelled, Option.map_some, Option.getD_some, String.toList_ofList]

theorem text_of_fixes {length : Nat} {text : List Char}
    (fixes : respelling.Fixes (referencesLeft length text)) : respelling.text text = text := by
  fun_induction referencesLeft length text with
  | case1 => exact respelling.text_nil
  | case2 character rest word left isWord token? induction =>
      have kept : respelling.word word = word := by
        cases isReference : referenceNumber? word with
        | none => exact respelling.word_of_not_reference isReference
        | some written =>
            refine word_of_fixed isReference ?_
            have member : ⟨.reference written, String.ofList word,
                Scan.spanBetween length (character :: rest) left⟩ ∈
                  token?.toList ++ referencesLeft length left := by
              simp [token?, isReference]
            exact fixes _ member written rfl
      have keptToo := induction (fixes.mono (List.subset_append_right ..))
      rw [respelling.text_of_word? isWord, kept, keptToo, word?_append isWord]
  | case3 character rest noWord induction =>
      rw [respelling.text_cons (startsWord_eq_false noWord), induction fixes]

theorem respellReferences_of_fixes {respell : Nat → Except UnreadableDigit (Option String)}
    (writes : respelling.Writes respell) (isScan : scan line = .ok scanned)
    (succeeds : Succeeds respell scanned.tokens) (fixes : respelling.Fixes scanned.tokens) :
    respellReferences respell line = .ok line := by
  have references := (Scan.scan_eq_ok_iff.mp isScan).references
  have among : referencesLeft line.toList.length line.toList ⊆ scanned.tokens :=
    references ▸ List.filter_subset_self scanned.tokens
  have unchanged := text_of_fixes (fixes.mono among)
  rw [respellReferences_eq_text writes isScan succeeds, unchanged, String.ofList_toList]

/-! ## One respelling after another -/

variable {first second both : Respelling}

theorem text_text (agree : ∀ word, second.word (first.word word) = both.word word)
    (text : List Char) : second.text (first.text text) = both.text text := by
  fun_induction both.text text with
  | case1 => rw [first.text_nil, second.text_nil]
  | case2 character rest word left isWord induction =>
      have isWordAfter := first.word?_text (character :: rest)
      rw [isWord, Option.map_some] at isWordAfter
      rw [second.text_of_word? isWordAfter, agree, induction]
  | case3 character rest noWord induction =>
      have outside := startsWord_eq_false noWord
      rw [first.text_cons outside, second.text_cons outside, induction]

theorem respellReferences_respelt (agree : ∀ word, second.word (first.word word) = both.word word)
    {respell respellToo respellBoth : Nat → Except UnreadableDigit (Option String)}
    (writes : first.Writes respell) (writesToo : second.Writes respellToo)
    (writesBoth : both.Writes respellBoth) {new : String} {rescanned : Scan}
    (respelt : respellReferences respell line = .ok new)
    (isScan : scan line = .ok scanned) (succeedsBoth : Succeeds respellBoth scanned.tokens)
    (isRescan : scan new = .ok rescanned) (succeedsToo : Succeeds respellToo rescanned.tokens) :
    respellReferences respellToo new = respellReferences respellBoth line := by
  rw [respellReferences_eq_text writesToo isRescan succeedsToo,
    respellReferences_eq_text writesBoth isScan succeedsBoth,
    text_of_respellReferences writes respelt, text_text agree]

end Respelling

namespace Renumbering

variable {place written : Nat} {line moved : String} {scanned : Scan}

/-! ## Renumbering twice -/

/-- The plain spelling of a reference from a place on. -/
def plainSpelling (place : Int) (written : Nat) : Except UnreadableDigit (Option String) :=
  if place ≤ (written : Int) - 1 then (lineName written).map some else .ok none

/-- The references from a place on spelt in the plain way. -/
def plain (place : Nat) : Respelling :=
  plainBelow place id

theorem plainSpelling_eq_ok_iff {spelled : Option String} :
    plainSpelling place written = .ok spelled ↔
      (place < written → written < 10 ^ mostLineDigits) ∧
        (plain place).spelling written = spelled :=
  plainBelow_eq_ok_iff place id (by omega) fun _ => rfl

theorem writes_plain (place : Nat) : (plain place).Writes (plainSpelling place) where
  agrees := fun computed => (plainSpelling_eq_ok_iff.mp computed).2
  short := by
    intro written text computed
    obtain ⟨short, spells⟩ := plainSpelling_eq_ok_iff.mp computed
    exact length_le_of_plainBelow short spells

/-- A reference that is read can be written again. -/
theorem succeeds_plain (isScan : scan line = .ok scanned) :
    Succeeds (plainSpelling place) scanned.tokens := by
  intro token member written kind
  have short := (Scan.scan_eq_ok_iff.mp isScan).written_lt member kind
  exact ⟨_, plainSpelling_eq_ok_iff.mpr ⟨fun _ => short, rfl⟩⟩

theorem removal_word_insertion (place : Nat) (word : List Char) :
    (removal place).word ((insertion place).word word) = (plain place).word word := by
  cases isReference : referenceNumber? word with
  | none =>
      rw [(insertion place).word_of_not_reference isReference,
        (removal place).word_of_not_reference isReference,
        (plain place).word_of_not_reference isReference]
  | some written =>
      rw [(plain place).word_of_reference isReference,
        (insertion place).word_of_reference isReference]
      by_cases below : place < written
      · have inserts : (insertion place).spelling written =
            some (plainName (written + 1 : Nat)) := if_pos below
        have removes : (removal place).spelling (written + 1) = some (plainName written) :=
          (if_neg (by omega)).trans (if_pos (by omega))
        have spells : (plain place).spelling written = some (plainName written) := if_pos below
        rw [inserts, spells, Option.map_some, Option.getD_some,
          (removal place).word_of_reference (referenceNumber?_plainName (written + 1)), removes]
        rfl
      · have stays : (insertion place).spelling written = none := if_neg below
        have staysToo : (removal place).spelling written = none :=
          (if_neg (by omega)).trans (if_neg (by omega))
        have keeps : (plain place).spelling written = none := if_neg below
        rw [stays, keeps, Option.map_none, Option.getD_none,
          (removal place).word_of_reference isReference, staysToo]
        rfl

/-- Removing an inserted line again spells the references from there on in the plain way. -/
theorem afterRemoval_of_afterInsertion (renumbered : afterInsertion place line = .ok moved) :
    afterRemoval place moved = respellReferences (plainSpelling place) line := by
  obtain ⟨scanned, rescanned, isScan, isRescan, -⟩ :=
    Respelling.scan_of_respellReferences (writes_insertion place) renumbered
  exact Respelling.respellReferences_respelt (removal_word_insertion place)
    (writes_insertion place) (writes_removal place) (writes_plain place) renumbered isScan
    (succeeds_plain isScan) isRescan (succeeds_removal isRescan)

/-! ## Lines that stay as they are -/

theorem fixes_of_above {respelling : Respelling}
    (silent : ∀ written ≤ place, respelling.spelling written = none)
    (isScan : scan line = .ok scanned)
    (above : EveryReference (fun _ written => written ≤ place) line) :
    respelling.Fixes scanned.tokens := by
  intro token member written kind spelled respelt
  rw [silent written (above scanned isScan token member written kind)] at respelt
  exact absurd respelt (by simp)

/-- A line that refers to lines above a place only stays as it is when a line is inserted there. -/
theorem afterInsertion_of_above (readable : ReaderIndex.Readable line)
    (above : EveryReference (fun _ written => written ≤ place) line) :
    afterInsertion place line = .ok line := by
  obtain ⟨scanned, isScan⟩ := readable
  have silent : ∀ written ≤ place, (insertion place).spelling written = none := fun _ _ =>
    if_neg (by omega)
  have movable : MovableFrom place line := by
    intro known isKnown token member written kind below
    exact absurd (above known isKnown token member written kind) (Nat.not_le_of_lt below)
  exact Respelling.respellReferences_of_fixes (writes_insertion place) isScan
    ((succeeds_insertion_iff isScan).mpr movable) (fixes_of_above silent isScan above)

/-- A line that refers to lines above a place only stays as it is when the line there is removed. -/
theorem afterRemoval_of_above (readable : ReaderIndex.Readable line)
    (above : EveryReference (fun _ written => written ≤ place) line) :
    afterRemoval place line = .ok line := by
  obtain ⟨scanned, isScan⟩ := readable
  have silent : ∀ written ≤ place, (removal place).spelling written = none := fun _ _ =>
    (if_neg (by omega)).trans (if_neg (by omega))
  exact Respelling.respellReferences_of_fixes (writes_removal place) isScan
    (succeeds_removal isScan) (fixes_of_above silent isScan above)

/-- The references of a line from a place on are spelt in the plain way. -/
def PlainFrom (place : Nat) (line : String) : Prop :=
  EveryReference (fun token written => place < written → token.lexeme = plainName written) line

instance (place : Nat) (line : String) : Decidable (PlainFrom place line) :=
  inferInstanceAs (Decidable (EveryReference _ line))

/-- A line is restored if the references that were renumbered are spelt in the plain way. -/
theorem afterRemoval_of_plainFrom (isPlain : PlainFrom place line)
    (renumbered : afterInsertion place line = .ok moved) :
    afterRemoval place moved = .ok line := by
  obtain ⟨scanned, isScan, -⟩ := exists_scan_of_respellReferences renumbered
  have fixes : (plain place).Fixes scanned.tokens := by
    intro token member written kind spelled respelt
    obtain ⟨below, same⟩ := Option.ite_none_right_eq_some.mp respelt
    rw [isPlain scanned isScan token member written kind below]
    exact (Option.some.inj same).symm
  rw [afterRemoval_of_afterInsertion renumbered]
  exact Respelling.respellReferences_of_fixes (writes_plain place) isScan (succeeds_plain isScan)
    fixes

/-! ## Inserting a line and removing it again -/

theorem kind_plain (kind : Token.Kind) : (plain place).kind kind = kind := by
  cases kind with
  | reference written => simp [plain, kind_plainBelow]
  | _ => rfl

theorem movedDown_ne_reference (kind : Token.Kind) :
    movedDown place kind ≠ .reference (place + 1) := by
  cases kind with
  | reference written =>
      intro same
      simp only [movedDown] at same
      split at same
      · have number := Token.Kind.reference.inj same
        omega
      · have number := Token.Kind.reference.inj same
        omega
  | _ => simp [movedDown]

/-- No line refers to a line that was just inserted. -/
theorem not_refersTo_of_afterInsertion (renumbered : afterInsertion place line = .ok moved) :
    ¬RefersTo moved (place + 1) := by
  rintro ⟨known, isKnown, token, member, kind⟩
  obtain ⟨scanned, rescanned, -, isRescan, kinds⟩ :=
    Respelling.scan_of_respellReferences (writes_insertion place) renumbered
  obtain rfl := Except.ok.inj (isKnown.symm.trans isRescan)
  have memberToo := List.mem_map_of_mem (f := Token.kind) member
  rw [kinds] at memberToo
  obtain ⟨source, -, isMoved⟩ := List.mem_map.mp memberToo
  rw [kind_insertion, kind] at isMoved
  exact movedDown_ne_reference source.kind isMoved

/-- Removing an inserted line again respells the references from there on in the plain way and does
nothing else: the line is scanned to the tokens of before, it is the line of before if its
references were plain, and no reference becomes invalid, since none is to the inserted line.  It
takes that the line can be inserted in the first place. -/
theorem removal_undoes_insertion (place : Nat) (isScan : scan line = .ok scanned) :
    (MovableFrom place line ∧
      ∃ moved restored rescanned edits, afterInsertion place line = .ok moved ∧
        afterRemoval place moved = .ok restored ∧
        scanned.tokens.mapM (edit? (plainSpelling place)) = .ok edits ∧
        Replaces 0 line.toList (edits.filterMap id) restored.toList ∧
        (PlainFrom place line → restored = line) ∧ ¬RefersTo moved (place + 1) ∧
        scan restored = .ok rescanned ∧
        rescanned.tokens.map Token.kind = scanned.tokens.map Token.kind) ∨
    (¬MovableFrom place line ∧
      afterInsertion place line = .error (.surplus (mostLineDigits + 1))) := by
  by_cases movable : MovableFrom place line
  · left
    have succeeds := (succeeds_insertion_iff isScan).mpr movable
    obtain ⟨moved, -, -, inserted, -⟩ :=
      Respelling.scan_respelt (writes_insertion place) isScan succeeds
    obtain ⟨restored, rescanned, edits, respelt, isRescan, kinds, edited, replaces⟩ :=
      Respelling.scan_respelt (writes_plain place) isScan (succeeds_plain isScan)
    simp only [kind_plain] at kinds
    have removed := (afterRemoval_of_afterInsertion inserted).trans respelt
    have same (isPlain : PlainFrom place line) : restored = line :=
      Except.ok.inj (removed.symm.trans (afterRemoval_of_plainFrom isPlain inserted))
    exact ⟨movable, moved, restored, rescanned, edits, inserted, removed, edited, replaces, same,
      not_refersTo_of_afterInsertion inserted, isRescan, kinds⟩
  · exact .inr ⟨movable, afterInsertion_eq_error isScan movable⟩

/-- References with a digit more after the insertion, and with a spelling that is not plain. -/
theorem removal_undoes_insertion_digits :
    ∃ scanned rescanned, scan "line9 + LINE05 GiB/line3" = .ok scanned ∧
      afterInsertion 4 "line9 + LINE05 GiB/line3" = .ok "line10 + line6 GiB/line3" ∧
      afterRemoval 4 "line10 + line6 GiB/line3" = .ok "line9 + line5 GiB/line3" ∧
      ¬RefersTo "line10 + line6 GiB/line3" 5 ∧
      scan "line9 + line5 GiB/line3" = .ok rescanned ∧
      rescanned.tokens.map Token.kind = scanned.tokens.map Token.kind := by
  have isScan := Scan.scan_eq_ok_iff.mpr
    (.piece (by decide +kernel) rfl
      (.blank (by decide +kernel)
        (.piece (by decide +kernel) rfl
          (.blank (by decide +kernel)
            (.piece (by decide +kernel) rfl
              (.blank (by decide +kernel)
                (.piece (by decide +kernel) rfl
                  (.piece (by decide +kernel) rfl
                    (.piece (by decide +kernel) rfl .done)))))))) :
      Scan.Cuts "line9 + LINE05 GiB/line3".toList.length "line9 + LINE05 GiB/line3".toList _)
  have isInserted : afterInsertion 4 "line9 + LINE05 GiB/line3" =
      .ok "line10 + line6 GiB/line3" := by
    unfold afterInsertion respellReferences
    rw [isScan]
    rfl
  have isPlain : respellReferences (plainSpelling (4 : Nat)) "line9 + LINE05 GiB/line3" =
      .ok "line9 + line5 GiB/line3" := by
    unfold respellReferences
    rw [isScan]
    rfl
  have isRemoved : afterRemoval 4 "line10 + line6 GiB/line3" = .ok "line9 + line5 GiB/line3" :=
    (@afterRemoval_of_afterInsertion 4 _ _ isInserted).trans isPlain
  obtain ⟨-, moved, restored, rescanned, _, inserted, removed, -, -, -, unreferenced, isRescan,
    kinds⟩ | ⟨-, fails⟩ := removal_undoes_insertion 4 isScan
  · obtain rfl := Except.ok.inj (isInserted.symm.trans inserted)
    obtain rfl := Except.ok.inj (isRemoved.symm.trans removed)
    exact ⟨_, rescanned, isScan, inserted, removed, unreferenced, isRescan, kinds⟩
  · exact absurd (isInserted.symm.trans fails) (by simp)

/-- A line that is scanned is not restored, since no line can be inserted above its target. -/
theorem lastReference_not_restored :
    ∃ scanned, scan lastReference = .ok scanned ∧
      ¬∃ moved restored, afterInsertion 4 lastReference = .ok moved ∧
        afterRemoval 4 moved = .ok restored := by
  obtain ⟨scanned, isScan, -⟩ := exists_scan_lastReference
  have fails := @afterInsertion_lastReference 4 (by decide)
  refine ⟨scanned, isScan, ?_⟩
  rintro ⟨moved, restored, inserted, -⟩
  exact absurd (fails.symm.trans inserted) (by simp)

end Renumbering

theorem refersTo_iff_not_everyReference {line : String} {number : Nat} :
    RefersTo line number ↔ ¬EveryReference (fun _ written => written ≠ number) line := by
  constructor
  · rintro ⟨scanned, isScan, token, member, kind⟩ every
    exact every scanned isScan token member number kind rfl
  · intro notEvery
    by_contra unreferenced
    refine notEvery fun scanned isScan token member written kind same => ?_
    exact unreferenced ⟨scanned, isScan, token, member, same ▸ kind⟩

instance (line : String) (number : Nat) : Decidable (RefersTo line number) :=
  decidable_of_iff _ refersTo_iff_not_everyReference.symm

end NoteCalc
