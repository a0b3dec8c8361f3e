import NoteCalc.Line.Scan
import NoteCalc.Proofs.Success

/-!
# The pieces of a line

A successful scan is a way of cutting a line into blanks and recognised pieces.  The first relation
below says which forms a piece can have; the second one follows the cuts, so that facts about scans
are shown by induction on the pieces of a line.
-/

namespace NoteCalc

open NoteCalc.Text

namespace Lexeme

/-! ## Kinds of tokens other than references -/

theorem keyword?_ne_reference {before rest : List Char} {kind : Token.Kind} (written : Nat)
    (isKeyword : keyword? before = some (kind, rest)) : kind ≠ .reference written := by
  obtain ⟨⟨found, after⟩, -, isKnown⟩ := Option.bind_eq_some_iff.mp isKeyword
  obtain ⟨known, isKind, same⟩ := Option.map_eq_some_iff.mp isKnown
  obtain ⟨rfl, -⟩ := Prod.mk.inj same
  rintro rfl
  unfold keywordKind? at isKind
  split_ifs at isKind <;> exact absurd isKind (by simp)

theorem money?_ne_reference {before rest : List Char} {kind : Token.Kind} (written : Nat)
    (isMoney : money? before = some (kind, rest)) : kind ≠ .reference written := by
  cases before with
  | nil => exact absurd isMoney (by simp [money?])
  | cons sign before =>
      obtain ⟨currency, -, isAmount⟩ := Option.bind_eq_some_iff.mp isMoney
      obtain ⟨numeral, -, same⟩ := Option.map_eq_some_iff.mp isAmount
      rw [← (Prod.mk.inj same).1]
      exact Token.Kind.noConfusion

theorem number?_ne_reference {before rest : List Char} {kind : Token.Kind} (written : Nat)
    (isNumber : number? before = some (kind, rest)) : kind ≠ .reference written := by
  obtain ⟨numeral, -, same⟩ := Option.map_eq_some_iff.mp isNumber
  simp only at same
  split at same <;>
    (rw [← (Prod.mk.inj same).1]
     exact Token.Kind.noConfusion)

theorem sign?_ne_reference {sign : Char} {kind : Token.Kind} (written : Nat)
    (isSign : sign? sign = some kind) : kind ≠ .reference written := by
  rintro rfl
  unfold sign? at isSign
  split at isSign <;> simp at isSign

theorem name?_ne_reference {before rest : List Char} {kind : Token.Kind} (written : Nat)
    (isName : name? before = some (kind, rest)) : kind ≠ .reference written := by
  obtain ⟨found, -, same⟩ := Option.map_eq_some_iff.mp isName
  simp only at same
  rintro rfl
  split at same
  · exact absurd same (by simp)
  · split at same
    · exact absurd same (by simp)
    · split at same <;> exact absurd same (by simp)

theorem loneUnit?_ne_reference {before rest : List Char} {kind : Token.Kind} (written : Nat)
    (isUnit : loneUnit? before = some (kind, rest)) : kind ≠ .reference written := by
  cases before with
  | nil => exact absurd isUnit (by simp [loneUnit?])
  | cons sign before =>
      obtain ⟨unit, -, same⟩ := Option.map_eq_some_iff.mp isUnit
      rintro rfl
      split at same <;> exact absurd same (by simp)

end Lexeme

namespace Scan

/-! ## What a piece is recognised as -/

/-- The forms of a piece that is no reference. -/
inductive Plain (character : Char) (text : List Char) : Option Token.Kind → List Char → Prop where
  | keyword {kind : Token.Kind} {left : List Char}
      (isKeyword : Lexeme.keyword? (character :: text) = some (kind, left)) :
      Plain character text (some kind) left
  | money {kind : Token.Kind} {left : List Char}
      (isMoney : Lexeme.money? (character :: text) = some (kind, left)) :
      Plain character text (some kind) left
  | number {kind : Token.Kind} {left : List Char}
      (isNumber : Lexeme.number? (character :: text) = some (kind, left)) :
      Plain character text (some kind) left
  | sign {kind : Token.Kind} (isSign : Lexeme.sign? character = some kind) :
      Plain character text (some kind) text
  | name {kind : Token.Kind} {left : List Char}
      (isName : Lexeme.name? (character :: text) = some (kind, left)) :
      Plain character text (some kind) left
  | unit {kind : Token.Kind} {left : List Char}
      (isUnit : Lexeme.loneUnit? (character :: text) = some (kind, left)) :
      Plain character text (some kind) left
  | skipped (noName : Lexeme.name? (character :: text) = none) : Plain character text none text

theorem recognise_reference {character : Char} {text left : List Char} {written : Nat}
    (isReference : Lexeme.reference? (character :: text) = some (written, left))
    (short : Lexeme.referenceDigits (character :: text) left ≤ mostLineDigits) :
    recognise character text = .ok (some (.reference written), left) := by
  unfold recognise
  simp [isReference, short]

theorem recognise_surplus {character : Char} {text left : List Char} {written : Nat}
    (isReference : Lexeme.reference? (character :: text) = some (written, left))
    (long : mostLineDigits < Lexeme.referenceDigits (character :: text) left) :
    recognise character text =
      .error (.surplus (Lexeme.referenceDigits (character :: text) left)) := by
  unfold recognise
  simp [isReference, Nat.not_le_of_lt long]

/-- A piece is a reference with not too many digits, or it has one of the other forms. -/
theorem recognise_cases {character : Char} {text left : List Char} {kind : Option Token.Kind}
    (found : recognise character text = .ok (kind, left)) :
    (∃ written, kind = some (.reference written) ∧
      Lexeme.reference? (character :: text) = some (written, left) ∧
      Lexeme.referenceDigits (character :: text) left ≤ mostLineDigits) ∨
    (Lexeme.reference? (character :: text) = none ∧ Plain character text kind left) := by
  cases isReference : Lexeme.reference? (character :: text) with
  | some reference =>
      rcases Nat.lt_or_ge mostLineDigits (Lexeme.referenceDigits (character :: text) reference.2)
        with long | short
      · rw [recognise_surplus isReference long] at found
        exact absurd found (by simp)
      · rw [recognise_reference isReference short] at found
        obtain ⟨rfl, rfl⟩ := Prod.mk.inj (Except.ok.inj found)
        exact .inl ⟨reference.1, rfl, rfl, short⟩
  | none =>
      refine .inr ⟨rfl, ?_⟩
      unfold recognise at found
      simp only [isReference] at found
      split at found
      · rename_i early
        obtain ⟨rfl, rfl⟩ := Prod.mk.inj (Except.ok.inj found)
        rcases Option.or_eq_some_iff.mp early with isKeyword | ⟨-, isMoney⟩
        · exact .keyword isKeyword
        · exact .money isMoney
      · split at found
        · split at found
          · rename_i isNumber
            obtain ⟨rfl, rfl⟩ := Prod.mk.inj (Except.ok.inj found)
            exact .number isNumber
          · exact absurd found (by simp)
        · split at found
          · rename_i late
            obtain ⟨rfl, rfl⟩ := Prod.mk.inj (Except.ok.inj found)
            rcases Option.or_eq_some_iff.mp late with late | ⟨-, isUnit⟩
            · rcases Option.or_eq_some_iff.mp late with isSign | ⟨-, isName⟩
              · obtain ⟨sign, isKnown, rfl⟩ := Option.map_eq_some_iff.mp isSign
                exact .sign isKnown
              · exact .name isName
            · exact .unit isUnit
          · rename_i nothing
            obtain ⟨rfl, rfl⟩ := Prod.mk.inj (Except.ok.inj found)
            exact .skipped (Option.or_eq_none_iff.mp (Option.or_eq_none_iff.mp nothing).1).2

theorem Plain.ne_reference {character : Char} {rest left : List Char} {kind : Token.Kind}
    (piece : Plain character rest (some kind) left) (written : Nat) :
    kind ≠ .reference written := by
  cases piece with
  | keyword isKeyword => exact Lexeme.keyword?_ne_reference written isKeyword
  | money isMoney => exact Lexeme.money?_ne_reference written isMoney
  | number isNumber => exact Lexeme.number?_ne_reference written isNumber
  | sign isSign => exact Lexeme.sign?_ne_reference written isSign
  | name isName => exact Lexeme.name?_ne_reference written isName
  | unit isUnit => exact Lexeme.loneUnit?_ne_reference written isUnit

/-! ## The cuts of a line -/

/-- The token for a piece that is one, between what was left of the line before and after it. -/
def token? (length : Nat) (before after : List Char) (kind : Option Token.Kind) : Option Token :=
  kind.map fun kind =>
    ⟨kind, String.ofList (before.take (before.length - after.length)),
      spanBetween length before after⟩

/-- What a scan of the rest of a line of a given length finds, piece by piece. -/
inductive Cuts (length : Nat) : List Char → Scan → Prop where
  | done : Cuts length [] {}
  | blank {character : Char} {text : List Char} {scanned : Scan} (blank : isBlank character = true)
      (rest : Cuts length text scanned) : Cuts length (character :: text) scanned
  | piece {character : Char} {text left : List Char} {kind : Option Token.Kind} {later : Scan}
      (notBlank : isBlank character = false)
      (found : recognise character text = .ok (kind, left)) (rest : Cuts length left later) :
      Cuts length (character :: text)
        (extend (token? length (character :: text) left kind)
          (warning? length character kind (character :: text) left) later)

theorem cuts_of_remaining {length : Nat} {text : List Char} {scanned : Scan}
    (isScan : remaining length text = .ok scanned) : Cuts length text scanned := by
  fun_induction remaining length text generalizing scanned with
  | case1 =>
      rw [← Except.ok.inj isScan]
      exact .done
  | case2 character text blank induction => exact .blank blank (induction isScan)
  | case3 => exact absurd isScan (by simp)
  | case4 character text notBlank kind left found =>
      rename_i induction
      obtain ⟨later, isLater, rfl⟩ := map_eq_ok_iff.mp isScan
      exact .piece (by simpa using notBlank) found (induction isLater)

theorem Cuts.remaining_eq {length : Nat} {text : List Char} {scanned : Scan}
    (cuts : Cuts length text scanned) : remaining length text = .ok scanned := by
  induction cuts with
  | done => rw [remaining]
  | blank blank rest induction =>
      rw [remaining, if_pos blank]
      exact induction
  | @piece character text left kind later notBlank found rest induction =>
      rw [remaining, if_neg (by simp [notBlank])]
      split
      · rename_i unread
        rw [found] at unread
        exact absurd unread (by simp)
      · rename_i other rest' foundToo
        rw [found] at foundToo
        obtain ⟨rfl, rfl⟩ := Prod.mk.inj (Except.ok.inj foundToo)
        rw [induction]
        rfl

/-- A scan succeeds exactly along the cuts of the line. -/
theorem scan_eq_ok_iff {line : String} {scanned : Scan} :
    scan line = .ok scanned ↔ Cuts line.toList.length line.toList scanned :=
  ⟨cuts_of_remaining, Cuts.remaining_eq⟩

end Scan

end NoteCalc
