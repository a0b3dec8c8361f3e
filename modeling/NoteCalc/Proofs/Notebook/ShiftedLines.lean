import NoteCalc.Proofs.Notebook.LineObservation
import NoteCalc.Proofs.Notebook.RenumberedLines

/-!
# Lines that move down

When a line without a result is inserted, the lines below it move down, and references to them are
renumbered.  A renumbered line shows at its new place what it showed at the old one: each of its
references leads to the same result as before, and the results and the assignments above it are the
same but for the inserted line, which has none.
-/

namespace NoteCalc

open Surroundings (AgreeAt AgreeAcross)

namespace Renumbering

variable {α : Type} {place line : Nat}

/-! ## Places after an insertion -/

/-- Where a line stands after a line is inserted at a place. -/
def shift (place line : Nat) : Nat :=
  if place ≤ line then line + 1 else line

theorem shift_le_shift_iff {other : Nat} : shift place line ≤ shift place other ↔ line ≤ other := by
  unfold shift
  split <;> split <;> omega

theorem shift_succ_succ (place line : Nat) :
    shift (place + 1) (line + 1) = shift place line + 1 := by
  unfold shift
  split <;> split <;> omega

/-- Every place but that of the inserted line is the new place of a line. -/
theorem exists_shift_of_ne {other : Nat} (elsewhere : other ≠ place) :
    ∃ line, other = shift place line := by
  unfold shift
  rcases Nat.lt_or_gt_of_ne elsewhere with above | below
  · exact ⟨other, by rw [if_neg (by omega)]⟩
  · exact ⟨other - 1, by rw [if_pos (by omega)]; omega⟩

theorem length_insertIdx_shift (entries : List α) (inserted : α) (place : Nat) :
    (entries.insertIdx place inserted).length = shift place entries.length := by
  rw [List.length_insertIdx]
  rfl

theorem getElem?_insertIdx_shift (entries : List α) (inserted : α) (place line : Nat) :
    (entries.insertIdx place inserted)[shift place line]? = entries[line]? := by
  induction entries generalizing place line with
  | nil =>
      cases place with
      | zero => simp [shift]
      | succ place => simp
  | cons entry entries induction =>
      cases place with
      | zero => simp [shift]
      | succ place =>
          cases line with
          | zero => simp [shift]
          | succ line =>
              rw [shift_succ_succ, List.insertIdx_succ_cons, List.getElem?_cons_succ,
                List.getElem?_cons_succ]
              exact induction place line

/-- What is above a line is the same after an insertion but for the inserted entry, which does not
count. -/
theorem filterMap_take_insertIdx_shift (entries : List (Option α)) (place line : Nat) :
    ((entries.insertIdx place none).take (shift place line)).filterMap id =
      (entries.take line).filterMap id := by
  induction entries generalizing place line with
  | nil =>
      cases place with
      | zero => cases line <;> simp [shift]
      | succ place => simp
  | cons entry entries induction =>
      cases place with
      | zero => simp [shift]
      | succ place =>
          cases line with
          | zero => simp [shift]
          | succ line =>
              rw [shift_succ_succ, List.insertIdx_succ_cons, List.take_succ_cons,
                List.take_succ_cons, List.filterMap_cons, List.filterMap_cons, induction]

/-- A moved reference refers to the new place of the line that it referred to. -/
theorem exists_movedDown_reference (positive : 0 < place) (written : Nat) :
    ∃ number, movedDown place (.reference written) = .reference number ∧
      Token.referredPlace number = shift place (Token.referredPlace written) := by
  unfold Token.referredPlace shift
  by_cases moves : 1 ≤ written ∧ place ≤ written - 1
  · refine ⟨written + 1, if_pos moves, ?_⟩
    rw [if_pos moves.2]
    omega
  · refine ⟨written, if_neg moves, ?_⟩
    rw [if_neg (by omega)]

/-- Moving up undoes moving down, except for what referred to the removed line. -/
theorem movedDown_movedUp {kind : Token.Kind} (other : kind ≠ .reference (place + 1)) :
    movedDown place (movedUp place kind) = kind := by
  cases kind with
  | reference written =>
      have kept : ¬(1 ≤ written ∧ written - 1 = place) := by
        rintro ⟨isLine, here⟩
        exact other (congrArg Token.Kind.reference (by omega))
      unfold movedUp
      simp only [if_neg kept]
      split
      · rename_i below
        unfold movedDown
        simp only
        rw [if_pos (by omega), Nat.sub_add_cancel below.1]
      · rename_i above
        unfold movedDown
        simp only
        rw [if_neg (by omega)]
  | _ => rfl

end Renumbering

open Renumbering

namespace Surroundings

variable {bindings : Bindings} {results : List (Option String)} {place line : Nat}

theorem total_insertIdx_shift :
    total ⟨some bindings, results.insertIdx place none, shift place line⟩ =
      total ⟨some bindings, results, line⟩ := by
  have same := filterMap_take_insertIdx_shift results place line
  unfold total above
  simp only [Int.natCast_nonneg, if_true, Int.toNat_natCast, same]

theorem resultOf_insertIdx_shift (token other : Token) (referred : Nat) :
    SucceedAlike Eq (resultOf ⟨some bindings, results, line⟩ token referred)
      (resultOf ⟨some bindings, results.insertIdx place none, shift place line⟩ other
        (shift place referred)) := by
  have sameResult := getElem?_insertIdx_shift results none place referred
  unfold resultOf
  simp only [Int.ofNat_le, shift_le_shift_iff, sameResult]
  split
  · exact .fail _ _
  · cases results[referred]?.join.bind Quantity.parse? with
    | none => exact .fail _ _
    | some value => exact .refl _

/-- A renumbered token means at the new place of its line what the token meant at the old one. -/
theorem agreeAt_movedDown (positive : 0 < place) {token other : Token}
    (moved : other.kind = movedDown place token.kind) :
    AgreeAt ⟨some bindings, results, line⟩
      ⟨some bindings, results.insertIdx place none, shift place line⟩ token other where
  alike := by
    cases kind : token.kind with
    | reference written =>
        obtain ⟨number, renumbered, -⟩ := exists_movedDown_reference positive written
        exact .references kind (by rw [moved, kind, renumbered])
    | _ => exact .sameKind (by rw [moved, kind]; rfl)
  bound := fun _ _ => rfl
  operand := by
    unfold operand
    cases kind : token.kind with
    | reference written =>
        obtain ⟨number, renumbered, refers⟩ := exists_movedDown_reference positive written
        rw [moved, kind, renumbered]
        simp only [refers]
        exact resultOf_insertIdx_shift token other _
    | identifier name =>
        rw [moved, kind]
        unfold movedDown valueOf
        simp only [Option.bind_some]
        cases bindings.lookup name with
        | none => exact .fail _ _
        | some text =>
            simp only
            cases Quantity.parse? text with
            | none => exact .fail _ _
            | some value => exact .refl _
    | number | amount =>
        rw [moved, kind]
        exact .refl _
    | _ =>
        rw [moved, kind]
        exact .fail _ _
  total := fun _ => total_insertIdx_shift.symm

end Surroundings

/-- Two lines with the same tokens, but for references that are moved for an inserted line without a
result, show the same. -/
theorem evaluateLine_shift {bindings : Bindings} {results : List (Option String)}
    {place line : Nat} (positive : 0 < place) {text other : String} {scanned rescanned : Scan}
    (isScan : scan text = .ok scanned) (isRescan : scan other = .ok rescanned)
    (kinds : rescanned.tokens.map Token.kind =
      scanned.tokens.map fun token => movedDown place token.kind) :
    evaluateLine ⟨some bindings, results.insertIdx place none, shift place line⟩ other =
      evaluateLine ⟨some bindings, results, line⟩ text := by
  have pairs : List.Forall₂ (fun (token other : Token) => other.kind = movedDown place token.kind)
      scanned.tokens rescanned.tokens := by
    have same := List.forall₂_map_left_iff.mp (List.forall₂_eq_eq_eq ▸ kinds)
    exact (List.forall₂_map_right_iff.mp same).flip
  have agree : AgreeAcross scanned.tokens rescanned.tokens ⟨some bindings, results, line⟩
      ⟨some bindings, results.insertIdx place none, shift place line⟩ :=
    ⟨rfl, pairs.imp fun _ _ pair => Surroundings.agreeAt_movedDown positive pair⟩
  exact (evaluateLine_alike isScan isRescan agree).symm

/-- A line that is renumbered for an inserted line without a result shows at its new place what it
showed at the old one. -/
theorem evaluateLine_movedDown {bindings : Bindings} {results : List (Option String)}
    {place line : Nat} (positive : 0 < place) {text moved : String}
    (renumbered : afterInsertion place text = .ok moved) :
    evaluateLine ⟨some bindings, results.insertIdx place none, shift place line⟩ moved =
      evaluateLine ⟨some bindings, results, line⟩ text := by
  obtain ⟨scanned, rescanned, isScan, isRescan, kinds⟩ :=
    Respelling.scan_of_respellReferences (writes_insertion place) renumbered
  simp only [kind_insertion] at kinds
  exact evaluateLine_shift positive isScan isRescan kinds

end NoteCalc
