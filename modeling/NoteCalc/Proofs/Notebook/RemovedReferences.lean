import NoteCalc.Proofs.Formula.UnboundNames
import NoteCalc.Proofs.Notebook.Consistency
import NoteCalc.Proofs.Notebook.RenumberedLines

/-!
# References to a removed line

When a line is joined to the one above it, references to it become a word that names nothing.  As
long as nothing is assigned to that word, a line that holds it shows a result only if a part of the
line has a value in spite of the word.
-/

namespace NoteCalc

open Renumbering Formula

/-- A line refers to the line with a number. -/
def RefersTo (line : String) (number : Nat) : Prop :=
  ∃ scanned, scan line = .ok scanned ∧ ∃ token ∈ scanned.tokens, token.kind = .reference number

/-- A line holds a name. -/
def HoldsName (line name : String) : Prop :=
  ∃ scanned, scan line = .ok scanned ∧ ∃ token ∈ scanned.tokens, token.variableName? = some name

/-- A line has a value in spite of an unbound name in it. -/
def LineValuedApart (surroundings : Surroundings) (line : String) : Prop :=
  ∃ tokens, tokens? line = .ok (some tokens) ∧ ValuedApart surroundings tokens

/-- A line that holds an unbound name shows a result exactly if it has a value in spite of it. -/
theorem result_eq_none_iff {surroundings : Surroundings} {bindings : Bindings}
    (names : surroundings.bindings = some bindings) {line name : String}
    (holds : HoldsName line name) (notBound : surroundings.binds name = false) {shown : LineValue}
    (evaluated : evaluateLine surroundings line = .ok shown) :
    shown.result = none ↔ ¬LineValuedApart surroundings line := by
  obtain ⟨scanned, isScan, token, member, named⟩ := holds
  cases refused : scanned.error? with
  | some error =>
      have noTokens : tokens? line = .ok none := by simp [tokens?, isScan, Except.map, refused]
      rw [evaluateLine_of_refused noTokens] at evaluated
      obtain rfl := Except.ok.inj evaluated
      simp [LineValuedApart, noTokens]
  | none =>
      have accepted : tokens? line = .ok (some scanned.tokens) := by
        simp [tokens?, isScan, Except.map, refused]
      have noValue := evaluate_value_eq_none_iff names ⟨name, named, notBound⟩ member
      rw [evaluateLine_of_tokens accepted] at evaluated
      obtain rfl := Except.ok.inj evaluated
      have apart : LineValuedApart surroundings line ↔ ValuedApart surroundings scanned.tokens := by
        simp [LineValuedApart, accepted]
      rw [apart, ← noValue]
      cases isValue : (evaluate surroundings scanned.tokens).value with
      | none => simp
      | some shown => simpa using result_ne_none isValue

namespace Renumbering

/-- A reference to a removed line is the invalid word afterwards. -/
theorem holdsName_of_afterRemoval {place : Nat} {text moved : String}
    (refers : RefersTo text (place + 1)) (renumbered : afterRemoval place text = .ok moved) :
    HoldsName moved invalidReference := by
  obtain ⟨scanned, isScan, token, member, isReference⟩ := refers
  obtain ⟨known, rescanned, isKnown, isRescan, kinds⟩ :=
    Respelling.scan_of_respellReferences (writes_removal place) renumbered
  obtain rfl := Except.ok.inj (isKnown.symm.trans isScan)
  have isMoved : movedUp place (.reference (place + 1)) = .identifier invalidReference := by
    simp [movedUp, invalidReference]
  have memberToo : .identifier invalidReference ∈ rescanned.tokens.map Token.kind := by
    rw [kinds]
    refine List.mem_map.mpr ⟨token, member, ?_⟩
    rw [isReference, kind_removal, isMoved]
  obtain ⟨movedToken, memberMoved, kind⟩ := List.mem_map.mp memberToo
  exact ⟨rescanned, isRescan, movedToken, memberMoved, by simp [Token.variableName?, kind]⟩

/-- Where a line stands after the line at a place is removed. -/
def placeAfterRemoval (place line : Nat) : Nat :=
  if line < place then line else line - 1

theorem getElem?_eraseIdx_placeAfterRemoval {α : Type} (entries : List α) {place line : Nat}
    (other : line ≠ place) :
    (entries.eraseIdx place)[placeAfterRemoval place line]? = entries[line]? := by
  unfold placeAfterRemoval
  split
  · rename_i above
    exact List.getElem?_eraseIdx_of_lt above
  · rw [List.getElem?_eraseIdx_of_ge (by omega)]
    congr 1
    omega

end Renumbering

namespace Bindings

theorem binds_ofAssignments_eq_false {assignments : List (Option Assignment)} {name : String}
    (unnamed : ∀ made, some made ∈ assignments → made.name ≠ name) :
    (ofAssignments assignments).binds name = false := by
  unfold binds
  rw [ofAssignments_eq_foldl, lookup_foldl_of_unnamed unnamed]
  rfl

end Bindings

namespace Notebook

variable {notebook next : Notebook} {line : Nat}

theorem lt_length_of_refersTo {number : Nat} (refers : RefersTo (notebook.lineAt line) number) :
    line < notebook.lines.length := by
  by_contra outside
  obtain ⟨scanned, isScan, token, member, -⟩ := refers
  have noLine : notebook.lineAt line = "" := by
    rw [lineAt, List.getElem?_eq_none (Nat.le_of_not_lt outside)]
    rfl
  have isEmpty : scan "" = .ok {} := Scan.scan_eq_ok_iff.mpr .done
  rw [noLine, isEmpty] at isScan
  obtain rfl := Except.ok.inj isScan
  exact absurd member List.not_mem_nil

/-- Joining two lines renumbers every other line, at its new place. -/
theorem lineAt_of_joinLines (done : notebook.joinLines = .ok next)
    (notFirst : notebook.cursorLine ≠ 0) (isLine : line < notebook.lines.length)
    (notUpper : line ≠ notebook.cursorLine - 1) (notLower : line ≠ notebook.cursorLine) :
    placeAfterRemoval notebook.cursorLine line < next.lines.length ∧
      afterRemoval notebook.cursorLine (notebook.lineAt line) =
        .ok (next.lineAt (placeAfterRemoval notebook.cursorLine line)) := by
  obtain ⟨lines, renumbered, rest⟩ := bind_eq_ok_iff.mp done
  obtain ⟨rfl, -⟩ := recalculate_lines rest
  have elsewhere : notebook.cursorLine - 1 ≠ placeAfterRemoval notebook.cursorLine line := by
    unfold placeAfterRemoval
    split <;> omega
  have isOther := getElem?_eraseIdx_placeAfterRemoval notebook.lines notLower
  rw [lineAt_of_lt isLine, ← List.getElem?_set_ne elsewhere] at isOther
  obtain ⟨respelt, isRespelt, respells⟩ := allAfterRemoval_getElem? renumbered isOther
  obtain ⟨inside, -⟩ := List.getElem?_eq_some_iff.mp isRespelt
  refine ⟨inside, ?_⟩
  rw [respells, lineAt, isRespelt]
  rfl

/-- Once a line is joined to the one above it, a line that referred to it shows a result exactly if
it has a value in spite of the invalid word, provided that nothing above it is assigned to that
word. -/
theorem result_of_removed_reference (atStart : notebook.column = 0)
    (notFirst : notebook.cursorLine ≠ 0) (done : notebook.delete = .ok next)
    (notUpper : line ≠ notebook.cursorLine - 1) (notLower : line ≠ notebook.cursorLine)
    (refers : RefersTo (notebook.lineAt line) (notebook.cursorLine + 1))
    (unassigned : ∀ made,
      some made ∈ next.assignments.take (placeAfterRemoval notebook.cursorLine line) →
        made.name ≠ invalidReference) :
    next.results[placeAfterRemoval notebook.cursorLine line]? = some none ↔
      ¬LineValuedApart (next.surroundings (placeAfterRemoval notebook.cursorLine line))
        (next.lineAt (placeAfterRemoval notebook.cursorLine line)) := by
  have joined := joinLines_of_delete atStart notFirst done
  obtain ⟨inside, renumbered⟩ :=
    lineAt_of_joinLines joined notFirst (lt_length_of_refersTo refers) notUpper notLower
  obtain ⟨inStep, shows⟩ := coherent_iff.mp (joinLines_coherent joined)
  have holds := holdsName_of_afterRemoval refers renumbered
  have notBound : (next.surroundings (placeAfterRemoval notebook.cursorLine line)).binds
      invalidReference = false := Bindings.binds_ofAssignments_eq_false unassigned
  rw [← result_eq_none_iff rfl holds notBound (shows _ inside)]
  have isResult : next.results[placeAfterRemoval notebook.cursorLine line]? = some _ :=
    List.getElem?_eq_getElem (inStep.results ▸ inside)
  simp [shownAt, isResult]

/-- A reference to a removed line beside an operator. -/
theorem result_of_removed_summand :
    ∃ notebook next : Notebook, notebook.Coherent ∧
      notebook.lines = ["10", "20", "30", "line2 + 0"] ∧ notebook.cursorLine = 1 ∧
      notebook.column = 0 ∧ notebook.delete = .ok next ∧
      RefersTo (notebook.lineAt 3) 2 ∧
      (∀ made, some made ∈ next.assignments.take 2 → made.name ≠ invalidReference) ∧
      next.lines = ["1020", "30", "INVALID_REF + 0"] ∧
      next.results = [some "1,020", some "30", none] ∧
      ¬LineValuedApart (next.surroundings 2) (next.lineAt 2) := by
  let notebook : Notebook :=
    { lines := ["10", "20", "30", "line2 + 0"]
      results := [some "10", some "20", some "30", some "20"]
      assignments := [none, none, none, none]
      bindings := []
      readers := {}
      cursorLine := 1 }
  let next : Notebook :=
    { lines := ["1020", "30", "INVALID_REF + 0"]
      results := [some "1,020", some "30", none]
      assignments := [none, none, none]
      bindings := []
      readers := { reads := [(2, ["INVALID_REF"])], readers := [("INVALID_REF", [2])] }
      cursorColumn := 2 }
  have coherent : notebook.Coherent := by decide +kernel
  have done : notebook.delete = .ok next := by decide +kernel
  have isScan := Scan.scan_eq_ok_iff.mpr
    (.piece (by decide +kernel) rfl
      (.blank (by decide +kernel)
        (.piece (by decide +kernel) rfl
          (.blank (by decide +kernel)
            (.piece (by decide +kernel) rfl .done)))) :
      Scan.Cuts "line2 + 0".toList.length "line2 + 0".toList _)
  have refers : RefersTo (notebook.lineAt 3) 2 :=
    ⟨_, isScan, _, List.mem_cons_self .., rfl⟩
  have unassigned : ∀ made, some made ∈ next.assignments.take 2 → made.name ≠ invalidReference := by
    simp [next]
  exact ⟨notebook, next, coherent, rfl, rfl, rfl, done, refers, unassigned, rfl, rfl,
    (result_of_removed_reference rfl (by decide) done (by decide) (by decide) refers
      unassigned).mp rfl⟩

/-- A share of a removed line shows the percentage alone. -/
theorem share_of_removed_line :
    ∃ notebook next : Notebook, notebook.Coherent ∧
      notebook.lines = ["100", "50", "20% of line2"] ∧ notebook.cursorLine = 1 ∧
      notebook.column = 0 ∧ notebook.delete = .ok next ∧
      RefersTo (notebook.lineAt 2) 2 ∧
      next.lines = ["10050", "20% of INVALID_REF"] ∧
      next.results = [some "10,050", some "20 %"] ∧
      next.results[placeAfterRemoval notebook.cursorLine 2]? ≠ some none := by
  let notebook : Notebook :=
    { lines := ["100", "50", "20% of line2"]
      results := [some "100", some "50", some "10"]
      assignments := [none, none, none]
      bindings := []
      readers := {}
      cursorLine := 1 }
  let next : Notebook :=
    { lines := ["10050", "20% of INVALID_REF"]
      results := [some "10,050", some "20 %"]
      assignments := [none, none]
      bindings := []
      readers := { reads := [(1, ["INVALID_REF"])], readers := [("INVALID_REF", [1])] }
      cursorColumn := 3 }
  have coherent : notebook.Coherent := by decide +kernel
  have done : notebook.delete = .ok next := by decide +kernel
  have isScan := Scan.scan_eq_ok_iff.mpr
    (.piece (by decide +kernel) rfl
      (.blank (by decide +kernel)
        (.piece (by decide +kernel) rfl
          (.blank (by decide +kernel)
            (.piece (by decide +kernel) rfl .done)))) :
      Scan.Cuts "20% of line2".toList.length "20% of line2".toList _)
  have refers : RefersTo (notebook.lineAt 2) 2 :=
    ⟨_, isScan, _, List.mem_cons_of_mem _ (List.mem_cons_of_mem _ (List.mem_cons_self ..)), rfl⟩
  exact ⟨notebook, next, coherent, rfl, rfl, rfl, done, refers, rfl, rfl, by decide⟩

end Notebook

end NoteCalc
