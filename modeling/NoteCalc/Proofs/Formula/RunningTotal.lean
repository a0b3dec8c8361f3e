import Mathlib.Data.List.Basic
import NoteCalc.Formula.Surroundings
import NoteCalc.Proofs.Measure.Addability

/-!
# The running total of the results above a line

The measure of a running total changes from one addition to the next, since a plain total takes the
measure of what is added and every sum comes out in the finer measure.  Its class does not change
any more once there is a measure.  So which results are left out depends on the first measure among
them only, and the total is the sum of all others.
-/

namespace NoteCalc

namespace Quantity

section Plain

variable {α : Type} {entry : Quantity α}

/-- Whether a quantity takes part in a total that a measure decides: a plain number always does, and
a measured quantity if the two measures can be added. -/
def joins (first : Option Measure) (entry : Quantity α) : Bool :=
  entry.measure.all fun measure => first.any fun first => first.addable measure

/-- The quantity is measured, and its measure can be added to a given one. -/
def InClassOf (first : Measure) (total : Quantity α) : Prop :=
  ∃ measure, total.measure = some measure ∧ first.addable measure = true

theorem joins_of_plain {first : Option Measure} (plain : entry.measure = none) :
    joins first entry = true := by
  simp [joins, plain]

end Plain

variable {α : Type} [Scalar α] {total entry : Quantity α} {first measure added : Measure}

theorem accumulate?_plain (plain : entry.measure = none) :
    total.accumulate? entry = some ⟨total.amount + entry.amount, total.measure⟩ := by
  cases isTotal : total.measure <;> simp [accumulate?, plain, isTotal]

/-- A plain total takes the measure of what is added. -/
theorem accumulate?_toPlain (plain : total.measure = none) :
    total.accumulate? entry = some ⟨total.amount + entry.amount, entry.measure⟩ := by
  simp [accumulate?, plain]

/-- Measured quantities of one class have a sum, in the finer measure. -/
theorem accumulate?_measured (isTotal : total.measure = some measure)
    (isEntry : entry.measure = some added) (addable : measure.addable added = true) :
    total.accumulate? entry = some (of ((Measure.finer α measure added).fromBase
      (measure.toBase total.amount + added.toBase entry.amount))
        (Measure.finer α measure added)) := by
  simp only [accumulate?, add, combine, isTotal, isEntry, if_pos addable]
  rfl

theorem accumulate?_unrelated (isTotal : total.measure = some measure)
    (isEntry : entry.measure = some added) (notAddable : measure.addable added = false) :
    total.accumulate? entry = none := by
  simp [accumulate?, add, combine, isTotal, isEntry, notAddable, Except.toOption]

/-- What takes part in a measured total is added, and the class of the total stays as it is. -/
theorem InClassOf.accumulate? (inClass : total.InClassOf first)
    (isJoined : joins (some first) entry = true) :
    ∃ sum, total.accumulate? entry = some sum ∧ sum.InClassOf first := by
  obtain ⟨measure, isMeasure, addable⟩ := inClass
  cases isEntry : entry.measure with
  | none =>
      exact ⟨_, accumulate?_plain isEntry, measure, isMeasure, addable⟩
  | some added =>
      have firstAdded : first.addable added = true := by simpa [joins, isEntry] using isJoined
      have both : measure.addable added = true := by
        rw [Measure.addable_comm] at addable
        exact Measure.addable_trans addable firstAdded
      refine ⟨_, accumulate?_measured isMeasure isEntry both, _, rfl, ?_⟩
      rw [Measure.addable_iff, Measure.sumClass_finer α both]
      exact Measure.addable_iff.mp addable

/-- What takes no part in a measured total cannot be added to it. -/
theorem InClassOf.accumulate?_eq_none (inClass : total.InClassOf first)
    (isOther : joins (some first) entry = false) : total.accumulate? entry = none := by
  obtain ⟨measure, isMeasure, addable⟩ := inClass
  cases isEntry : entry.measure with
  | none =>
      rw [joins_of_plain isEntry] at isOther
      exact absurd isOther (by simp)
  | some added =>
      have notFirst : first.addable added = false := by simpa [joins, isEntry] using isOther
      have notBoth : measure.addable added = false := by
        refine Bool.eq_false_iff.mpr fun both => ?_
        exact absurd (Measure.addable_trans addable both) (by simp [notFirst])
      exact accumulate?_unrelated isMeasure isEntry notBoth

/-- Add what can be added to a total, and leave out what cannot. -/
def addAll (total : Quantity α) (entries : List (Quantity α)) : Quantity α :=
  entries.foldl (fun total entry => (total.accumulate? entry).getD total) total

/-- A measured total is the sum of what takes part in it. -/
theorem InClassOf.addAll (inClass : total.InClassOf first) (entries : List (Quantity α)) :
    (entries.filter (joins (some first))).foldlM Quantity.accumulate? total =
        some (total.addAll entries) ∧
      (total.addAll entries).InClassOf first := by
  induction entries generalizing total with
  | nil => exact ⟨rfl, inClass⟩
  | cons entry entries induction =>
      cases isJoined : joins (some first) entry with
      | true =>
          obtain ⟨sum, isSum, sumInClass⟩ := inClass.accumulate? isJoined
          obtain ⟨rest, restInClass⟩ := induction sumInClass
          rw [List.filter_cons_of_pos isJoined, List.foldlM_cons, isSum]
          have unfolded : total.addAll (entry :: entries) = sum.addAll entries := by
            simp [Quantity.addAll, isSum]
          rw [unfolded]
          exact ⟨rest, restInClass⟩
      | false =>
          have isRefused := inClass.accumulate?_eq_none isJoined
          rw [List.filter_cons_of_neg (by simp [isJoined])]
          have unfolded : total.addAll (entry :: entries) = total.addAll entries := by
            simp [Quantity.addAll, isRefused]
          rw [unfolded]
          exact induction inClass

/-- The measure of the first entry that has one. -/
def firstMeasure? (entries : List (Quantity α)) : Option Measure :=
  entries.findSome? Quantity.measure

/-- A plain total takes the first measure that comes, and is the sum of what takes part from then
on. -/
theorem addAll_toPlain (plain : total.measure = none) (entries : List (Quantity α)) :
    (entries.filter (joins (firstMeasure? entries))).foldlM Quantity.accumulate? total =
        some (total.addAll entries) ∧
      (firstMeasure? entries = none → (total.addAll entries).measure = none) ∧
      ∀ first ∈ firstMeasure? entries, (total.addAll entries).InClassOf first := by
  induction entries generalizing total with
  | nil => exact ⟨rfl, fun _ => plain, by simp [firstMeasure?]⟩
  | cons entry entries induction =>
      have added : total.accumulate? entry = some ⟨total.amount + entry.amount, entry.measure⟩ :=
        accumulate?_toPlain plain
      have unfolded : total.addAll (entry :: entries) =
          addAll ⟨total.amount + entry.amount, entry.measure⟩ entries := by
        simp [addAll, added]
      cases isEntry : entry.measure with
      | none =>
          have sameFirst : firstMeasure? (entry :: entries) = firstMeasure? entries := by
            simp [firstMeasure?, isEntry]
          have rest := @induction ⟨total.amount + entry.amount, entry.measure⟩ isEntry
          rw [sameFirst, List.filter_cons_of_pos (joins_of_plain isEntry), List.foldlM_cons, added,
            unfolded]
          exact rest
      | some first =>
          have isFirst : firstMeasure? (entry :: entries) = some first := by
            simp [firstMeasure?, isEntry]
          have isJoined : joins (some first) entry = true := by
            simp [joins, isEntry, Measure.addable_refl]
          have inClass : InClassOf first
              (⟨total.amount + entry.amount, entry.measure⟩ : Quantity α) :=
            ⟨first, isEntry, first.addable_refl⟩
          obtain ⟨rest, restInClass⟩ := inClass.addAll entries
          rw [isFirst, List.filter_cons_of_pos isJoined, List.foldlM_cons, added, unfolded]
          exact ⟨rest, by simp, by simpa using restInClass⟩

end Quantity

namespace Surroundings

open Quantity (joins firstMeasure? InClassOf)

/-- The results above the line that can be read, in order. -/
def readAbove (surroundings : Surroundings) : List (Quantity Float) :=
  (surroundings.above.filterMap id).filterMap Quantity.parse?

theorem total_eq_addAll (surroundings : Surroundings) :
    surroundings.total = Quantity.addAll ⟨0, none⟩ surroundings.readAbove :=
  rfl

/-- The running total is the sum, from a plain zero on, of the results above that are plain or whose
measure can be added to the first measure among them; none of these additions is refused.  The total
is plain exactly if all of these results are, and otherwise in the class of that first measure. -/
theorem total_eq_sum (surroundings : Surroundings) :
    (surroundings.readAbove.filter (joins (firstMeasure? surroundings.readAbove))).foldlM
        Quantity.accumulate? ⟨0, none⟩ = some surroundings.total ∧
      (surroundings.total.measure = none ↔
        ∀ result ∈ surroundings.readAbove, result.measure = none) ∧
      ∀ first ∈ firstMeasure? surroundings.readAbove, surroundings.total.InClassOf first := by
  let zero : Quantity Float := ⟨0, none⟩
  have isPlain : zero.measure = none := rfl
  obtain ⟨sum, plain, measured⟩ := Quantity.addAll_toPlain isPlain surroundings.readAbove
  rw [total_eq_addAll]
  refine ⟨sum, ?_, measured⟩
  have allPlain : firstMeasure? surroundings.readAbove = none ↔
      ∀ result ∈ surroundings.readAbove, result.measure = none := List.findSome?_eq_none_iff
  rw [← allPlain]
  constructor
  · intro isPlainTotal
    refine Option.eq_none_iff_forall_ne_some.mpr fun first isFirst => ?_
    obtain ⟨measure, isMeasure, -⟩ := measured first isFirst
    exact absurd (isMeasure.symm.trans isPlainTotal) (Option.some_ne_none measure)
  · exact plain

end Surroundings

end NoteCalc
