import Mathlib.Data.List.Forall2

/-!
# Related lists

Two lists whose elements are related one by one are cut at the same places by tests that cannot
tell related elements apart, and what is found in them is found at the same places.  Such a list is
there for another one if each of its elements is related to something.
-/

namespace NoteCalc

namespace RelatedLists

variable {α β γ : Type} {related : α → β → Prop} {left : List α} {right : List β}
  {test : α → Bool} {testToo : β → Bool}

/-- A list is related to one if and only if each of its elements is. -/
theorem exists_right_iff :
    (∃ right, List.Forall₂ related left right) ↔
      ∀ first ∈ left, ∃ second, related first second := by
  constructor
  · rintro ⟨right, pairs⟩
    induction pairs with
    | nil => exact fun _ member => absurd member List.not_mem_nil
    | cons pair _ induction => exact List.forall_mem_cons.mpr ⟨⟨_, pair⟩, induction⟩
  · intro each
    induction left with
    | nil => exact ⟨[], .nil⟩
    | cons first left induction =>
        obtain ⟨hasFirst, others⟩ := List.forall_mem_cons.mp each
        obtain ⟨second, pair⟩ := hasFirst
        obtain ⟨right, pairs⟩ := induction others
        exact ⟨second :: right, .cons pair pairs⟩

theorem forall_right {holds : β → Prop} (pairs : List.Forall₂ related left right)
    (each : ∀ first second, related first second → holds second) :
    ∀ second ∈ right, holds second := by
  induction pairs with
  | nil => exact fun _ member => absurd member List.not_mem_nil
  | cons pair _ induction => exact List.forall_mem_cons.mpr ⟨each _ _ pair, induction⟩

theorem any_eq (pairs : List.Forall₂ related left right)
    (same : ∀ first second, related first second → test first = testToo second) :
    left.any test = right.any testToo := by
  induction pairs with
  | nil => rfl
  | cons pair _ induction => rw [List.any_cons, List.any_cons, same _ _ pair, induction]

theorem takeWhile (pairs : List.Forall₂ related left right)
    (same : ∀ first second, related first second → test first = testToo second) :
    List.Forall₂ related (left.takeWhile test) (right.takeWhile testToo) := by
  induction pairs with
  | nil => exact .nil
  | cons pair _ induction =>
      rw [List.takeWhile_cons, List.takeWhile_cons, same _ _ pair]
      split
      · exact .cons pair induction
      · exact .nil

theorem dropWhile (pairs : List.Forall₂ related left right)
    (same : ∀ first second, related first second → test first = testToo second) :
    List.Forall₂ related (left.dropWhile test) (right.dropWhile testToo) := by
  induction pairs with
  | nil => exact .nil
  | cons pair rest induction =>
      rw [List.dropWhile_cons, List.dropWhile_cons, same _ _ pair]
      split
      · exact induction
      · exact .cons pair rest

theorem findSome?_eq {find : α → Option γ} {findToo : β → Option γ}
    (pairs : List.Forall₂ related left right)
    (same : ∀ first second, related first second → find first = findToo second) :
    left.findSome? find = right.findSome? findToo := by
  induction pairs with
  | nil => rfl
  | cons pair _ induction =>
      rw [List.findSome?_cons, List.findSome?_cons, same _ _ pair, induction]

theorem head?_any_eq (pairs : List.Forall₂ related left right)
    (same : ∀ first second, related first second → test first = testToo second) :
    left.head?.any test = right.head?.any testToo := by
  cases pairs with
  | nil => rfl
  | cons pair _ => exact same _ _ pair

theorem getLast?_any_eq (pairs : List.Forall₂ related left right)
    (same : ∀ first second, related first second → test first = testToo second) :
    left.getLast?.any test = right.getLast?.any testToo := by
  rw [List.getLast?_eq_head?_reverse, List.getLast?_eq_head?_reverse]
  exact head?_any_eq (List.forall₂_reverse_iff.mpr pairs) same

theorem dropLast (pairs : List.Forall₂ related left right) :
    List.Forall₂ related left.dropLast right.dropLast := by
  rw [List.dropLast_eq_take, List.dropLast_eq_take, pairs.length_eq]
  exact List.forall₂_take _ pairs

end RelatedLists

end NoteCalc
