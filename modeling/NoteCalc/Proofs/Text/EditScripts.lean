import Mathlib.Order.Bounds.Basic
import NoteCalc.Text.EditDistance

/-!
# Edit scripts

An edit inserts, deletes or replaces one character anywhere in a text.  The edit distance is the
least number of edits that turn one text into another.  It obeys a recursion on the ends of the two
texts, whose values are the entries of the rows.  As many edits as the recursion counts are enough,
and no fewer are, since one edit changes the distance from any target by at most one.
-/

namespace NoteCalc.Text

/-- One edit of a text. -/
inductive Edit : List Char → List Char → Prop where
  | insertion (before : List Char) (inserted : Char) (after : List Char) :
      Edit (before ++ after) (before ++ inserted :: after)
  | deletion (before : List Char) (deleted : Char) (after : List Char) :
      Edit (before ++ deleted :: after) (before ++ after)
  | substitution (before : List Char) (old new : Char) (after : List Char) :
      Edit (before ++ old :: after) (before ++ new :: after)

/-- A number of edits, one after the other, that turn a source into a target. -/
inductive Edits : Nat → List Char → List Char → Prop where
  | done (text : List Char) : Edits 0 text text
  | step {count : Nat} {source middle target : List Char} (first : Edit source middle)
      (later : Edits count middle target) : Edits (count + 1) source target

variable {count : Nat} {source middle target : List Char}

/-! ## Moving edit scripts -/

namespace Edit

/-- Every edit can be undone. -/
theorem symm (edit : Edit source target) : Edit target source := by
  cases edit with
  | insertion before inserted after => exact .deletion before inserted after
  | deletion before deleted after => exact .insertion before deleted after
  | substitution before old new after => exact .substitution before new old after

theorem cons (edit : Edit source target) (kept : Char) :
    Edit (kept :: source) (kept :: target) := by
  cases edit with
  | insertion before inserted after => exact .insertion (kept :: before) inserted after
  | deletion before deleted after => exact .deletion (kept :: before) deleted after
  | substitution before old new after => exact .substitution (kept :: before) old new after

theorem reverse (edit : Edit source target) : Edit source.reverse target.reverse := by
  cases edit with
  | insertion before inserted after =>
      simpa using Edit.insertion after.reverse inserted before.reverse
  | deletion before deleted after =>
      simpa using Edit.deletion after.reverse deleted before.reverse
  | substitution before old new after =>
      simpa using Edit.substitution after.reverse old new before.reverse

theorem length_le (edit : Edit source target) : source.length ≤ target.length + 1 := by
  cases edit <;> simp only [List.length_append, List.length_cons] <;> omega

end Edit

namespace Edits

theorem snoc (earlier : Edits count source middle) (last : Edit middle target) :
    Edits (count + 1) source target := by
  induction earlier with
  | done => exact .step last (.done target)
  | step first _ induction => exact .step first (induction last)

theorem symm (edits : Edits count source target) : Edits count target source := by
  induction edits with
  | done text => exact .done text
  | step first _ induction => exact induction.snoc first.symm

theorem cons (edits : Edits count source target) (kept : Char) :
    Edits count (kept :: source) (kept :: target) := by
  induction edits with
  | done text => exact .done (kept :: text)
  | step first _ induction => exact .step (first.cons kept) induction

theorem reverse (edits : Edits count source target) :
    Edits count source.reverse target.reverse := by
  induction edits with
  | done text => exact .done text.reverse
  | step first _ induction => exact .step first.reverse induction

theorem length_le (edits : Edits count source target) : source.length ≤ target.length + count := by
  induction edits with
  | done => exact Nat.le_refl _
  | step first _ induction =>
      have one := first.length_le
      omega

/-- An empty text takes as many edits as the target has characters. -/
theorem of_nil (target : List Char) : Edits target.length [] target := by
  induction target with
  | nil => exact .done []
  | cons inserted target induction =>
      exact induction.snoc (.insertion [] inserted target)

theorem reverse_iff : Edits count source.reverse target.reverse ↔ Edits count source target := by
  constructor
  · intro edits
    simpa using edits.reverse
  · exact reverse

end Edits

/-! ## The recursion -/

/-- The distance by recursion on the first characters of two texts: the first one is deleted, or the
second one is inserted, or both are kept if they are the same and replaced otherwise. -/
def distance : List Char → List Char → Nat
  | [], target => target.length
  | first :: source, [] => (first :: source).length
  | first :: source, other :: target =>
      min (min (distance source (other :: target) + 1) (distance (first :: source) target + 1))
        (distance source target + if first = other then 0 else 1)
termination_by source target => source.length + target.length

theorem distance_nil_left (target : List Char) : distance [] target = target.length := by
  rw [distance]

theorem distance_nil_right (source : List Char) : distance source [] = source.length := by
  cases source with
  | nil => rw [distance]
  | cons => rw [distance]

theorem distance_cons_cons (first other : Char) (source target : List Char) :
    distance (first :: source) (other :: target) =
      min (min (distance source (other :: target) + 1) (distance (first :: source) target + 1))
        (distance source target + if first = other then 0 else 1) := by
  rw [distance]

theorem distance_cons_left_le (first : Char) (source target : List Char) :
    distance (first :: source) target ≤ distance source target + 1 := by
  cases target with
  | nil => simp only [distance_nil_right, List.length_cons, Nat.le_refl]
  | cons other target =>
      rw [distance_cons_cons]
      omega

theorem distance_cons_right_le (source : List Char) (other : Char) (target : List Char) :
    distance source (other :: target) ≤ distance source target + 1 := by
  cases source with
  | nil => simp only [distance_nil_left, List.length_cons, Nat.le_refl]
  | cons first source =>
      rw [distance_cons_cons]
      omega

theorem distance_cons_cons_le (first other : Char) (source target : List Char) :
    distance (first :: source) (other :: target) ≤
      distance source target + if first = other then 0 else 1 := by
  rw [distance_cons_cons]
  exact Nat.min_le_right _ _

theorem distance_cons_cons_le_succ (first other : Char) (source target : List Char) :
    distance (first :: source) (other :: target) ≤ distance source target + 1 := by
  have replacement := distance_cons_cons_le first other source target
  split at replacement <;> omega

theorem distance_cons_cons_cases (first other : Char) (source target : List Char) :
    distance (first :: source) (other :: target) = distance source (other :: target) + 1 ∨
      distance (first :: source) (other :: target) = distance (first :: source) target + 1 ∨
      distance (first :: source) (other :: target) =
        distance source target + if first = other then 0 else 1 := by
  rw [distance_cons_cons]
  omega

theorem distance_self (text : List Char) : distance text text = 0 := by
  induction text with
  | nil => exact distance_nil_left []
  | cons character text induction =>
      have kept := distance_cons_cons_le character character text text
      rw [induction, if_pos rfl] at kept
      exact Nat.le_zero.mp kept

/-! ## As many edits are enough -/

theorem edits_distance (source target : List Char) :
    Edits (distance source target) source target := by
  fun_induction distance source target with
  | case1 target => exact .of_nil target
  | case2 first source => exact (Edits.of_nil (first :: source)).symm
  | case3 first source other target deleted inserted replaced =>
      rw [← distance_cons_cons]
      rcases distance_cons_cons_cases first other source target with isLeast | isLeast | isLeast
      · rw [isLeast]
        exact .step (.deletion [] first source) deleted
      · rw [isLeast]
        exact inserted.snoc (.insertion [] other target)
      · rw [isLeast]
        by_cases same : first = other
        · subst same
          rw [if_pos rfl]
          exact replaced.cons first
        · rw [if_neg same]
          exact .step (.substitution [] first other source) (replaced.cons other)

/-! ## Fewer edits are not -/

/-- A text is at most one farther from any target than another text. -/
def WithinOne (source moved : List Char) : Prop :=
  ∀ target, distance source target ≤ distance moved target + 1

namespace WithinOne

variable {moved : List Char}

theorem cons (near : WithinOne source moved) (kept : Char) :
    WithinOne (kept :: source) (kept :: moved) := by
  intro target
  induction target with
  | nil =>
      have lengths := near []
      simp only [distance_nil_right, List.length_cons] at lengths ⊢
      omega
  | cons other target induction =>
      have shorter := near (other :: target)
      have shortest := near target
      have deletion := distance_cons_left_le kept source (other :: target)
      have insertion := distance_cons_right_le (kept :: source) other target
      have replacement := distance_cons_cons_le kept other source target
      rcases distance_cons_cons_cases kept other moved target with isLeast | isLeast | isLeast <;>
        omega

theorem prepend (near : WithinOne source moved) (before : List Char) :
    WithinOne (before ++ source) (before ++ moved) := by
  induction before with
  | nil => exact near
  | cons kept before induction => exact induction.cons kept

theorem deletion (deleted : Char) (after : List Char) : WithinOne (deleted :: after) after :=
  distance_cons_left_le deleted after

theorem insertion (inserted : Char) (after : List Char) :
    WithinOne after (inserted :: after) := by
  intro target
  induction target with
  | nil =>
      simp only [distance_nil_right, List.length_cons]
      omega
  | cons other target induction =>
      have further := distance_cons_right_le after other target
      rcases distance_cons_cons_cases inserted other after target with isLeast | isLeast | isLeast <;>
        omega

theorem substitution (old new : Char) (after : List Char) :
    WithinOne (old :: after) (new :: after) := by
  intro target
  induction target with
  | nil => simp only [distance_nil_right, List.length_cons, Nat.le_add_right]
  | cons other target induction =>
      have deletion := distance_cons_left_le old after (other :: target)
      have insertion := distance_cons_right_le (old :: after) other target
      have replacement := distance_cons_cons_le_succ old other after target
      rcases distance_cons_cons_cases new other after target with isLeast | isLeast | isLeast <;>
        omega

end WithinOne

/-- One edit brings a text nearer to a target by at most one. -/
theorem Edit.withinOne (edit : Edit source middle) : WithinOne source middle := by
  cases edit with
  | insertion before inserted after => exact (WithinOne.insertion inserted after).prepend before
  | deletion before deleted after => exact (WithinOne.deletion deleted after).prepend before
  | substitution before old new after => exact (WithinOne.substitution old new after).prepend before

theorem Edits.distance_le (edits : Edits count source target) : distance source target ≤ count := by
  induction edits with
  | done text => exact Nat.le_of_eq (distance_self text)
  | @step count source middle target first _ induction =>
      have near := first.withinOne target
      omega

theorem isLeast_distance (source target : List Char) :
    IsLeast {count | Edits count source target} (distance source target) := by
  constructor
  · exact edits_distance source target
  · intro count edits
    exact edits.distance_le

/-! ## The rows -/

/-- The distances of a text from what is passed of a target, and from what will be passed of it when
more and more of what is left is.  Texts are given by their characters from the last to the first,
but what is left is in order. -/
def row (source : List Char) : (passed left : List Char) → List Nat
  | passed, [] => [distance source passed]
  | passed, next :: left => distance source passed :: row source (next :: passed) left

theorem row_eq_cons (source passed left : List Char) :
    row source passed left = distance source passed :: (row source passed left).tail := by
  cases left <;> rfl

theorem rowTail_row (character : Char) (source passed left : List Char) :
    rowTail character left (distance source passed) (row source passed left).tail
        (distance (character :: source) passed) =
      (row (character :: source) passed left).tail := by
  induction left generalizing passed with
  | nil => rfl
  | cons next left induction =>
      have entry := distance_cons_cons character next source passed
      have later := induction (next :: passed)
      rw [row, row, List.tail_cons, List.tail_cons, row_eq_cons source, rowTail, ← entry, later]
      exact (row_eq_cons (character :: source) (next :: passed) left).symm

theorem nextRow_row (character : Char) (source target : List Char) :
    nextRow target (row source [] target) character = row (character :: source) [] target := by
  have first : distance source [] + 1 = distance (character :: source) [] := by
    simp only [distance_nil_right, List.length_cons]
  rw [row_eq_cons source, nextRow, first, rowTail_row]
  exact (row_eq_cons (character :: source) [] target).symm

theorem foldl_nextRow_row (text source target : List Char) :
    text.foldl (nextRow target) (row source [] target) = row (text.reverse ++ source) [] target := by
  induction text generalizing source with
  | nil => rfl
  | cons character text induction =>
      rw [List.foldl_cons, nextRow_row, induction, List.reverse_cons, List.append_assoc]
      rfl

theorem row_nil (passed left : List Char) :
    row [] passed left = List.range' passed.length (left.length + 1) := by
  induction left generalizing passed with
  | nil => rw [row, distance_nil_left, List.length_nil, List.range'_one]
  | cons next left induction =>
      rw [row, induction, distance_nil_left, List.length_cons, List.length_cons]
      exact List.range'_succ.symm

theorem getLast?_row (source passed left : List Char) :
    (row source passed left).getLast? = some (distance source (left.reverse ++ passed)) := by
  induction left generalizing passed with
  | nil => rfl
  | cons next left induction =>
      rw [row, row_eq_cons, List.getLast?_cons_cons, ← row_eq_cons, induction, List.reverse_cons,
        List.append_assoc]
      rfl

theorem distanceFromShorter_eq (longer shorter : List Char) :
    distanceFromShorter longer shorter = distance longer.reverse shorter.reverse := by
  unfold distanceFromShorter
  cases shorter with
  | nil =>
      rw [List.isEmpty_nil, if_pos rfl, List.reverse_nil, distance_nil_right, List.length_reverse]
  | cons first shorter =>
      have start : List.range ((first :: shorter).length + 1) = row [] [] (first :: shorter) := by
        rw [row_nil, List.range_eq_range']
        rfl
      rw [List.isEmpty_cons, if_neg Bool.false_ne_true, start, foldl_nextRow_row, getLast?_row,
        List.append_nil, List.append_nil, Option.getD_some]

theorem isLeast_distanceFromShorter (longer shorter : List Char) :
    IsLeast {count | Edits count longer shorter} (distanceFromShorter longer shorter) := by
  have least := isLeast_distance longer.reverse shorter.reverse
  simp only [Edits.reverse_iff] at least
  rwa [distanceFromShorter_eq]

/-- The edit distance is the least number of edits that turn a source into a target. -/
theorem isLeast_editDistance (source target : List Char) :
    IsLeast {count | Edits count source target} (editDistance source target) := by
  unfold editDistance
  split
  · have undone : {count | Edits count source target} = {count | Edits count target source} :=
      Set.ext fun _ => ⟨Edits.symm, Edits.symm⟩
    rw [undone]
    exact isLeast_distanceFromShorter target source
  · exact isLeast_distanceFromShorter source target

end NoteCalc.Text
