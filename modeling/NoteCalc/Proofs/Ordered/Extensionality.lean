import Mathlib.Data.List.Perm.Basic
import NoteCalc.Ordered.SortedSet
import NoteCalc.Ordered.SortedTable

/-!
# Extensionality of sorted sets and tables

A sorted set is determined by its members and a sorted table by its lookups, because each holds
them in ascending order and once.  So two ways of arriving at a set or a table are compared by
what they contain, and what they contain follows from one equation for every operation.
-/

namespace NoteCalc

namespace SortedSet

variable {α : Type} [Ord α]

/-- The members ascend strictly. -/
def Ascending (members : List α) : Prop :=
  members.Pairwise fun left right => compare left right = .lt

theorem ascending_nil : Ascending ([] : List α) :=
  List.Pairwise.nil

theorem Ascending.erase {members : List α} (ascending : Ascending members) (member : α) :
    Ascending (SortedSet.erase member members) :=
  List.Pairwise.filter _ ascending

variable [Std.LawfulEqOrd α]

theorem mem_insert {member other : α} {members : List α} :
    other ∈ insert member members ↔ other = member ∨ other ∈ members := by
  induction members with
  | nil => simp [insert]
  | cons first rest induction =>
      unfold insert
      split
      · simp
      · rename_i same
        have equal : member = first := Std.compare_eq_iff_eq.mp same
        simp [equal]
      · rw [List.mem_cons, induction, List.mem_cons]
        exact or_left_comm

theorem mem_erase {member other : α} {members : List α} :
    other ∈ erase member members ↔ other ≠ member ∧ other ∈ members := by
  have different : (compare member other != .eq) = true ↔ other ≠ member := by
    rw [bne_iff_ne, Ne, Std.compare_eq_iff_eq]
    exact ne_comm
  rw [erase, List.mem_filter, different]
  exact and_comm

theorem mem_foldl_insert {other : α} (elements members : List α) :
    other ∈ elements.foldl (fun members element => insert element members) members ↔
      other ∈ elements ∨ other ∈ members := by
  induction elements generalizing members with
  | nil => simp
  | cons element elements induction =>
      rw [List.foldl_cons, induction, mem_insert, List.mem_cons]
      exact or_left_comm.trans or_assoc.symm

theorem mem_ofList {other : α} {elements : List α} :
    other ∈ ofList elements ↔ other ∈ elements := by
  simp [ofList, mem_foldl_insert]

theorem Ascending.nodup {members : List α} (ascending : Ascending members) : members.Nodup := by
  apply ascending.imp
  intro left right smaller equal
  rw [Std.compare_eq_iff_eq.mpr equal] at smaller
  exact Ordering.noConfusion smaller

variable [Std.TransOrd α]

theorem Ascending.insert {members : List α} (ascending : Ascending members) (member : α) :
    Ascending (SortedSet.insert member members) := by
  induction members with
  | nil => exact List.pairwise_singleton _ _
  | cons first rest induction =>
      obtain ⟨below, tail⟩ := List.pairwise_cons.mp ascending
      unfold SortedSet.insert
      split
      · rename_i smaller
        refine List.pairwise_cons.mpr ⟨?_, ascending⟩
        intro other member
        rcases List.mem_cons.mp member with rfl | later
        · exact smaller
        · exact Std.TransCmp.lt_trans smaller (below other later)
      · exact ascending
      · rename_i greater
        refine List.pairwise_cons.mpr ⟨?_, induction tail⟩
        intro other inserted
        rcases mem_insert.mp inserted with rfl | later
        · exact Std.OrientedCmp.gt_iff_lt.mp greater
        · exact below other later

theorem ascending_ofList (elements : List α) : Ascending (ofList elements) := by
  suffices ∀ members : List α, Ascending members →
      Ascending (elements.foldl (fun members element => SortedSet.insert element members)
        members) from this [] ascending_nil
  induction elements with
  | nil => exact fun members ascending => ascending
  | cons element elements induction =>
      intro members ascending
      exact induction _ (ascending.insert element)

/-- A sorted set is determined by its members. -/
theorem Ascending.ext {left right : List α} (leftAscending : Ascending left)
    (rightAscending : Ascending right) (same : ∀ member, member ∈ left ↔ member ∈ right) :
    left = right := by
  have permutation : left.Perm right :=
    (List.perm_ext_iff_of_nodup leftAscending.nodup rightAscending.nodup).mpr same
  refine permutation.eq_of_pairwise ?_ leftAscending rightAscending
  intro first second _ _ smaller greater
  have cycle := Std.TransCmp.lt_trans smaller greater
  rw [Std.compare_self] at cycle
  exact Ordering.noConfusion cycle

end SortedSet

namespace SortedTable

variable {κ ν : Type} [Ord κ]

/-- The keys ascend strictly. -/
def Ascending (entries : List (κ × ν)) : Prop :=
  entries.Pairwise fun left right => compare left.1 right.1 = .lt

theorem ascending_nil : Ascending ([] : List (κ × ν)) :=
  List.Pairwise.nil

theorem Ascending.erase {entries : List (κ × ν)} (ascending : Ascending entries) (key : κ) :
    Ascending (SortedTable.erase key entries) :=
  List.Pairwise.filter _ ascending

theorem mem_keys_set {key : κ} {value : ν} {entries : List (κ × ν)} {entry : κ × ν}
    (member : entry ∈ set key value entries) : entry.1 = key ∨ entry ∈ entries := by
  induction entries with
  | nil =>
      rw [set, List.mem_singleton] at member
      exact .inl (by rw [member])
  | cons first entries induction =>
      unfold set at member
      split at member
      · rcases List.mem_cons.mp member with rfl | later
        · exact .inl rfl
        · exact .inr later
      · rcases List.mem_cons.mp member with rfl | later
        · exact .inl rfl
        · exact .inr (List.mem_cons_of_mem _ later)
      · rcases List.mem_cons.mp member with rfl | later
        · exact .inr List.mem_cons_self
        · exact (induction later).imp_right (List.mem_cons_of_mem _)

theorem find?_eq_none_of_forall_lt {key : κ} {entries : List (κ × ν)}
    (above : ∀ entry ∈ entries, compare key entry.1 = .lt) : find? key entries = none := by
  induction entries with
  | nil => rfl
  | cons entry entries induction =>
      have different : compare key entry.1 ≠ .eq := by
        rw [above entry List.mem_cons_self]
        exact Ordering.noConfusion
      rw [find?, if_neg (by simpa using different)]
      exact induction fun other member => above other (List.mem_cons_of_mem _ member)

/-- A key below the first key of a sorted table has no value. -/
theorem Ascending.find?_eq_none [Std.TransOrd κ] {key first : κ} {value : ν}
    {entries : List (κ × ν)} (ascending : Ascending ((first, value) :: entries))
    (smaller : compare key first = .lt) :
    find? key ((first, value) :: entries) = none := by
  apply find?_eq_none_of_forall_lt
  intro entry member
  rcases List.mem_cons.mp member with rfl | later
  · exact smaller
  · exact Std.TransCmp.lt_trans smaller ((List.pairwise_cons.mp ascending).1 entry later)

variable [Std.LawfulEqOrd κ]

theorem find?_cons [DecidableEq κ] (key other : κ) (value : ν) (entries : List (κ × ν)) :
    find? key ((other, value) :: entries) =
      if key = other then some value else find? key entries := by
  simp only [find?, beq_iff_eq, Std.compare_eq_iff_eq]

theorem find?_set [DecidableEq κ] (key other : κ) (value : ν) (entries : List (κ × ν)) :
    find? other (set key value entries) =
      if other = key then some value else find? other entries := by
  induction entries with
  | nil => simp [set, find?_cons, find?]
  | cons entry entries induction =>
      obtain ⟨first, old⟩ := entry
      unfold set
      split
      · rw [find?_cons]
      · rename_i same
        have equal : key = first := Std.compare_eq_iff_eq.mp same
        by_cases here : other = first <;> simp [find?_cons, equal, here]
      · rename_i greater
        have different : key ≠ first := by
          intro equal
          rw [Std.compare_eq_iff_eq.mpr equal] at greater
          exact Ordering.noConfusion greater
        rw [find?_cons, find?_cons, induction]
        by_cases here : other = first
        · simp [here, different.symm]
        · simp [here]

theorem find?_erase [DecidableEq κ] (key other : κ) (entries : List (κ × ν)) :
    find? other (erase key entries) = if other = key then none else find? other entries := by
  induction entries with
  | nil => simp [erase, find?]
  | cons entry entries induction =>
      obtain ⟨first, value⟩ := entry
      have unfolded : erase key ((first, value) :: entries) =
          if key = first then erase key entries else (first, value) :: erase key entries := by
        by_cases equal : key = first
        · simp [erase, equal]
        · simp [erase, equal]
      rw [unfolded]
      by_cases equal : key = first
      · rw [if_pos equal, induction, find?_cons]
        by_cases here : other = key
        · simp [here]
        · have elsewhere : other ≠ first := fun same => here (same.trans equal.symm)
          simp [here, elsewhere]
      · rw [if_neg equal, find?_cons, find?_cons, induction]
        by_cases here : other = first
        · simp [here, Ne.symm equal]
        · simp [here]

variable [Std.TransOrd κ]

theorem Ascending.set {entries : List (κ × ν)} (ascending : Ascending entries) (key : κ)
    (value : ν) : Ascending (SortedTable.set key value entries) := by
  induction entries with
  | nil => exact List.pairwise_singleton _ _
  | cons entry entries induction =>
      obtain ⟨first, old⟩ := entry
      obtain ⟨below, tail⟩ := List.pairwise_cons.mp ascending
      unfold SortedTable.set
      split
      · rename_i smaller
        refine List.pairwise_cons.mpr ⟨?_, ascending⟩
        intro other member
        rcases List.mem_cons.mp member with rfl | later
        · exact smaller
        · exact Std.TransCmp.lt_trans smaller (below other later)
      · rename_i same
        have equal : key = first := Std.compare_eq_iff_eq.mp same
        rw [equal]
        exact List.pairwise_cons.mpr ⟨below, tail⟩
      · rename_i greater
        refine List.pairwise_cons.mpr ⟨?_, induction tail⟩
        intro other member
        rcases mem_keys_set member with equal | later
        · rw [equal]
          exact Std.OrientedCmp.gt_iff_lt.mp greater
        · exact below other later

/-- A sorted table is determined by its lookups. -/
theorem Ascending.ext [DecidableEq κ] {left right : List (κ × ν)} (leftAscending : Ascending left)
    (rightAscending : Ascending right) (same : ∀ key, find? key left = find? key right) :
    left = right := by
  induction left generalizing right with
  | nil =>
      cases right with
      | nil => rfl
      | cons entry right =>
          have found := same entry.1
          simp [find?] at found
  | cons entry left induction =>
      obtain ⟨key, value⟩ := entry
      obtain ⟨leftBelow, leftTail⟩ := List.pairwise_cons.mp leftAscending
      cases right with
      | nil =>
          have found := same key
          simp [find?] at found
      | cons other right =>
          obtain ⟨otherKey, otherValue⟩ := other
          obtain ⟨rightBelow, rightTail⟩ := List.pairwise_cons.mp rightAscending
          -- The first key of either table is the least key with a value.
          have equalKeys : key = otherKey := by
            cases order : compare key otherKey with
            | eq => exact Std.compare_eq_iff_eq.mp order
            | lt =>
                have absent := rightAscending.find?_eq_none order
                rw [← same key, find?_cons, if_pos rfl] at absent
                exact absurd absent (Option.some_ne_none value)
            | gt =>
                have absent := leftAscending.find?_eq_none (Std.OrientedCmp.gt_iff_lt.mp order)
                rw [same otherKey, find?_cons, if_pos rfl] at absent
                exact absurd absent (Option.some_ne_none otherValue)
          subst equalKeys
          have equalValues : value = otherValue := by
            have found := same key
            rw [find?_cons, find?_cons, if_pos rfl, if_pos rfl] at found
            exact Option.some.inj found
          have equalTails : left = right := by
            apply induction leftTail rightTail
            intro sought
            have found := same sought
            by_cases here : sought = key
            · rw [here, find?_eq_none_of_forall_lt leftBelow,
                find?_eq_none_of_forall_lt rightBelow]
            · rwa [find?_cons, find?_cons, if_neg here, if_neg here] at found
          rw [equalValues, equalTails]

end SortedTable

end NoteCalc
