import NoteCalc.Proofs.Text.EditScripts

/-!
# Ranked suggestions

A candidate is suggested for a word if it is misspelt by at least one edit and by no more than a
limit.  No candidate is lost by looking at the lengths first, since the lengths of two texts differ
by no more than their distance.  Of all that could be suggested, the first three are: the nearest
ones, and of equally near ones those that come first by their code points.
-/

namespace NoteCalc.Text

variable {word : List Char} {limit : Int} {candidate left middle right : String}

/-- The lengths of two texts differ by no more than their distance. -/
theorem natAbs_length_sub_le_editDistance (source target : List Char) :
    ((target.length : Int) - source.length).natAbs ≤ editDistance source target := by
  have edits : Edits (editDistance source target) source target :=
    (isLeast_editDistance source target).1
  have shrunk := edits.length_le
  have grown := edits.symm.length_le
  omega

/-- A candidate is misspelt by at least one edit and at most as many as the limit says. -/
def Misspelt (word : List Char) (limit : Int) (candidate : String) : Prop :=
  0 < editDistance word candidate.toList ∧ (editDistance word candidate.toList : Int) ≤ limit

instance (word : List Char) (limit : Int) : DecidablePred (Misspelt word limit) :=
  fun _ => inferInstanceAs (Decidable (_ ∧ _))

/-- A candidate stands before another one: it is nearer to the word, or as near and not after the
other one in the order of code points. -/
def StandsBefore (word : List Char) (left right : String) : Prop :=
  editDistance word left.toList < editDistance word right.toList ∨
    editDistance word left.toList = editDistance word right.toList ∧ left ≤ right

/-- A candidate with its distance from a word. -/
def withDistance (word : List Char) (candidate : String) : Nat × String :=
  (editDistance word candidate.toList, candidate)

theorem nearerOrSmaller_withDistance :
    nearerOrSmaller (withDistance word left) (withDistance word right) = true ↔
      StandsBefore word left right := by
  unfold nearerOrSmaller StandsBefore
  rw [Bool.or_eq_true, Bool.and_eq_true, decide_eq_true_iff, decide_eq_true_iff, beq_iff_eq]
  exact Iff.rfl

theorem StandsBefore.trans (first : StandsBefore word left middle)
    (second : StandsBefore word middle right) : StandsBefore word left right := by
  rcases first with nearer | ⟨asNear, smaller⟩
  · left
    rcases second with nearerThan | ⟨asNearAs, -⟩ <;> omega
  · rcases second with nearerThan | ⟨asNearAs, smallerThan⟩
    · left
      omega
    · right
      exact ⟨asNear.trans asNearAs, String.le_trans smaller smallerThan⟩

theorem StandsBefore.total (word : List Char) (left right : String) :
    StandsBefore word left right ∨ StandsBefore word right left := by
  rcases Nat.lt_trichotomy (editDistance word left.toList) (editDistance word right.toList) with
    nearer | asNear | farther
  · exact .inl (.inl nearer)
  · rcases String.le_total left right with smaller | greater
    · exact .inl (.inr ⟨asNear, smaller⟩)
    · exact .inr (.inr ⟨asNear.symm, greater⟩)
  · exact .inr (.inl farther)

/-- Looking at the lengths first changes nothing. -/
theorem scored?_eq (word : List Char) (limit : Int) (candidate : String) :
    scored? word limit candidate =
      if Misspelt word limit candidate then some (withDistance word candidate) else none := by
  have apart := natAbs_length_sub_le_editDistance word candidate.toList
  unfold scored?
  simp only
  split
  · rename_i tooLong
    rw [if_neg]
    intro misspelt
    have close := misspelt.2
    omega
  · rfl

theorem filterMap_scored? (word : List Char) (limit : Int) (candidates : List String) :
    candidates.filterMap (scored? word limit) =
      (candidates.filter (Misspelt word limit)).map (withDistance word) := by
  induction candidates with
  | nil => rfl
  | cons candidate candidates induction =>
      rw [List.filterMap_cons, List.filter_cons, scored?_eq, induction]
      by_cases misspelt : Misspelt word limit candidate
      · rw [if_pos misspelt, if_pos (decide_eq_true misspelt), List.map_cons]
      · rw [if_neg misspelt, if_neg (by simpa using misspelt)]

/-- The order of suggestions on the candidates alone. -/
def ranksBefore (word : List Char) (left right : String) : Bool :=
  nearerOrSmaller (withDistance word left) (withDistance word right)

/-- The misspelt candidates in the order in which they stand. -/
def rankedCandidates (word : List Char) (limit : Int) (candidates : List String) : List String :=
  (candidates.filter (Misspelt word limit)).mergeSort (ranksBefore word)

theorem pairwise_rankedCandidates (word : List Char) (limit : Int) (candidates : List String) :
    (rankedCandidates word limit candidates).Pairwise (StandsBefore word) := by
  have transitive (left middle right : String) (first : ranksBefore word left middle = true)
      (second : ranksBefore word middle right = true) : ranksBefore word left right = true := by
    apply nearerOrSmaller_withDistance.mpr
    exact (nearerOrSmaller_withDistance.mp first).trans (nearerOrSmaller_withDistance.mp second)
  have total (left right : String) :
      (ranksBefore word left right || ranksBefore word right left) = true := by
    apply Bool.or_eq_true_iff.mpr
    rcases StandsBefore.total word left right with first | second
    · exact .inl (nearerOrSmaller_withDistance.mpr first)
    · exact .inr (nearerOrSmaller_withDistance.mpr second)
  have sorted := List.pairwise_mergeSort transitive total (candidates.filter (Misspelt word limit))
  exact sorted.imp nearerOrSmaller_withDistance.mp

theorem suggestions_eq_take (word : String) (candidates : List String) (limit : Int) :
    suggestions word candidates limit =
      (rankedCandidates word.toList limit candidates).take 3 := by
  have sorted : (rankedCandidates word.toList limit candidates).map (withDistance word.toList) =
      ((candidates.filter (Misspelt word.toList limit)).map (withDistance word.toList)).mergeSort
        nearerOrSmaller :=
    List.map_mergeSort fun _ _ _ _ => rfl
  unfold suggestions
  simp only
  rw [filterMap_scored?, ← sorted, ← List.map_take, List.map_map]
  exact List.map_id _

/-- The edit distance is the least number of edits, and the suggestions are the first three of
exactly the candidates that are misspelt by at least one edit and at most as many as the limit
says. -/
theorem suggestions_ranked_by_least_edits :
    (∀ source target : List Char,
      IsLeast {count | Edits count source target} (editDistance source target)) ∧
    ∀ (word : String) (candidates : List String) (limit : Int), ∃ ranked : List String,
      ranked.Perm (candidates.filter fun candidate =>
        0 < editDistance word.toList candidate.toList ∧
          (editDistance word.toList candidate.toList : Int) ≤ limit) ∧
      ranked.Pairwise (StandsBefore word.toList) ∧
      suggestions word candidates limit = ranked.take 3 := by
  constructor
  · exact isLeast_editDistance
  · intro word candidates limit
    refine ⟨rankedCandidates word.toList limit candidates, ?_, ?_, ?_⟩
    · exact List.mergeSort_perm _ _
    · exact pairwise_rankedCandidates word.toList limit candidates
    · exact suggestions_eq_take word candidates limit

end NoteCalc.Text
