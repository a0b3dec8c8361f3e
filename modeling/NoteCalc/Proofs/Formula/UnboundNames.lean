import Mathlib.Tactic.MkIffOfInductiveProp
import NoteCalc.Proofs.Formula.SearchOrder

/-!
# Lines with an unbound name

A line that holds an unbound name is no candidate as a whole, so that no failure in it is final.  It
can still have a value: an assignment has that of its right side, and any line that of a part
without unbound names, unless one of these names stands beside mathematics.
-/

namespace NoteCalc

namespace Formula

variable {surroundings : Surroundings} {tokens : List Token} {previous : Option Token}

/-- A token is a name that is not bound. -/
def Unbound (surroundings : Surroundings) (token : Token) : Prop :=
  ∃ name, token.variableName? = some name ∧ surroundings.binds name = false

/-- An unbound name among tokens has a mathematical neighbour.  `previous` is the token before
them. -/
inductive UnboundBesideMath (surroundings : Surroundings) : Option Token → List Token → Prop where
  | here {previous : Option Token} {token : Token} {tokens : List Token}
      (unbound : Unbound surroundings token)
      (beside : (previous.any Token.isMathematical ||
        tokens.head?.any Token.isMathematical) = true) :
      UnboundBesideMath surroundings previous (token :: tokens)
  | there {previous : Option Token} {token : Token} {tokens : List Token}
      (later : UnboundBesideMath surroundings (some token) tokens) :
      UnboundBesideMath surroundings previous (token :: tokens)

theorem isSome_unboundBesideMath?_cons {token : Token} :
    (unboundBesideMath? surroundings previous (token :: tokens)).isSome = true ↔
      (Unbound surroundings token ∧ (previous.any Token.isMathematical ||
        tokens.head?.any Token.isMathematical) = true) ∨
      (unboundBesideMath? surroundings (some token) tokens).isSome = true := by
  unfold Unbound
  rw [unboundBesideMath?]
  cases token.variableName? with
  | none => simp
  | some name =>
      simp only [Option.some.injEq, exists_eq_left']
      split
      · rename_i here
        obtain ⟨notBound, beside⟩ := Bool.and_eq_true_iff.mp here
        simp only [Option.isSome_some, true_iff]
        exact .inl ⟨by simpa using notBound, beside⟩
      · rename_i elsewhere
        refine ⟨.inr, ?_⟩
        rintro (⟨notBound, beside⟩ | later)
        · exact absurd (by simp [notBound, beside]) elsewhere
        · exact later

theorem isSome_unboundBesideMath?_iff :
    (unboundBesideMath? surroundings previous tokens).isSome = true ↔
      UnboundBesideMath surroundings previous tokens := by
  induction tokens generalizing previous with
  | nil =>
      simp only [unboundBesideMath?, Option.isSome_none, Bool.false_eq_true, false_iff]
      intro beside
      cases beside
  | cons token tokens induction =>
      rw [isSome_unboundBesideMath?_cons, induction]
      constructor
      · rintro (⟨unbound, beside⟩ | later)
        · exact .here unbound beside
        · exact .there later
      · intro beside
        cases beside with
        | here unbound beside => exact .inl ⟨unbound, beside⟩
        | there later => exact .inr later

theorem UnboundBesideMath.exists_unbound
    (beside : UnboundBesideMath surroundings previous tokens) :
    ∃ token ∈ tokens, Unbound surroundings token := by
  induction beside with
  | @here previous token tokens unbound beside => exact ⟨token, List.mem_cons_self, unbound⟩
  | @there previous token tokens later induction =>
      obtain ⟨other, member, unbound⟩ := induction
      exact ⟨other, List.mem_cons_of_mem token member, unbound⟩

/-! ## What the search finds -/

/-- Nothing keeps the search from trying every candidate: where names are variables, no unbound name
stands beside mathematics, and the whole line does not fail finally. -/
structure Searchable (surroundings : Surroundings) (tokens : List Token) : Prop where
  apart : surroundings.bindings.isSome = true → ¬UnboundBesideMath surroundings none tokens
  goesOn : ∀ error, ¬FailsFinally surroundings tokens error

theorem find_eq_search (nonempty : tokens ≠ [])
    (apart : surroundings.bindings.isSome = true → ¬UnboundBesideMath surroundings none tokens) :
    find surroundings tokens = search surroundings tokens tokens := by
  have notEmpty : tokens.isEmpty = false := List.isEmpty_eq_false_iff.mpr nonempty
  rw [find, notEmpty]
  simp only [Bool.false_eq_true, if_false]
  split
  · rename_i token name isUnbound
    split at isUnbound
    · rename_i hasBindings
      have beside := isSome_unboundBesideMath?_iff.mp (Option.isSome_of_eq_some isUnbound)
      exact absurd beside (apart hasBindings)
    · exact absurd isUnbound (by simp)
  · rfl

/-- A line is found to have a value exactly if it can be searched and some candidate has one; its
value is the first of these. -/
theorem find_value_eq_some_iff {result : Quantity Float} :
    (find surroundings tokens).value = some result ↔
      Searchable surroundings tokens ∧ firstValue? surroundings (runs tokens) = some result := by
  rcases eq_or_ne tokens [] with rfl | nonempty
  · exact ⟨fun isFound => absurd isFound (by simp [find]), fun isFirst => isFirst.2⟩
  by_cases apart :
      surroundings.bindings.isSome = true → ¬UnboundBesideMath surroundings none tokens
  · rw [find_eq_search nonempty apart]
    by_cases goesOn : ∀ error, ¬FailsFinally surroundings tokens error
    · rw [search_value goesOn (List.infix_refl tokens)]
      exact ⟨fun isFirst => ⟨⟨apart, goesOn⟩, isFirst⟩, fun isFirst => isFirst.2⟩
    · obtain ⟨error, fails⟩ := not_forall_not.mp goesOn
      rw [search_of_failsFinally fails]
      exact ⟨fun isFound => absurd isFound (by simp),
        fun isFirst => absurd fails (isFirst.1.goesOn error)⟩
  · obtain ⟨hasBindings, beside⟩ := Classical.not_imp.mp apart
    have notEmpty : tokens.isEmpty = false := List.isEmpty_eq_false_iff.mpr nonempty
    obtain ⟨⟨token, name⟩, isUnbound⟩ := Option.isSome_iff_exists.mp
      (isSome_unboundBesideMath?_iff.mpr (not_not.mp beside))
    have noValue : (find surroundings tokens).value = none := by
      simp [find, notEmpty, hasBindings, isUnbound]
    rw [noValue]
    exact ⟨fun isFound => absurd isFound (by simp),
      fun isFirst => absurd (isFirst.1.apart hasBindings) beside⟩

/-! ## The value of a line -/

/-- Tokens have a value in spite of an unbound name among them. -/
@[mk_iff]
inductive ValuedApart (surroundings : Surroundings) (tokens : List Token) : Prop where
  | assignment {name : String} {right : List Token} {result : Quantity Float}
      (assigns : assignment? tokens = some (name, right))
      (isValue : value surroundings right = .ok result) : ValuedApart surroundings tokens
  | run {run : List Token} (apart : ¬UnboundBesideMath surroundings none tokens)
      (within : run <:+: tokens) (free : ∀ token ∈ run, ¬Unbound surroundings token)
      (valued : Valued surroundings run) : ValuedApart surroundings tokens

theorem not_unbound_of_namesBound {bindings : Bindings}
    (names : surroundings.bindings = some bindings)
    (bound : namesBound surroundings tokens = true) :
    ∀ token ∈ tokens, ¬Unbound surroundings token := by
  rintro token member ⟨name, named, notBound⟩
  rw [namesBound, names, Option.isNone_some, Bool.false_or] at bound
  have boundToo := List.all_eq_true.mp bound token member
  rw [named, Option.all_some, notBound] at boundToo
  exact absurd boundToo (by simp)

theorem not_candidate_of_unbound {bindings : Bindings}
    (names : surroundings.bindings = some bindings) {token : Token}
    (unbound : Unbound surroundings token) (member : token ∈ tokens) :
    ¬Candidate surroundings tokens :=
  fun candidate => not_unbound_of_namesBound names candidate.bound token member unbound

/-- Where all names are bound, none of them keeps the line from being searched. -/
theorem not_unboundBesideMath (bound : namesBound surroundings tokens = true) :
    surroundings.bindings.isSome = true → ¬UnboundBesideMath surroundings none tokens := by
  intro hasBindings beside
  obtain ⟨bindings, names⟩ := Option.isSome_iff_exists.mp hasBindings
  obtain ⟨token, member, unbound⟩ := beside.exists_unbound
  exact not_unbound_of_namesBound names bound token member unbound

/-- A line with an unbound name is found to have a value exactly when no unbound name in it stands
beside mathematics and a run of its tokens has a value. -/
theorem isSome_find_iff {bindings : Bindings} (names : surroundings.bindings = some bindings)
    {token : Token} (unbound : Unbound surroundings token) (member : token ∈ tokens) :
    (find surroundings tokens).value.isSome = true ↔
      ¬UnboundBesideMath surroundings none tokens ∧
        ∃ run, run <:+: tokens ∧ Valued surroundings run := by
  have hasBindings : surroundings.bindings.isSome = true := by rw [names, Option.isSome_some]
  have searchable : Searchable surroundings tokens ↔
      ¬UnboundBesideMath surroundings none tokens :=
    ⟨fun searchable => searchable.apart hasBindings, fun apart => ⟨fun _ => apart, fun _ fails =>
      not_candidate_of_unbound names unbound member fails.candidate⟩⟩
  simp only [Option.isSome_iff_exists, find_value_eq_some_iff, exists_and_left]
  rw [searchable, ← Option.isSome_iff_exists, isSome_firstValue?_iff]

/-- A line with an unbound name has no value unless a part of it has one. -/
theorem evaluate_value_eq_none_iff {bindings : Bindings}
    (names : surroundings.bindings = some bindings) {token : Token}
    (unbound : Unbound surroundings token) (member : token ∈ tokens) :
    (evaluate surroundings tokens).value = none ↔ ¬ValuedApart surroundings tokens := by
  have free (run : List Token) (valued : Valued surroundings run) :
      ∀ token ∈ run, ¬Unbound surroundings token :=
    fun token member unbound => not_candidate_of_unbound names unbound member valued.1
  have searched : (found surroundings tokens).value = none ↔
      ¬∃ run, ¬UnboundBesideMath surroundings none tokens ∧ run <:+: tokens ∧
        (∀ token ∈ run, ¬Unbound surroundings token) ∧ Valued surroundings run := by
    simp only [and_iff_right_of_imp (free _)]
    rw [exists_and_left, ← isSome_find_iff names unbound member]
    simp [found]
  rw [valuedApart_iff, not_or, evaluate]
  cases assigns : assignment? tokens with
  | none => simpa using searched
  | some assigned =>
      obtain ⟨name, right⟩ := assigned
      cases isValue : value surroundings right with
      | ok result => simp [isValue]
      | error error => simpa [isValue, Outcome.after] using searched

theorem result_ne_none {shown : LineValue}
    (isValue : (evaluate surroundings tokens).value = some shown) : shown.result ≠ none := by
  have isFound (shown : LineValue) (searched : (found surroundings tokens).value = some shown) :
      shown.result ≠ none := by
    obtain ⟨result, -, rfl⟩ := Option.map_eq_some_iff.mp searched
    simp
  unfold evaluate at isValue
  split at isValue
  · exact isFound shown isValue
  · split at isValue
    · obtain rfl := Option.some.inj isValue
      simp
    · exact isFound shown isValue

end Formula

end NoteCalc
