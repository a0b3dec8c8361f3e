import NoteCalc.Notebook.Basic
import NoteCalc.Proofs.Formula.Observation
import NoteCalc.Proofs.Notebook.ReaderIndexing

/-!
# What a line of a notebook observes

A line observes the results above it through references and the running total, and the bindings
through the names that the reader index holds for it.  The index leaves out the target of an
assignment.  That is sound as long as the assignment has a value, because the target is then not
looked up; an assignment without a value is searched like any other line, and the search does look
it up.
-/

namespace NoteCalc

open Surroundings (AgreeOn AgreeAcross)

namespace Token

/-- Whether a token observes the results above its line. -/
def readsResults (token : Token) : Bool :=
  match token.kind with
  | .reference _ | .call .sumAbove => true
  | _ => false

/-- Whether tokens start with a name and an equals sign. -/
def startsAssignment : List Token → Bool
  | target :: sign :: _ => target.isVariable && sign.isAssign
  | _ => false

end Token

/-- Whether a line that is not refused has a reference or a running total among its tokens. -/
def ObservesResults (line : String) : Prop :=
  ∃ tokens, tokens? line = .ok (some tokens) ∧ ∃ token ∈ tokens, token.readsResults = true

/-- Whether the tokens of a line that is not refused start with a name and an equals sign. -/
def StartsAssignment (line : String) : Prop :=
  ∃ tokens, tokens? line = .ok (some tokens) ∧ Token.startsAssignment tokens = true

/-- Whether the tokens of a line, if it has any and is not refused, are of some kind. -/
def anyTokens (holds : List Token → Bool) (line : String) : Bool :=
  match tokens? line with
  | .ok (some tokens) => holds tokens
  | _ => false

theorem anyTokens_iff {holds : List Token → Bool} {line : String} :
    anyTokens holds line = true ↔
      ∃ tokens, tokens? line = .ok (some tokens) ∧ holds tokens = true := by
  unfold anyTokens
  split
  · rename_i tokens accepted
    simp [accepted]
  · rename_i refused
    simp only [Bool.false_eq_true, false_iff, not_exists, not_and]
    intro tokens accepted
    exact absurd accepted (refused tokens)

instance (line : String) : Decidable (ObservesResults line) :=
  decidable_of_iff (anyTokens (fun tokens => tokens.any Token.readsResults) line = true) <| by
    simp only [anyTokens_iff, List.any_eq_true]
    exact Iff.rfl

instance (line : String) : Decidable (StartsAssignment line) :=
  decidable_of_iff (anyTokens Token.startsAssignment line = true) anyTokens_iff

/-! ## Tokens -/

/-- The tokens whose names a line reads: all of them, or those behind the equals sign if they start
with a name and an equals sign. -/
def Token.behindTarget (tokens : List Token) : List Token :=
  if startsAssignment tokens then tokens.drop 2 else tokens

theorem Token.behindTarget_subset (tokens : List Token) : behindTarget tokens ⊆ tokens := by
  unfold behindTarget
  split
  · exact (List.drop_suffix 2 tokens).subset
  · exact List.Subset.refl tokens

theorem mem_namesRead {tokens : List Token} {name : String} :
    name ∈ namesRead tokens ↔
      ∃ token ∈ Token.behindTarget tokens, token.variableName? = some name := by
  have same : namesRead tokens =
      SortedSet.ofList ((Token.behindTarget tokens).filterMap Token.variableName?) := by
    unfold namesRead Token.behindTarget
    match tokens with
    | [] | [_] => rfl
    | target :: sign :: rest =>
        simp only [Token.startsAssignment, List.drop_succ_cons, List.drop_zero]
  rw [same, SortedSet.mem_ofList, List.mem_filterMap]

/-- Tokens that start with a name and an equals sign assign what follows, if anything does. -/
theorem assignment?_of_starts {tokens : List Token}
    (starts : Token.startsAssignment tokens = true) (long : 2 < tokens.length) :
    ∃ name, Formula.assignment? tokens = some (name, tokens.drop 2) := by
  match tokens with
  | target :: sign :: first :: rest =>
      unfold Token.startsAssignment at starts
      obtain ⟨named, equals⟩ := Bool.and_eq_true_iff.mp starts
      unfold Formula.assignment?
      simp only [equals, if_true, List.drop_succ_cons, List.drop_zero]
      unfold Token.isVariable at named
      split at named
      · rename_i name kind
        exact ⟨name, by simp [Token.variableName?, kind]⟩
      · exact absurd named (by simp)
  | [] | [_] | [_, _] => simp at long

namespace Surroundings

/-- Two surroundings show the same results to references and to the running total. -/
structure SameAbove (first second : Surroundings) : Prop where
  results : ∀ token place, first.resultOf token place = second.resultOf token place
  total : first.total = second.total

/-- Results that agree above a line show the same to it. -/
theorem sameAbove_of_take {first second : Option Bindings}
    {firstResults secondResults : List (Option String)} {place : Nat}
    (same : firstResults.take place = secondResults.take place) :
    SameAbove ⟨first, firstResults, place⟩ ⟨second, secondResults, place⟩ where
  results := by
    intro token line
    unfold resultOf
    split
    · rfl
    · rename_i above
      have before : line < place := by simpa using above
      have equal : firstResults[line]? = secondResults[line]? := by
        rw [← List.getElem?_take_of_lt before, same, List.getElem?_take_of_lt before]
      simp only [equal]
  total := by simp [total, above, same]

/-- Bindings that agree on the names of some tokens show the same to them, if the results do or the
tokens observe none. -/
theorem agreeOn_of_lookup {tokens : List Token} {first second : Bindings}
    {firstResults secondResults : List (Option String)} {place : Int}
    (names : ∀ token ∈ tokens, ∀ name, token.variableName? = some name →
      first.lookup name = second.lookup name)
    (results : SameAbove ⟨some first, firstResults, place⟩ ⟨some second, secondResults, place⟩ ∨
      ∀ token ∈ tokens, token.readsResults = false) :
    AgreeOn tokens ⟨some first, firstResults, place⟩ ⟨some second, secondResults, place⟩ where
  flavour := rfl
  bound := by
    intro token member name named
    simp only [binds, Option.any_some, Bindings.binds, names token member name named]
  operands := by
    intro token member
    unfold operand
    cases kind : token.kind with
    | identifier name =>
        have same := names token member name (by simp [Token.variableName?, kind])
        simp only [valueOf, Option.bind_some, same]
        cases second.lookup name with
        | none => rfl
        | some text => cases Quantity.parse? text <;> rfl
    | reference written =>
        rcases results with same | silent
        · exact congrArg Except.toOption (same.results token _)
        · have contradiction := silent token member
          simp [Token.readsResults, kind] at contradiction
    | _ => rfl
  totals := by
    intro token member kind
    rcases results with same | silent
    · exact same.total
    · have contradiction := silent token member
      simp [Token.readsResults, kind] at contradiction

end Surroundings

/-! ## Refused lines -/

namespace Token

theorem parenthesisBalance_alike {tokens others : List Token}
    (alike : List.Forall₂ Alike tokens others) (depth : Nat) :
    SucceedAlike Eq (parenthesisBalance depth tokens) (parenthesisBalance depth others) := by
  induction alike generalizing depth with
  | nil => exact .refl _
  | @cons token other _ _ pair _ induction =>
      unfold parenthesisBalance
      cases pair with
      | references isReference isReferenceToo =>
          rw [isReference, isReferenceToo]
          exact induction depth
      | sameKind same =>
          rw [same]
          cases other.kind with
          | openParenthesis => exact induction (depth + 1)
          | closeParenthesis =>
              cases depth with
              | zero => exact .fail _ _
              | succ depth => exact induction depth
          | _ => exact induction depth

theorem isDoubledOperator_alike {token other next nextToo : Token} (pair : token.Alike other)
    (following : next.Alike nextToo) :
    isDoubledOperator token next = isDoubledOperator other nextToo := by
  unfold isDoubledOperator
  rw [pair.sameClass.operator]
  exact following.congr
    (fun kind => isDoubledOperator other (ofKind kind)) fun _ _ => rfl

theorem isSome_doubledOperator?_alike {tokens others : List Token}
    (alike : List.Forall₂ Alike tokens others) :
    (doubledOperator? tokens).isSome = (doubledOperator? others).isSome := by
  induction alike with
  | nil => rfl
  | cons pair rest induction =>
      cases rest with
      | nil => rfl
      | cons following rest =>
          unfold doubledOperator?
          rw [isDoubledOperator_alike pair following]
          split
          · rfl
          · exact induction

/-- Alike tokens are refused together. -/
theorem isSome_structureError?_alike {tokens others : List Token}
    (alike : List.Forall₂ Alike tokens others) :
    (structureError? tokens).isSome = (structureError? others).isSome := by
  have balance := parenthesisBalance_alike alike 0
  have doubled := isSome_doubledOperator?_alike alike
  have isEmpty : tokens.isEmpty = others.isEmpty := by
    cases alike <;> rfl
  unfold structureError?
  rw [isEmpty]
  split
  · rfl
  · generalize parenthesisBalance 0 tokens = inFirst at balance
    generalize parenthesisBalance 0 others = inSecond at balance
    cases balance with
    | fail => rfl
    | @succeed depth _ same =>
        cases same
        cases depth with
        | zero => exact doubled
        | succ => rfl

end Token

/-! ## Lines -/

theorem evaluateLine_of_tokens {line : String} {tokens : List Token}
    (accepted : tokens? line = .ok (some tokens)) (surroundings : Surroundings) :
    evaluateLine surroundings line =
      .ok ((Formula.evaluate surroundings tokens).value.getD {}) := by
  unfold evaluateLine
  rw [accepted]
  rfl

theorem evaluateLine_of_refused {line : String} (refused : tokens? line = .ok none)
    (surroundings : Surroundings) : evaluateLine surroundings line = .ok {} := by
  unfold evaluateLine
  rw [refused]
  rfl

theorem evaluateLine_of_unreadable {line : String} {digit : UnreadableDigit}
    (unreadable : tokens? line = .error digit) (surroundings : Surroundings) :
    evaluateLine surroundings line = .error digit := by
  unfold evaluateLine
  rw [unreadable]
  rfl

/-- A line that can be scanned shows something in all surroundings. -/
theorem exists_evaluateLine {line : String} (readable : ReaderIndex.Readable line)
    (surroundings : Surroundings) : ∃ shown, evaluateLine surroundings line = .ok shown := by
  obtain ⟨scanned, isScan⟩ := readable
  unfold evaluateLine tokens?
  rw [isScan]
  exact ⟨_, rfl⟩

/-- Two lines show the same if the tokens of the one mean in its surroundings what the tokens of the
other mean there. -/
theorem evaluateLine_alike {line other : String} {scanned rescanned : Scan}
    {first second : Surroundings} (isScan : scan line = .ok scanned)
    (isRescan : scan other = .ok rescanned)
    (agree : AgreeAcross scanned.tokens rescanned.tokens first second) :
    evaluateLine first line = evaluateLine second other := by
  have together := Token.isSome_structureError?_alike agree.alike
  have shown := Formula.evaluate_alike agree
  unfold evaluateLine tokens?
  rw [isScan, isRescan]
  cases refused : (Token.structureError? rescanned.tokens).isSome with
  | true => simp [Except.map, Scan.error?, together, refused]
  | false => simp [Except.map, Scan.error?, together, refused, shown]

theorem namesReadBy_of_tokens {line : String} {tokens : List Token}
    (accepted : tokens? line = .ok (some tokens)) :
    ReaderIndex.namesReadBy line = namesRead tokens := by
  unfold tokens? at accepted
  obtain ⟨scanned, isScan, same⟩ := map_eq_ok_iff.mp accepted
  split at same
  · exact absurd same (by simp)
  · unfold ReaderIndex.namesReadBy
    rw [isScan, ← Option.some.inj same]

/-- A line shows the same in two surroundings if its tokens do, in case it has any. -/
theorem evaluateLine_congr {line : String} {first second : Surroundings}
    (same : ∀ tokens, tokens? line = .ok (some tokens) →
      (Formula.evaluate first tokens).value = (Formula.evaluate second tokens).value) :
    evaluateLine first line = evaluateLine second line := by
  cases accepted : tokens? line with
  | error digit => rw [evaluateLine_of_unreadable accepted, evaluateLine_of_unreadable accepted]
  | ok tokens =>
      cases tokens with
      | none => rw [evaluateLine_of_refused accepted, evaluateLine_of_refused accepted]
      | some tokens =>
          rw [evaluateLine_of_tokens accepted, evaluateLine_of_tokens accepted,
            same tokens accepted]

/-- A line observes no result at its own place or below. -/
theorem evaluateLine_congr_results (line : String) (bindings : Bindings) {place : Nat}
    {first second : List (Option String)} (same : first.take place = second.take place) :
    evaluateLine ⟨some bindings, first, place⟩ line =
      evaluateLine ⟨some bindings, second, place⟩ line := by
  refine evaluateLine_congr fun tokens _ => Formula.evaluate_congr ?_
  exact Surroundings.agreeOn_of_lookup (fun _ _ _ _ => rfl)
    (.inl (Surroundings.sameAbove_of_take same))

/-- Tokens show the same to surroundings that agree behind the target of an assignment, if the
assignment has a value: the target is not looked up then. -/
theorem evaluate_congr_behindTarget {tokens : List Token} {first second : Surroundings}
    (agree : AgreeOn (Token.behindTarget tokens) first second)
    (assigned : Token.startsAssignment tokens = true →
      (((Formula.evaluate first tokens).value.getD {}).assignment.isSome = true)) :
    (Formula.evaluate first tokens).value = (Formula.evaluate second tokens).value := by
  unfold Token.behindTarget at agree
  cases starts : Token.startsAssignment tokens with
  | false =>
      rw [starts] at agree
      exact Formula.evaluate_congr agree
  | true =>
      rw [if_pos starts] at agree
      have hasValue := assigned starts
      cases evaluated : (Formula.evaluate first tokens).value with
      | none =>
          rw [evaluated] at hasValue
          exact absurd hasValue (by simp)
      | some shown =>
          rw [evaluated] at hasValue
          by_cases long : 2 < tokens.length
          · obtain ⟨name, assigns⟩ := assignment?_of_starts starts long
            exact (Formula.evaluate_congr_of_assignment assigns agree evaluated hasValue).symm
          · -- Without a right side nothing is assigned.
            have searched : Formula.assignment? tokens = none := by
              match tokens with
              | [] | [_] | [_, _] => rfl
              | _ :: _ :: _ :: _ => simp at long
            unfold Formula.evaluate at evaluated
            rw [searched] at evaluated
            rw [Option.getD_some, Formula.found_assignment evaluated] at hasValue
            exact absurd hasValue (by simp)

/-- A line shows the same under bindings that agree on the names that the index holds for it,
provided it observes no results and, if it is an assignment, has a value. -/
theorem evaluateLine_congr_names {line : String} {first second : Bindings} {place : Nat}
    {firstResults secondResults : List (Option String)} {shown : Formula.LineValue}
    (names : ∀ name ∈ ReaderIndex.namesReadBy line, first.lookup name = second.lookup name)
    (silent : ¬ObservesResults line)
    (assigned : StartsAssignment line → shown.assignment.isSome = true)
    (inFirst : evaluateLine ⟨some first, firstResults, place⟩ line = .ok shown) :
    evaluateLine ⟨some second, secondResults, place⟩ line = .ok shown := by
  have same : evaluateLine ⟨some first, firstResults, place⟩ line =
      evaluateLine ⟨some second, secondResults, place⟩ line := by
    refine evaluateLine_congr fun tokens accepted => ?_
    rw [namesReadBy_of_tokens accepted] at names
    rw [evaluateLine_of_tokens accepted] at inFirst
    have agree : AgreeOn (Token.behindTarget tokens) ⟨some first, firstResults, place⟩
        ⟨some second, secondResults, place⟩ := by
      refine Surroundings.agreeOn_of_lookup ?_ (.inr ?_)
      · intro token member name named
        exact names name (mem_namesRead.mpr ⟨token, member, named⟩)
      · intro token member
        by_contra reads
        exact silent ⟨tokens, accepted, token, Token.behindTarget_subset tokens member,
          by simpa using reads⟩
    refine evaluate_congr_behindTarget agree fun starts => ?_
    rw [Except.ok.inj inFirst]
    exact assigned ⟨tokens, accepted, starts⟩
  rw [← same]
  exact inFirst

/-! ## The target of an assignment -/

/-- The name that tokens start with, if an equals sign follows it. -/
def Token.target? : List Token → Option String
  | target :: sign :: _ => if sign.isAssign then target.variableName? else none
  | _ => none

/-- The target that a line that is not refused starts with, whether it then assigns or not. -/
def targetOf (line : String) : Option String :=
  match tokens? line with
  | .ok (some tokens) => Token.target? tokens
  | _ => none

/-- A name among tokens is the target or is behind it. -/
theorem Token.mem_behindTarget_or_target {tokens : List Token} {token : Token} {name : String}
    (member : token ∈ tokens) (named : token.variableName? = some name) :
    token ∈ behindTarget tokens ∨ target? tokens = some name := by
  unfold behindTarget
  split
  · rename_i starts
    match tokens with
    | target :: sign :: rest =>
        obtain ⟨-, equals⟩ := Bool.and_eq_true_iff.mp starts
        rcases List.mem_cons.mp member with rfl | later
        · exact .inr (by simp [target?, equals, named])
        · rcases List.mem_cons.mp later with rfl | behind
          · unfold isAssign at equals
            unfold variableName? at named
            cases kind : token.kind <;> simp [kind] at equals named
          · exact .inl behind
    | [] | [_] => exact absurd starts (by simp [startsAssignment])
  · exact .inl member

/-- A line shows the same, whatever the results and its place, under bindings that agree on the
names that the index holds for it and on the target that it starts with.  On the target they need
not agree if the line does assign. -/
theorem evaluateLine_congr_bindings {line : String} {first second : Bindings}
    (results : List (Option String)) (place : Int)
    (names : ∀ name ∈ ReaderIndex.namesReadBy line, first.lookup name = second.lookup name)
    (target : ∀ name ∈ targetOf line, first.lookup name = second.lookup name ∨
      ∃ shown, evaluateLine ⟨some first, results, place⟩ line = .ok shown ∧
        shown.assignment.isSome = true) :
    evaluateLine ⟨some first, results, place⟩ line =
      evaluateLine ⟨some second, results, place⟩ line := by
  refine evaluateLine_congr fun tokens accepted => ?_
  have isTarget : targetOf line = Token.target? tokens := by simp only [targetOf, accepted]
  have sameAbove : Surroundings.SameAbove ⟨some first, results, place⟩
      ⟨some second, results, place⟩ := ⟨fun _ _ => rfl, rfl⟩
  rw [namesReadBy_of_tokens accepted] at names
  rw [isTarget, evaluateLine_of_tokens accepted] at target
  -- A target that the bindings agree on is a name like any other; else it is not looked up.
  by_cases agrees : ∀ name ∈ Token.target? tokens, first.lookup name = second.lookup name
  · refine Formula.evaluate_congr (Surroundings.agreeOn_of_lookup ?_ (.inl sameAbove))
    intro token member name named
    rcases Token.mem_behindTarget_or_target member named with behind | isTarget
    · exact names name (mem_namesRead.mpr ⟨token, behind, named⟩)
    · exact agrees name isTarget
  · have assigns : ((Formula.evaluate ⟨some first, results, place⟩ tokens).value.getD
        {}).assignment.isSome = true := by
      push Not at agrees
      obtain ⟨name, isTarget, differs⟩ := agrees
      obtain ⟨shown, same, assigned⟩ := (target name isTarget).resolve_left differs
      rwa [Except.ok.inj same]
    refine evaluate_congr_behindTarget
      (Surroundings.agreeOn_of_lookup ?_ (.inl sameAbove)) fun _ => assigns
    intro token behind name named
    exact names name (mem_namesRead.mpr ⟨token, behind, named⟩)

/-- A line that assigns shows the same whatever its target was bound to above it. -/
theorem evaluateLine_congr_rebound_target :
    evaluateLine ⟨some [("x", "1"), ("y", "4")], [], 2⟩ "x = y * 2" =
      evaluateLine ⟨some [("y", "4")], [], 2⟩ "x = y * 2" := by
  refine evaluateLine_congr_bindings [] 2 (by decide +kernel) ?_
  intro name _
  exact .inr ⟨⟨some "8", some ⟨"x", "8"⟩⟩, by decide +kernel, rfl⟩

/-- A line that starts with a target but assigns nothing looks the target up. -/
theorem evaluateLine_reads_target :
    (∀ name ∈ ReaderIndex.namesReadBy "x =",
      ([] : Bindings).lookup name = [("x", "5")].lookup name) ∧
    evaluateLine ⟨some [], [], 0⟩ "x =" = .ok ⟨none, none⟩ ∧
    evaluateLine ⟨some [("x", "5")], [], 0⟩ "x =" = .ok ⟨some "5", none⟩ := by
  decide +kernel

end NoteCalc
