import Mathlib.Data.List.Infix
import NoteCalc.Proofs.Line.StrayDigits
import NoteCalc.Proofs.Success

/-!
# Refused lines

A line is refused if it has no tokens, if its parentheses are not a word of the grammar of balanced
parentheses, or if an operator other than the minus follows another one.  One error is recorded for
it, and it stands at the first closing parenthesis that closes none, or at the second operator of
the first such pair.

The scan for parentheses only counts how many are open.  What has been read with some of them open
is a sequence of balanced pieces with an open parenthesis between any two, and this tells at a
closing parenthesis whether it closes one.
-/

namespace NoteCalc

/-- A parenthesis without its place. -/
inductive Parenthesis where
  | opening
  | closing
deriving Repr, DecidableEq

open Parenthesis

/-- The grammar of balanced parentheses. -/
inductive Balanced : List Parenthesis → Prop where
  | empty : Balanced []
  | enclosed {inside after : List Parenthesis} (isInside : Balanced inside)
      (isAfter : Balanced after) : Balanced (opening :: inside ++ closing :: after)

namespace Balanced

variable {first second word piece : List Parenthesis}

theorem append (isFirst : Balanced first) (isSecond : Balanced second) :
    Balanced (first ++ second) := by
  induction isFirst with
  | empty => exact isSecond
  | enclosed isInside _ _ isRest =>
      rw [List.append_assoc, List.cons_append]
      exact .enclosed isInside isRest

theorem count_eq (balanced : Balanced word) : word.count opening = word.count closing := by
  induction balanced with
  | empty => rfl
  | enclosed _ _ inside after =>
      simp only [List.cons_append, List.count_cons, List.count_append, inside, after]
      simp
      omega

/-- No beginning of a balanced word closes more parentheses than it opens. -/
theorem count_le (balanced : Balanced word) (isPrefix : piece <+: word) :
    piece.count closing ≤ piece.count opening := by
  induction balanced generalizing piece with
  | empty => simp [List.prefix_nil.mp isPrefix]
  | @enclosed inside after isInside isAfter insideCount afterCount =>
      rw [List.cons_append] at isPrefix
      rcases List.prefix_cons_iff.mp isPrefix with rfl | ⟨rest, rfl, isRest⟩
      · rfl
      · rcases List.prefix_or_prefix_of_prefix isRest (List.prefix_append _ _) with
          within | ⟨beyond, rfl⟩
        · have counted := insideCount within
          simp
          omega
        · rw [List.prefix_append_right_inj] at isRest
          rcases List.prefix_cons_iff.mp isRest with rfl | ⟨last, rfl, isLast⟩
          · have counted := isInside.count_eq
            simp
            omega
          · have counted := isInside.count_eq
            have lastCounted := afterCount isLast
            simp
            omega

end Balanced

namespace Token

/-- The parenthesis that a token is, if it is one. -/
def parenthesis? (token : Token) : Option Parenthesis :=
  match token.kind with
  | .openParenthesis => some opening
  | .closeParenthesis => some closing
  | _ => none

/-- The parentheses among tokens. -/
def parentheses (tokens : List Token) : List Parenthesis :=
  tokens.filterMap parenthesis?

/-- A closing parenthesis that comes after these tokens closes an open one of theirs: what stands
between them is balanced. -/
def ClosesOne (before : List Token) : Prop :=
  ∃ earlier opener between, before = earlier ++ opener :: between ∧
    opener.kind = .openParenthesis ∧ Balanced (parentheses between)

/-- An open parenthesis that stands before these tokens is closed by one of them. -/
def IsClosedIn (after : List Token) : Prop :=
  ∃ between closer later, after = between ++ closer :: later ∧
    closer.kind = .closeParenthesis ∧ Balanced (parentheses between)

/-- Every closing parenthesis closes an open one. -/
def AllClose (tokens : List Token) : Prop :=
  ∀ before closer, before ++ [closer] <+: tokens → closer.kind = .closeParenthesis →
    ClosesOne before

/-- Two neighbours are operators of which the second is no minus. -/
def Doubled (first second : Token) : Prop :=
  first.isOperator = true ∧ second.isOperator = true ∧ second.kind ≠ .operator .minus

/-- Some two neighbours are operators of which the second is no minus. -/
def HasDoubled (tokens : List Token) : Prop :=
  ∃ before first second, before ++ [first, second] <+: tokens ∧ Doubled first second

/-- The code and the place of the error for which tokens are refused. -/
inductive Refused (tokens : List Token) : String → Option Span → Prop where
  | nothing (isNil : tokens = []) : Refused tokens "L003" none
  | unmatched {before : List Token} {closer : Token} (stands : before ++ [closer] <+: tokens)
      (isClosing : closer.kind = .closeParenthesis) (closesNone : ¬ ClosesOne before)
      (isFirst : AllClose before) : Refused tokens "L001" (some closer.span)
  | unclosed {before after : List Token} {opener : Token} (allClose : AllClose tokens)
      (stands : tokens = before ++ opener :: after) (isOpening : opener.kind = .openParenthesis)
      (isOpen : ¬ IsClosedIn after) : Refused tokens "L001" none
  | doubled {before : List Token} {first second : Token} (balanced : Balanced (parentheses tokens))
      (stands : before ++ [first, second] <+: tokens) (isDoubled : Doubled first second)
      (isFirst : ¬ HasDoubled (before ++ [first])) : Refused tokens "L002" (some second.span)

/-! ## Counting open parentheses -/

/-- Tokens that leave a number of parentheses open: balanced pieces with an open parenthesis between
any two. -/
inductive Opens : Nat → List Token → Prop where
  | balanced {tokens : List Token} (isBalanced : Balanced (parentheses tokens)) : Opens 0 tokens
  | opened {depth : Nat} {before inside : List Token} {opener : Token} (opens : Opens depth before)
      (isOpening : opener.kind = .openParenthesis) (isInside : Balanced (parentheses inside)) :
      Opens (depth + 1) (before ++ opener :: inside)

variable {depth : Nat} {tokens before more : List Token} {token : Token}

@[simp]
theorem parentheses_nil : parentheses [] = [] := rfl

theorem parentheses_append (first second : List Token) :
    parentheses (first ++ second) = parentheses first ++ parentheses second :=
  List.filterMap_append

theorem parentheses_opening (isOpening : token.kind = .openParenthesis) (rest : List Token) :
    parentheses (token :: rest) = opening :: parentheses rest := by
  simp [parentheses, parenthesis?, isOpening]

theorem parentheses_closing (isClosing : token.kind = .closeParenthesis) (rest : List Token) :
    parentheses (token :: rest) = closing :: parentheses rest := by
  simp [parentheses, parenthesis?, isClosing]

theorem parentheses_other (notOpening : token.kind ≠ .openParenthesis)
    (notClosing : token.kind ≠ .closeParenthesis) (rest : List Token) :
    parentheses (token :: rest) = parentheses rest := by
  have isOther : token.parenthesis? = none := by
    unfold parenthesis?
    split <;> simp_all
  simp [parentheses, isOther]

theorem Opens.append (opens : Opens depth tokens) (isBalanced : Balanced (parentheses more)) :
    Opens depth (tokens ++ more) := by
  cases opens with
  | balanced first =>
      apply Opens.balanced
      rw [parentheses_append]
      exact first.append isBalanced
  | opened opens isOpening isInside =>
      rw [List.append_assoc, List.cons_append]
      apply Opens.opened opens isOpening
      rw [parentheses_append]
      exact isInside.append isBalanced

theorem Opens.count_eq (opens : Opens depth tokens) :
    (parentheses tokens).count opening = (parentheses tokens).count closing + depth := by
  induction opens with
  | balanced isBalanced => exact isBalanced.count_eq
  | opened opens isOpening isInside counted =>
      have insideCounted := isInside.count_eq
      simp [parentheses_append, parentheses_opening isOpening]
      omega

theorem Opens.open (opens : Opens depth tokens) (isOpening : token.kind = .openParenthesis) :
    Opens (depth + 1) (tokens ++ [token]) :=
  .opened opens isOpening .empty

/-- A closing parenthesis closes the last open one. -/
theorem Opens.close (opens : Opens (depth + 1) tokens)
    (isClosing : token.kind = .closeParenthesis) :
    Opens depth (tokens ++ [token]) ∧ ClosesOne tokens := by
  cases opens with
  | @opened _ before inside opener opens isOpening isInside =>
      refine ⟨?_, before, opener, inside, rfl, isOpening, isInside⟩
      rw [List.append_assoc]
      apply opens.append
      rw [List.cons_append, parentheses_opening isOpening, parentheses_append,
        parentheses_closing isClosing]
      exact .enclosed isInside .empty

/-- Where nothing is open, a closing parenthesis closes none. -/
theorem not_closesOne_of_balanced (balanced : Balanced (parentheses tokens)) :
    ¬ ClosesOne tokens := by
  rintro ⟨earlier, opener, between, rfl, isOpening, isBetween⟩
  rw [parentheses_append, parentheses_opening isOpening] at balanced
  have counted := balanced.count_eq
  have betweenCounted := isBetween.count_eq
  have earlierCounted := balanced.count_le (List.prefix_append _ _)
  simp at counted
  omega

/-- In a balanced piece, nothing closes what was open before. -/
theorem not_isClosedIn_of_balanced (balanced : Balanced (parentheses tokens)) :
    ¬ IsClosedIn tokens := by
  rintro ⟨between, closer, later, rfl, isClosing, isBetween⟩
  have split : parentheses (between ++ closer :: later) =
      parentheses between ++ [closing] ++ parentheses later := by
    simp [parentheses_append, parentheses_closing isClosing]
  rw [split] at balanced
  have counted := balanced.count_le (List.prefix_append _ _)
  have betweenCounted := isBetween.count_eq
  simp at counted
  omega

theorem allClose_nil : AllClose [] := by
  intro before closer stands
  exact absurd (List.prefix_nil.mp stands) (by simp)

theorem AllClose.snoc (allClose : AllClose tokens)
    (closes : token.kind = .closeParenthesis → ClosesOne tokens) :
    AllClose (tokens ++ [token]) := by
  intro before closer stands isClosing
  rcases List.prefix_concat_iff.mp stands with whole | inside
  · obtain ⟨rfl, same⟩ := List.append_inj' whole rfl
    obtain rfl := List.singleton_inj.mp same
    exact closes isClosing
  · exact allClose before closer inside isClosing

/-- Two places among tokens are the same place, or one of them comes before the other. -/
theorem place_cases {other : List Token} {last otherLast : Token}
    (stands : before ++ [last] <+: tokens) (standsToo : other ++ [otherLast] <+: tokens) :
    before ++ [last] <+: other ∨ other ++ [otherLast] <+: before ∨
      (before = other ∧ last = otherLast) := by
  have samePlace (whole : before ++ [last] = other ++ [otherLast]) :
      before = other ∧ last = otherLast :=
    (List.append_inj' whole rfl).imp_right List.singleton_inj.mp
  rcases List.prefix_or_prefix_of_prefix stands standsToo with isBefore | isAfter
  · rcases List.prefix_concat_iff.mp isBefore with whole | inside
    · exact .inr (.inr (samePlace whole))
    · exact .inl inside
  · rcases List.prefix_concat_iff.mp isAfter with whole | inside
    · exact .inr (.inr (samePlace whole.symm))
    · exact .inr (.inl inside)

/-- What the scan for parentheses tells about the tokens. -/
def Judged (tokens : List Token) : Except Span Nat → Prop
  | .ok depth => Opens depth tokens ∧ AllClose tokens
  | .error span => ∃ before closer, before ++ [closer] <+: tokens ∧
      closer.kind = .closeParenthesis ∧ closer.span = span ∧ Opens 0 before ∧ AllClose before

/-- The count of open parentheses is right at every step, and so is what the scan tells. -/
theorem judged_parenthesisBalance (opens : Opens depth before) (allClose : AllClose before) :
    Judged (before ++ tokens) (parenthesisBalance depth tokens) := by
  fun_induction parenthesisBalance depth tokens generalizing before with
  | case1 depth =>
      rw [List.append_nil]
      exact ⟨opens, allClose⟩
  | case2 depth token tokens isOpening induction =>
      rw [List.append_cons]
      exact induction (opens.open isOpening) (allClose.snoc fun isClosing => by simp_all)
  | case3 token tokens isClosing =>
      refine ⟨before, token, ?_, isClosing, rfl, opens, allClose⟩
      rw [List.append_cons before token tokens]
      exact List.prefix_append _ _
  | case4 token tokens isClosing depth induction =>
      obtain ⟨closed, closesOne⟩ := opens.close isClosing
      rw [List.append_cons]
      exact induction closed (allClose.snoc fun _ => closesOne)
  | case5 depth token tokens notOpening notClosing induction =>
      have noParenthesis : parentheses [token] = [] := parentheses_other notOpening notClosing []
      rw [List.append_cons]
      exact induction (opens.append (noParenthesis ▸ .empty))
        (allClose.snoc fun isClosing => absurd isClosing notClosing)

theorem judged_fromStart (tokens : List Token) : Judged tokens (parenthesisBalance 0 tokens) :=
  judged_parenthesisBalance (.balanced .empty : Opens 0 []) allClose_nil

theorem Opens.isBalanced (opens : Opens 0 tokens) : Balanced (parentheses tokens) := by
  cases opens with
  | balanced isBalanced => exact isBalanced

theorem parenthesisBalance_eq_zero_iff :
    parenthesisBalance 0 tokens = .ok 0 ↔ Balanced (parentheses tokens) := by
  have judged := judged_fromStart tokens
  constructor
  · intro isZero
    rw [isZero] at judged
    exact judged.1.isBalanced
  · intro balanced
    cases found : parenthesisBalance 0 tokens with
    | error span =>
        rw [found] at judged
        obtain ⟨before, closer, ⟨after, rfl⟩, isClosing, -, opens, -⟩ := judged
        rw [parentheses_append] at balanced
        have counted := balanced.count_le (List.prefix_append _ _)
        have beforeCounted := opens.count_eq
        simp [parentheses_append, parentheses_closing isClosing] at counted
        omega
    | ok depth =>
        rw [found] at judged
        have counted := judged.1.count_eq
        have balancedCounted := balanced.count_eq
        have isZero : depth = 0 := by omega
        rw [isZero]

/-- Where parentheses balance, every open one is closed. -/
theorem isClosedIn_of_balanced {after : List Token}
    (balanced : Balanced (parentheses (before ++ token :: after)))
    (isOpening : token.kind = .openParenthesis) : IsClosedIn after := by
  have judged := judged_fromStart after
  cases found : parenthesisBalance 0 after with
  | error span =>
      rw [found] at judged
      obtain ⟨between, closer, ⟨later, isAfter⟩, isClosing, -, opens, -⟩ := judged
      refine ⟨between, closer, later, ?_, isClosing, opens.isBalanced⟩
      rw [← isAfter, List.append_assoc, List.singleton_append]
  | ok depth =>
      rw [found] at judged
      rw [parentheses_append, parentheses_opening isOpening] at balanced
      have counted := balanced.count_eq
      have afterCounted := judged.1.count_eq
      have beforeCounted := balanced.count_le (List.prefix_append _ _)
      simp at counted
      omega

/-- The scan stops at the first closing parenthesis that closes none. -/
theorem parenthesisBalance_eq_error {closer : Token} (stands : before ++ [closer] <+: tokens)
    (isClosing : closer.kind = .closeParenthesis) (closesNone : ¬ ClosesOne before)
    (isFirst : AllClose before) : parenthesisBalance 0 tokens = .error closer.span := by
  have judged := judged_fromStart tokens
  cases found : parenthesisBalance 0 tokens with
  | error span =>
      rw [found] at judged
      obtain ⟨other, otherCloser, standsToo, isClosingToo, rfl, opens, isFirstToo⟩ := judged
      have closesNoneToo := not_closesOne_of_balanced opens.isBalanced
      rcases place_cases stands standsToo with isBefore | isAfter | ⟨-, rfl⟩
      · exact absurd (isFirstToo _ _ isBefore isClosing) closesNone
      · exact absurd (isFirst _ _ isAfter isClosingToo) closesNoneToo
      · rfl
  | ok depth =>
      rw [found] at judged
      exact absurd (judged.2 _ _ stands isClosing) closesNone

/-- Where all closing parentheses close one and an open one is not closed, some are left open. -/
theorem parenthesisBalance_eq_succ {after : List Token}
    (allClose : AllClose (before ++ token :: after)) (isOpening : token.kind = .openParenthesis)
    (isOpen : ¬ IsClosedIn after) :
    ∃ depth, parenthesisBalance 0 (before ++ token :: after) = .ok (depth + 1) := by
  have judged := judged_fromStart (before ++ token :: after)
  cases found : parenthesisBalance 0 (before ++ token :: after) with
  | error span =>
      rw [found] at judged
      obtain ⟨other, closer, stands, isClosing, -, opens, -⟩ := judged
      exact absurd (allClose _ _ stands isClosing) (not_closesOne_of_balanced opens.isBalanced)
  | ok depth =>
      cases depth with
      | zero =>
          have balanced := parenthesisBalance_eq_zero_iff.mp found
          exact absurd (isClosedIn_of_balanced balanced isOpening) isOpen
      | succ depth => exact ⟨depth, rfl⟩

/-! ## Doubled operators -/

theorem isDoubledOperator_iff {first second : Token} :
    isDoubledOperator first second = true ↔ Doubled first second := by
  unfold isDoubledOperator Doubled isOperator
  split <;> simp_all

theorem hasDoubled_cons_iff {first second : Token} :
    HasDoubled (first :: second :: tokens) ↔
      Doubled first second ∨ HasDoubled (second :: tokens) := by
  constructor
  · rintro ⟨before, left, right, stands, isDoubled⟩
    cases before with
    | nil =>
        simp only [List.nil_append, List.cons_prefix_cons, List.nil_prefix, and_true] at stands
        exact .inl (stands.1 ▸ stands.2 ▸ isDoubled)
    | cons token before =>
        rw [List.cons_append, List.cons_prefix_cons] at stands
        exact .inr ⟨before, left, right, stands.2, isDoubled⟩
  · rintro (isDoubled | ⟨before, left, right, stands, isDoubled⟩)
    · exact ⟨[], first, second, by simp, isDoubled⟩
    · exact ⟨first :: before, left, right, by simpa using stands, isDoubled⟩

theorem not_hasDoubled_of_short (short : tokens.length ≤ 1) : ¬ HasDoubled tokens := by
  rintro ⟨before, first, second, stands, -⟩
  have enough := stands.length_le
  simp at enough
  omega

/-- The search for doubled operators finds the first pair of them, if there is one. -/
theorem doubledOperator?_cases (tokens : List Token) :
    (doubledOperator? tokens = none ∧ ¬ HasDoubled tokens) ∨
    ∃ before first second, before ++ [first, second] <+: tokens ∧ Doubled first second ∧
      ¬ HasDoubled (before ++ [first]) ∧
      doubledOperator? tokens = some (.doubledOperator first.lexeme second.lexeme second.span) := by
  fun_induction doubledOperator? tokens with
  | case1 first second tokens isDoubled =>
      right
      exact ⟨[], first, second, by simp, isDoubledOperator_iff.mp isDoubled,
        not_hasDoubled_of_short (by simp), rfl⟩
  | case2 first second tokens notDoubled induction =>
      rw [isDoubledOperator_iff] at notDoubled
      rcases induction with ⟨isNone, none⟩ | ⟨before, left, right, stands, isDoubled, none, isSome⟩
      · left
        refine ⟨isNone, ?_⟩
        rw [hasDoubled_cons_iff]
        exact not_or.mpr ⟨notDoubled, none⟩
      · right
        have begins : before ++ [left] <+: second :: tokens :=
          List.IsPrefix.trans ⟨[right], by simp⟩ stands
        refine ⟨first :: before, left, right, by simpa using stands, isDoubled, ?_, isSome⟩
        rcases List.prefix_cons_iff.mp begins with noTokens | ⟨rest, isRest, -⟩
        · exact absurd noTokens (by simp)
        · rw [List.cons_append, isRest, hasDoubled_cons_iff, ← isRest]
          exact not_or.mpr ⟨notDoubled, none⟩
  | case3 tokens noPair =>
      left
      refine ⟨rfl, not_hasDoubled_of_short ?_⟩
      match tokens, noPair with
      | [], _ => simp
      | [_], _ => simp
      | first :: second :: rest, noPair => exact absurd rfl (noPair first second rest)

/-! ## The error -/

/-- Tokens are refused for a reason that they have. -/
theorem refused_of_structureError? {error : LineError}
    (found : structureError? tokens = some error) :
    Refused tokens error.diagnostic.code error.diagnostic.span := by
  unfold structureError? at found
  split at found
  · rename_i isNil
    obtain rfl := Option.some.inj found
    exact .nothing (List.isEmpty_iff.mp isNil)
  · have judged := judged_fromStart tokens
    split at found <;> rename_i balance <;> rw [balance] at judged
    · obtain rfl := Option.some.inj found
      obtain ⟨before, closer, stands, isClosing, rfl, opens, allClose⟩ := judged
      exact .unmatched stands isClosing (not_closesOne_of_balanced opens.isBalanced) allClose
    · obtain rfl := Option.some.inj found
      obtain ⟨opens, allClose⟩ := judged
      cases opens with
      | opened opens isOpening isInside =>
          exact .unclosed allClose rfl isOpening (not_isClosedIn_of_balanced isInside)
    · rcases doubledOperator?_cases tokens with
        ⟨isNone, -⟩ | ⟨before, first, second, stands, isDoubled, isFirst, isSome⟩
      · exact absurd (isNone.symm.trans found) (by simp)
      · obtain rfl := Option.some.inj (isSome.symm.trans found)
        exact .doubled (parenthesisBalance_eq_zero_iff.mp balance) stands isDoubled isFirst

/-- Tokens that have a reason to be refused are refused for it. -/
theorem Refused.exists_structureError? {code : String} {span : Option Span}
    (refused : Refused tokens code span) :
    ∃ error, structureError? tokens = some error ∧
      error.diagnostic.code = code ∧ error.diagnostic.span = span := by
  cases refused with
  | nothing isNil => exact ⟨.nothingToEvaluate, by simp [structureError?, isNil], rfl, rfl⟩
  | @unmatched before closer stands isClosing closesNone isFirst =>
      have balance := parenthesisBalance_eq_error stands isClosing closesNone isFirst
      have notNil : tokens ≠ [] := by
        rintro rfl
        exact absurd balance (by simp [parenthesisBalance])
      exact ⟨.unmatchedClose closer.span, by simp [structureError?, notNil, balance], rfl, rfl⟩
  | unclosed allClose stands isOpening isOpen =>
      obtain ⟨depth, balance⟩ := parenthesisBalance_eq_succ (stands ▸ allClose) isOpening isOpen
      subst stands
      exact ⟨.unclosedOpen, by simp [structureError?, balance], rfl, rfl⟩
  | @doubled before first second balanced stands isDoubled isFirst =>
      have balance := parenthesisBalance_eq_zero_iff.mpr balanced
      have notNil : tokens ≠ [] := by
        rintro rfl
        exact absurd stands (by simp)
      rcases doubledOperator?_cases tokens with
        ⟨-, none⟩ | ⟨other, left, right, standsToo, isDoubledToo, isFirstToo, isSome⟩
      · exact absurd ⟨before, first, second, stands, isDoubled⟩ none
      · have found : structureError? tokens = doubledOperator? tokens := by
          simp [structureError?, notNil, balance]
        refine ⟨_, found.trans isSome, rfl, ?_⟩
        rw [List.append_cons] at stands standsToo
        rcases place_cases stands standsToo with isBefore | isAfter | ⟨-, rfl⟩
        · exact absurd ⟨_, _, _, by simpa using isBefore, isDoubled⟩ isFirstToo
        · exact absurd ⟨_, _, _, by simpa using isAfter, isDoubledToo⟩ isFirst
        · rfl

/-- The tokens determine the code and the place for which they are refused. -/
theorem Refused.unique {code otherCode : String} {span otherSpan : Option Span}
    (refused : Refused tokens code span) (refusedToo : Refused tokens otherCode otherSpan) :
    code = otherCode ∧ span = otherSpan := by
  obtain ⟨error, isError, rfl, rfl⟩ := refused.exists_structureError?
  obtain ⟨other, isOther, rfl, rfl⟩ := refusedToo.exists_structureError?
  obtain rfl := Option.some.inj (isError.symm.trans isOther)
  exact ⟨rfl, rfl⟩

theorem doubledOperator?_eq_none_iff : doubledOperator? tokens = none ↔ ¬ HasDoubled tokens := by
  rcases doubledOperator?_cases tokens with
    ⟨isNone, none⟩ | ⟨before, first, second, stands, isDoubled, -, isSome⟩
  · exact iff_of_true isNone none
  · apply iff_of_false (by simp [isSome])
    exact not_not_intro ⟨before, first, second, stands, isDoubled⟩

theorem structureError?_eq_none_iff :
    structureError? tokens = none ↔
      tokens ≠ [] ∧ Balanced (parentheses tokens) ∧ ¬ HasDoubled tokens := by
  rw [← parenthesisBalance_eq_zero_iff, ← doubledOperator?_eq_none_iff, structureError?]
  split
  · simp_all
  · split <;> simp_all

end Token

namespace Scan

/-- The errors that are recorded for a scanned line. -/
def errors (scan : Scan) : List Diagnostic :=
  scan.diagnostics.filter fun diagnostic => diagnostic.severity = .error

end Scan

open Token

/-- A line that can be read has no tokens to evaluate exactly if none were found, if its parentheses
are not balanced, or if two operators of which the second is no minus follow each other.  One error
is recorded then, for the first of these reasons and at the first place of it.  Otherwise the line
has all tokens that were found, and no error is recorded. -/
theorem tokens?_of_scan {line : String} {scanned : Scan} (isScan : scan line = .ok scanned) :
    (tokens? line = .ok none ↔
      scanned.tokens = [] ∨ ¬ Balanced (parentheses scanned.tokens) ∨
        HasDoubled scanned.tokens) ∧
    (tokens? line = .ok none →
      ∃ error, scanned.errors = [error] ∧ Refused scanned.tokens error.code error.span) ∧
    (tokens? line ≠ .ok none →
      tokens? line = .ok (some scanned.tokens) ∧ scanned.errors = []) := by
  have isTokens : tokens? line =
      .ok (if scanned.error?.isSome then none else some scanned.tokens) := by
    rw [tokens?, isScan]
    rfl
  have accepted : scanned.error? = none ↔ scanned.tokens ≠ [] ∧
      Balanced (parentheses scanned.tokens) ∧ ¬ HasDoubled scanned.tokens :=
    structureError?_eq_none_iff
  rw [isTokens, Scan.errors, Scan.errors_eq]
  cases refusal : scanned.error? with
  | none =>
      obtain ⟨notNil, balanced, notDoubled⟩ := accepted.mp refusal
      simp [notNil, balanced, notDoubled]
  | some error =>
      have notAccepted := mt accepted.mpr (by simp [refusal])
      have refused := refused_of_structureError? refusal
      rw [ne_eq, not_and_or, not_and_or, not_not, not_not] at notAccepted
      exact ⟨iff_of_true rfl notAccepted, fun _ => ⟨_, rfl, refused⟩, fun some => absurd rfl some⟩

/-- The second closing parenthesis closes none, although an open one follows it. -/
theorem tokens?_unmatched :
    ∃ scanned, scan "2 * (3)) + (" = .ok scanned ∧ tokens? "2 * (3)) + (" = .ok none ∧
      ∃ error, scanned.errors = [error] ∧ error.code = "L001" ∧ error.span = some ⟨7, 8⟩ ∧
        Refused scanned.tokens error.code error.span := by
  obtain ⟨scanned, isScan, known⟩ : ∃ scanned, scan "2 * (3)) + (" = .ok scanned ∧
      scanned.errors.map (fun error => (error.code, error.span)) = [("L001", some ⟨7, 8⟩)] :=
    exists_ok_of_toOption_map (by decide +kernel)
  obtain ⟨-, one, others⟩ := tokens?_of_scan isScan
  have isNone : tokens? "2 * (3)) + (" = .ok none := by
    by_contra notNone
    rw [(others notNone).2] at known
    exact absurd known (by simp)
  obtain ⟨error, isError, refused⟩ := one isNone
  rw [isError] at known
  obtain ⟨code, span⟩ := Prod.mk.inj (List.singleton_inj.mp known)
  exact ⟨scanned, isScan, isNone, error, isError, code, span, refused⟩

end NoteCalc
