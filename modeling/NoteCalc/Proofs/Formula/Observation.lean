import NoteCalc.Formula.Evaluation
import NoteCalc.Proofs.RelatedLists
import NoteCalc.Proofs.Success

/-!
# What the value of a line observes

Tokens observe their surroundings through names, references and the running total only.  Two series
of tokens of the same kinds, each in its own surroundings, have one value if the surroundings agree
on these, token by token; only the numbers of references may differ, as long as they lead to the
same results.  The failures on the way may differ: they name the tokens, and the similar names that
they list are taken from all bindings.  So the comparison is one of values, with every failure
counted alike.
-/

namespace NoteCalc

namespace Token

variable {token other : Token}

/-- Two tokens are alike if they are of one kind, or both are references. -/
inductive Alike (token other : Token) : Prop where
  | sameKind (same : token.kind = other.kind)
  | references {written rewritten : Nat} (isReference : token.kind = .reference written)
      (isReferenceToo : other.kind = .reference rewritten)

/-- What does not look at the numbers of references cannot tell alike tokens apart. -/
theorem Alike.congr {α : Type} (alike : token.Alike other) (classify : Token.Kind → α)
    (blind : ∀ written rewritten,
      classify (.reference written) = classify (.reference rewritten)) :
    classify token.kind = classify other.kind := by
  cases alike with
  | sameKind same => rw [same]
  | references isReference isReferenceToo =>
      rw [isReference, isReferenceToo]
      exact blind _ _

/-- Two tokens play one part in every form of a line. -/
structure SameClass (token other : Token) : Prop where
  operand : token.isOperand = other.isOperand
  operator : token.isOperator = other.isOperator
  conversion : token.isConversion = other.isConversion
  call : token.isCall = other.isCall
  isVariable : token.isVariable = other.isVariable
  name : token.variableName? = other.variableName?
  assign : token.isAssign = other.isAssign
  mathematical : token.isMathematical = other.isMathematical
  measure : token.measure? = other.measure?
  fraction : token.fraction? = other.fraction?
  isOf : token.isOf = other.isOf
  isTo : token.isTo = other.isTo

/-- A token of a kind, wherever it stands. -/
def ofKind (kind : Token.Kind) : Token :=
  ⟨kind, "", ⟨0, 0⟩⟩

theorem Alike.sameClass (alike : token.Alike other) : token.SameClass other where
  operand := alike.congr (fun kind => (ofKind kind).isOperand) fun _ _ => rfl
  operator := alike.congr (fun kind => (ofKind kind).isOperator) fun _ _ => rfl
  conversion := alike.congr (fun kind => (ofKind kind).isConversion) fun _ _ => rfl
  call := alike.congr (fun kind => (ofKind kind).isCall) fun _ _ => rfl
  isVariable := alike.congr (fun kind => (ofKind kind).isVariable) fun _ _ => rfl
  name := alike.congr (fun kind => (ofKind kind).variableName?) fun _ _ => rfl
  assign := alike.congr (fun kind => (ofKind kind).isAssign) fun _ _ => rfl
  mathematical := alike.congr (fun kind => (ofKind kind).isMathematical) fun _ _ => rfl
  measure := alike.congr (fun kind => (ofKind kind).measure?) fun _ _ => rfl
  fraction := alike.congr (fun kind => (ofKind kind).fraction?) fun _ _ => rfl
  isOf := alike.congr (fun kind => (ofKind kind).isOf) fun _ _ => rfl
  isTo := alike.congr (fun kind => (ofKind kind).isTo) fun _ _ => rfl

end Token

namespace Surroundings

/-- Two surroundings show the same to some tokens. -/
structure AgreeOn (tokens : List Token) (first second : Surroundings) : Prop where
  flavour : first.bindings.isSome = second.bindings.isSome
  bound : ∀ token ∈ tokens, ∀ name, token.variableName? = some name →
    first.binds name = second.binds name
  operands : ∀ token ∈ tokens, (first.operand token).toOption = (second.operand token).toOption
  totals : ∀ token ∈ tokens, token.kind = .call .sumAbove → first.total = second.total

/-- A token means in its surroundings what an alike token means in others. -/
structure AgreeAt (first second : Surroundings) (token other : Token) : Prop where
  alike : token.Alike other
  bound : ∀ name, token.variableName? = some name → first.binds name = second.binds name
  operand : SucceedAlike Eq (first.operand token) (second.operand other)
  total : token.kind = .call .sumAbove → first.total = second.total

/-- Tokens mean in their surroundings what other tokens mean in others, one by one. -/
structure AgreeAcross (tokens others : List Token) (first second : Surroundings) : Prop where
  flavour : first.bindings.isSome = second.bindings.isSome
  pairs : List.Forall₂ (AgreeAt first second) tokens others

variable {tokens others : List Token} {first second : Surroundings}

theorem AgreeOn.across (agree : AgreeOn tokens first second) :
    AgreeAcross tokens tokens first second where
  flavour := agree.flavour
  pairs := List.forall₂_same.mpr fun token member =>
    { alike := .sameKind rfl
      bound := agree.bound token member
      operand := .of_toOption_eq (agree.operands token member)
      total := agree.totals token member }

namespace AgreeAcross

theorem alike (agree : AgreeAcross tokens others first second) :
    List.Forall₂ Token.Alike tokens others :=
  agree.pairs.imp fun _ _ pair => pair.alike

theorem take (agree : AgreeAcross tokens others first second) (count : Nat) :
    AgreeAcross (tokens.take count) (others.take count) first second :=
  ⟨agree.flavour, List.forall₂_take count agree.pairs⟩

theorem isNone_eq (agree : AgreeAcross tokens others first second) :
    first.bindings.isNone = second.bindings.isNone := by
  rw [← Option.not_isSome, ← Option.not_isSome, agree.flavour]

end AgreeAcross

end Surroundings

open Surroundings (AgreeOn AgreeAt AgreeAcross)

/-! ## The operator stack -/

namespace OperatorStack

variable {first second : Surroundings} {tokens others : List Token} {token other : Token}

/-- What waits on a stack does the same as what waits on another one.  The tokens that failures
name may differ. -/
inductive WaitsAlike (first second : Surroundings) : Waiting → Waiting → Prop where
  | binary (operator : Operator) (token other : Token) :
      WaitsAlike first second (.binary operator token) (.binary operator other)
  | negation (token other : Token) : WaitsAlike first second (.negation token) (.negation other)
  | parenthesis (token other : Token) :
      WaitsAlike first second (.parenthesis token) (.parenthesis other)
  | call {function : NamedFunction} (totals : function = .sumAbove → first.total = second.total)
      (token other : Token) : WaitsAlike first second (.call function token) (.call function other)

/-- Two stacks hold the same values, and what waits on them does the same. -/
structure Alike (first second : Surroundings) (stack other : OperatorStack) : Prop where
  values : stack.values = other.values
  waiting : List.Forall₂ (WaitsAlike first second) stack.waiting other.waiting
  previous : isBeforeOperand stack.previous = isBeforeOperand other.previous

theorem apply_alike {top topToo : Waiting} (alike : WaitsAlike first second top topToo)
    (values : List (Quantity Float)) :
    SucceedAlike Eq (top.apply values) (topToo.apply values) := by
  cases alike with
  | negation =>
      cases values with
      | nil => exact .fail _ _
      | cons => exact .succeed rfl
  | parenthesis | call => exact .fail _ _
  | binary operator =>
      match values with
      | [] | [_] => exact .fail _ _
      | right :: left :: values =>
          simp only [Waiting.apply]
          cases operator.apply left right with
          | ok => exact .succeed rfl
          | error => exact .fail _ _

theorem settle_alike {keeps : Waiting → Bool} {waiting waitingToo : List Waiting}
    (same : ∀ top topToo, WaitsAlike first second top topToo → keeps top = keeps topToo)
    (alike : List.Forall₂ (WaitsAlike first second) waiting waitingToo)
    (values : List (Quantity Float)) :
    SucceedAlike
      (fun settled settledToo =>
        List.Forall₂ (WaitsAlike first second) settled.1 settledToo.1 ∧ settled.2 = settledToo.2)
      (settle keeps waiting values) (settle keeps waitingToo values) := by
  induction alike generalizing values with
  | nil => exact .succeed ⟨.nil, rfl⟩
  | cons top rest induction =>
      unfold settle
      rw [same _ _ top]
      split
      · exact .succeed ⟨.cons top rest, rfl⟩
      · refine (apply_alike top values).bind ?_
        rintro left _ rfl
        exact induction left

theorem outlasts_alike (operator : Operator) (top topToo : Waiting)
    (alike : WaitsAlike first second top topToo) :
    Waiting.outlasts operator top = Waiting.outlasts operator topToo := by
  cases alike <;> rfl

theorem isParenthesis_alike (top topToo : Waiting) (alike : WaitsAlike first second top topToo) :
    top.isParenthesis = topToo.isParenthesis := by
  cases alike <;> rfl

theorem isBeforeOperand_alike (alike : token.Alike other) :
    isBeforeOperand (some token) = isBeforeOperand (some other) :=
  alike.congr (fun kind => isBeforeOperand (some (.ofKind kind))) fun _ _ => rfl

theorem call_alike {function : NamedFunction}
    (totals : function = .sumAbove → first.total = second.total)
    (values : List (Quantity Float)) :
    SucceedAlike Eq (call first function values) (call second function values) := by
  cases function with
  | sqrt => cases values <;> exact .refl _
  | sumAbove =>
      rw [call, call, totals rfl]
      exact .refl _

theorem close_alike {stack stackToo : OperatorStack} (alike : Alike first second stack stackToo)
    (tokens : token.Alike other) :
    SucceedAlike (Alike first second) (close first token stack) (close second other stackToo) := by
  have previous := isBeforeOperand_alike tokens
  unfold close
  rw [alike.values]
  refine (settle_alike isParenthesis_alike alike.waiting stackToo.values).bind ?_
  rintro ⟨waiting, values⟩ ⟨waitingToo, _⟩ ⟨pairs, rfl⟩
  cases pairs with
  | nil => exact .fail _ _
  | cons opening rest =>
      cases rest with
      | nil => exact .succeed ⟨rfl, .nil, previous⟩
      | cons before rest =>
          cases before with
          | call totals =>
              refine (call_alike totals values).bind ?_
              rintro left _ rfl
              exact .succeed ⟨rfl, rest, previous⟩
          | binary | negation | parenthesis =>
              exact .succeed ⟨rfl, .cons (by constructor) rest, previous⟩

theorem operate_alike {stack stackToo : OperatorStack} (operator : Operator)
    (alike : Alike first second stack stackToo) (tokens : token.Alike other) :
    SucceedAlike (Alike first second) (operate operator token stack)
      (operate operator other stackToo) := by
  have previous := isBeforeOperand_alike tokens
  unfold operate
  rw [alike.previous, alike.values]
  split
  · exact .succeed ⟨rfl, .cons (.negation _ _) alike.waiting, previous⟩
  · refine (settle_alike (outlasts_alike operator) alike.waiting stackToo.values).bind ?_
    rintro ⟨waiting, values⟩ ⟨waitingToo, _⟩ ⟨pairs, rfl⟩
    exact .succeed ⟨rfl, .cons (.binary operator _ _) pairs, previous⟩

/-- One token does to a stack what an alike token does to an alike stack. -/
theorem step_alike {stack stackToo : OperatorStack}
    (flavour : first.bindings.isSome = second.bindings.isSome)
    (alike : Alike first second stack stackToo) (agree : AgreeAt first second token other) :
    SucceedAlike (Alike first second) (step first stack token) (step second stackToo other) := by
  have previous := isBeforeOperand_alike agree.alike
  have operand : SucceedAlike (Alike first second)
      (first.operand token >>= fun value =>
        .ok { stack with values := value :: stack.values, previous := some token })
      (second.operand other >>= fun value =>
        .ok { stackToo with values := value :: stackToo.values, previous := some other }) := by
    refine agree.operand.bind ?_
    rintro value _ rfl
    exact .succeed ⟨congrArg (value :: ·) alike.values, alike.waiting, previous⟩
  unfold step
  cases agree.alike with
  | references isReference isReferenceToo =>
      rw [isReference, isReferenceToo]
      exact operand
  | sameKind same =>
      rw [← same]
      cases kind : token.kind with
      | number | amount | reference => exact operand
      | identifier name =>
          simp only [flavour]
          split
          · exact operand
          · exact .succeed alike
      | operator operator => exact operate_alike operator alike agree.alike
      | closeParenthesis => exact close_alike alike agree.alike
      | openParenthesis =>
          exact .succeed ⟨alike.values, .cons (.parenthesis _ _) alike.waiting, previous⟩
      | call function =>
          refine .succeed ⟨alike.values, .cons (.call ?_ _ _) alike.waiting, previous⟩
          rintro rfl
          exact agree.total kind
      | _ => exact .succeed alike

/-- A series of tokens has one value in both surroundings. -/
theorem evaluate_alike (agree : AgreeAcross tokens others first second) :
    SucceedAlike Eq (evaluate first tokens) (evaluate second others) := by
  have start : Alike first second {} {} := ⟨rfl, .nil, rfl⟩
  unfold evaluate
  refine (SucceedAlike.foldlM agree.pairs ?_ start).bind ?_
  · intro stack stackToo token other alike pair
    exact step_alike agree.flavour alike pair
  · intro stack stackToo alike
    unfold finish
    rw [alike.values]
    refine (settle_alike (fun _ _ _ => rfl) alike.waiting stackToo.values).bind ?_
    rintro ⟨waiting, values⟩ ⟨waitingToo, _⟩ ⟨-, rfl⟩
    match values with
    | [value] => exact .refl _
    | [] | _ :: _ :: _ => exact .fail _ _

end OperatorStack

/-! ## Candidates -/

namespace Formula

variable {first second : Surroundings} {tokens others : List Token}

theorem looksEvaluable_alike (alike : List.Forall₂ Token.Alike tokens others) :
    looksEvaluable tokens = looksEvaluable others := by
  have calls : tokens.any Token.isCall = others.any Token.isCall :=
    RelatedLists.any_eq alike fun _ _ pair => pair.sameClass.call
  have operators : tokens.any Token.isOperator = others.any Token.isOperator :=
    RelatedLists.any_eq alike fun _ _ pair => pair.sameClass.operator
  have operands : tokens.any Token.isOperand = others.any Token.isOperand :=
    RelatedLists.any_eq alike fun _ _ pair => pair.sameClass.operand
  cases alike with
  | nil => rfl
  | cons opening rest =>
      cases rest with
      | nil => exact opening.sameClass.operand
      | cons middle rest =>
          cases rest with
          | nil => simp only [looksEvaluable, calls, operators, operands]
          | cons last rest =>
              cases rest with
              | nil =>
                  simp only [looksEvaluable, calls, operators, operands, isConversion, isShare,
                    opening.sameClass.operand, opening.sameClass.fraction,
                    middle.sameClass.conversion, middle.sameClass.isOf, last.sameClass.operand,
                    last.sameClass.measure, last.sameClass.isVariable]
              | cons => simp only [looksEvaluable, calls, operators, operands]

/-- The conversion at the end of alike tokens is the same, and what stands before it is alike. -/
theorem splitConversion_across (agree : AgreeAcross tokens others first second) :
    AgreeAcross (splitConversion tokens).1 (splitConversion others).1 first second ∧
      (splitConversion tokens).2 = (splitConversion others).2 := by
  have cut (token other : Token) (pair : AgreeAt first second token other) :
      (!token.isConversion) = (!other.isConversion) := by
    rw [pair.alike.sameClass.conversion]
  have before := RelatedLists.takeWhile agree.pairs cut
  have targets : (tokens.dropWhile fun token => !token.isConversion).tail.findSome?
        Token.measure? =
      (others.dropWhile fun token => !token.isConversion).tail.findSome? Token.measure? := by
    rw [← List.drop_one, ← List.drop_one]
    exact RelatedLists.findSome?_eq (List.forall₂_drop 1 (RelatedLists.dropWhile agree.pairs cut))
      fun _ _ pair => pair.alike.sameClass.measure
  unfold splitConversion
  simp only [targets]
  split
  · exact ⟨⟨agree.flavour, before⟩, rfl⟩
  · exact ⟨agree, rfl⟩

theorem expression_alike (agree : AgreeAcross tokens others first second) :
    SucceedAlike Eq (expression first tokens) (expression second others) := by
  obtain ⟨before, target⟩ := splitConversion_across agree
  unfold expression
  simp only [target]
  refine (OperatorStack.evaluate_alike before).bind ?_
  rintro value _ rfl
  exact .refl _

theorem value_alike_of_three {opening openingToo middle middleToo last lastToo : Token}
    (openings : AgreeAt first second opening openingToo)
    (middles : AgreeAt first second middle middleToo) (lasts : AgreeAt first second last lastToo)
    (general : SucceedAlike Eq (expression first [opening, middle, last])
      (expression second [openingToo, middleToo, lastToo])) :
    SucceedAlike Eq (value first [opening, middle, last])
      (value second [openingToo, middleToo, lastToo]) := by
  unfold value
  simp only [openings.alike.sameClass.fraction, middles.alike.sameClass.isTo,
    middles.alike.sameClass.isOf, lasts.alike.sameClass.measure]
  cases openings.alike with
  | sameKind same =>
      rw [same]
      split
      · exact .refl _
      · refine lasts.operand.bind ?_
        rintro base _ rfl
        exact .refl _
      · exact general
  | references isReference isReferenceToo =>
      -- A reference is no percentage, so neither of the two special forms applies.
      have noFraction : openingToo.fraction? = none := by
        rw [Token.fraction?, isReferenceToo]
      rw [isReference, isReferenceToo, noFraction]
      exact general

/-- A candidate has one value in both surroundings. -/
theorem value_alike (agree : AgreeAcross tokens others first second) :
    SucceedAlike Eq (value first tokens) (value second others) := by
  have general := expression_alike agree
  obtain ⟨flavour, pairs⟩ := agree
  cases pairs with
  | nil => exact general
  | cons opening rest =>
      cases rest with
      | nil => exact general
      | cons middle rest =>
          cases rest with
          | nil => exact general
          | cons last rest =>
              cases rest with
              | cons => exact general
              | nil => exact value_alike_of_three opening middle last general

/-! ## The search -/

theorem namesBound_alike (agree : AgreeAcross tokens others first second) :
    namesBound first tokens = namesBound second others := by
  have bound (token other : Token) (pair : AgreeAt first second token other) :
      (!token.variableName?.all first.binds) = (!other.variableName?.all second.binds) := by
    rw [← pair.alike.sameClass.name]
    cases named : token.variableName? with
    | none => rfl
    | some name => exact congrArg not (pair.bound name named)
  unfold namesBound
  rw [agree.isNone_eq, List.all_eq_not_any_not, List.all_eq_not_any_not,
    RelatedLists.any_eq agree.pairs bound]

theorem isFinal_alike (agree : AgreeAcross tokens others first second) :
    isFinal first tokens = isFinal second others := by
  have conversion (token other : Token) (alike : token.Alike other) :
      token.isConversion = other.isConversion := alike.sameClass.conversion
  unfold isFinal
  rw [agree.isNone_eq, RelatedLists.any_eq agree.alike conversion,
    RelatedLists.any_eq agree.alike fun _ _ pair => pair.sameClass.operator,
    RelatedLists.getLast?_any_eq (RelatedLists.dropLast agree.alike) conversion]

variable {line lineToo : List Token}

theorem searchLeading_alike (lines : AgreeAcross line lineToo first second)
    (agree : AgreeAcross tokens others first second) (length : Nat) :
    (searchLeading first line tokens length).value =
      (searchLeading second lineToo others length).value := by
  induction length with
  | zero => rfl
  | succ length induction =>
      have candidate := agree.take (length + 1)
      have values := value_alike candidate
      unfold searchLeading
      simp only [looksEvaluable_alike candidate.alike, namesBound_alike candidate,
        isFinal_alike lines, candidate.pairs.length_eq, lines.pairs.length_eq]
      split
      · generalize value first (tokens.take (length + 1)) = inFirst at values
        generalize value second (others.take (length + 1)) = inSecond at values
        cases values with
        | succeed same => simp only [same]
        | fail =>
            simp only
            split
            · rfl
            · exact induction
      · exact induction

theorem search_alike (lines : AgreeAcross line lineToo first second)
    (agree : AgreeAcross tokens others first second) :
    (search first line tokens).value = (search second lineToo others).value := by
  obtain ⟨flavour, pairs⟩ := agree
  induction pairs with
  | nil => rfl
  | @cons token other tokens others pair rest induction =>
      have leading := searchLeading_alike lines ⟨flavour, .cons pair rest⟩ (tokens.length + 1)
      unfold search
      simp only [rest.length_eq] at leading ⊢
      simp only [leading]
      split
      · rfl
      · exact induction

theorem unboundBesideMath?_alike (agree : AgreeAcross tokens others first second)
    {previous previousToo : Option Token}
    (before : previous.any Token.isMathematical = previousToo.any Token.isMathematical) :
    (unboundBesideMath? first previous tokens).isSome =
      (unboundBesideMath? second previousToo others).isSome := by
  obtain ⟨flavour, pairs⟩ := agree
  induction pairs generalizing previous previousToo with
  | nil => rfl
  | @cons token other tokens others pair rest induction =>
      have mathematical (token other : Token) (pair : AgreeAt first second token other) :
          token.isMathematical = other.isMathematical := pair.alike.sameClass.mathematical
      have later := @induction (some token) (some other) (mathematical _ _ pair)
      have after := RelatedLists.head?_any_eq rest mathematical
      unfold unboundBesideMath?
      simp only [before, after, ← pair.alike.sameClass.name]
      cases named : token.variableName? with
      | none => exact later
      | some name =>
          simp only [pair.bound name named]
          split
          · rfl
          · exact later

theorem find_alike (agree : AgreeAcross tokens others first second) :
    (find first tokens).value = (find second others).value := by
  have unbound := @unboundBesideMath?_alike _ _ _ _ agree none none rfl
  have isEmpty : tokens.isEmpty = others.isEmpty := by
    cases agree.pairs <;> rfl
  have searched := search_alike agree agree
  unfold find
  simp only [agree.flavour, isEmpty]
  split
  · rfl
  · cases second.bindings.isSome with
    | false => exact searched
    | true =>
        simp only [if_true]
        cases inFirst : unboundBesideMath? first none tokens with
        | none =>
            have inSecond : unboundBesideMath? second none others = none := by
              simpa [inFirst] using unbound
            rw [inSecond]
            exact searched
        | some found =>
            rw [inFirst] at unbound
            obtain ⟨foundToo, inSecond⟩ := Option.isSome_iff_exists.mp unbound.symm
            rw [inSecond]

theorem found_alike (agree : AgreeAcross tokens others first second) :
    (found first tokens).value = (found second others).value := by
  unfold found
  simp only [find_alike agree]

/-! ## Lines -/

/-- Alike tokens have the form of an assignment together: to one name, with alike right sides. -/
inductive AssignsAlike (first second : Surroundings) :
    Option (String × List Token) → Option (String × List Token) → Prop where
  | none : AssignsAlike first second none none
  | some (name : String) {right rightToo : List Token}
      (rights : AgreeAcross right rightToo first second) :
      AssignsAlike first second (some (name, right)) (some (name, rightToo))

theorem assignment?_alike (agree : AgreeAcross tokens others first second) :
    AssignsAlike first second (assignment? tokens) (assignment? others) := by
  obtain ⟨flavour, pairs⟩ := agree
  cases pairs with
  | nil => exact .none
  | cons target rest =>
      cases rest with
      | nil => exact .none
      | cons sign rest =>
          cases rest with
          | nil => exact .none
          | @cons token other _ _ opening rest =>
              unfold assignment?
              simp only [sign.alike.sameClass.assign, target.alike.sameClass.name]
              split
              · cases Token.variableName? _ with
                | none => exact .none
                | some name => exact .some name ⟨flavour, .cons opening rest⟩
              · exact .none

/-- Tokens show in their surroundings what tokens show in others if they mean the same there. -/
theorem evaluate_alike (agree : AgreeAcross tokens others first second) :
    (evaluate first tokens).value = (evaluate second others).value := by
  have searched := found_alike agree
  have assigns := assignment?_alike agree
  unfold evaluate
  generalize assignment? tokens = inFirst at assigns
  generalize assignment? others = inSecond at assigns
  cases assigns with
  | none => exact searched
  | @some name right rightToo rights =>
      have values := value_alike rights
      simp only
      generalize value first right = ofFirst at values
      generalize value second rightToo = ofSecond at values
      cases values with
      | succeed same => rw [same]
      | fail => exact searched

/-- Tokens show the same in two surroundings that agree on all of them. -/
theorem evaluate_congr (agree : AgreeOn tokens first second) :
    (evaluate first tokens).value = (evaluate second tokens).value :=
  evaluate_alike agree.across

/-- What a search finds is never an assignment. -/
theorem found_assignment {shown : LineValue} (searched : (found first tokens).value = some shown) :
    shown.assignment = none := by
  unfold found at searched
  obtain ⟨value, -, rfl⟩ := Option.map_eq_some_iff.mp searched
  rfl

/-- Tokens that assign show the same in two surroundings that agree on the right side. -/
theorem evaluate_congr_of_assignment {shown : LineValue} {name : String} {right : List Token}
    (assigns : assignment? tokens = some (name, right)) (agree : AgreeOn right first second)
    (inFirst : (evaluate first tokens).value = some shown)
    (assigned : shown.assignment.isSome = true) :
    (evaluate second tokens).value = some shown := by
  have values := value_alike agree.across
  unfold evaluate at inFirst ⊢
  rw [assigns] at inFirst ⊢
  simp only at inFirst ⊢
  generalize value first right = ofFirst at values inFirst
  generalize value second right = ofSecond at values
  cases values with
  | succeed same => exact same ▸ inFirst
  | fail =>
      rw [found_assignment inFirst] at assigned
      exact absurd assigned (by simp)

end Formula

end NoteCalc
