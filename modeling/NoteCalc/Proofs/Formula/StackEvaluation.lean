import NoteCalc.Proofs.Formula.InfixGrammar
import NoteCalc.Proofs.Success

/-!
# Evaluating with a stack is evaluating the tree

The tokens of a tree, taken in from any stack that is ready for them, leave its value pending: some
operators may still wait, but all of them bind at least as tightly as the category of the tree
allows, and once an arriving operator, a closing parenthesis or the end of the formula settles them
the value of the tree is on top of the values that were there before.  Failures are those of the
tree, because operands and operators are evaluated in the same order.
-/

namespace NoteCalc

namespace InfixCategory

/-- The operators that wait after a tree of this category bind at least this tightly. -/
def floor : InfixCategory → Nat
  | .expression => 1
  | .term => 2
  | .factor | .power | .exponent => 3
  | .atom => 5

/-- The operator that waits before a tree of this category binds less tightly than this. -/
def ceiling : InfixCategory → Nat
  | .expression => 1
  | .term => 2
  | .factor | .power | .exponent | .atom => 5

/-- Whatever may wait after a tree of this category does not keep waiting. -/
def Yields (category : InfixCategory) (keeps : Waiting → Bool) : Prop :=
  ∀ waiting : Waiting, category.floor ≤ waiting.precedence → keeps waiting = false

theorem Yields.mono {lower upper : InfixCategory} {keeps : Waiting → Bool}
    (yields : lower.Yields keeps) (below : lower.floor ≤ upper.floor) : upper.Yields keeps :=
  fun waiting atLeast => yields waiting (Nat.le_trans below atLeast)

end InfixCategory

namespace Waiting

theorem outlasts_of_lt {operator : Operator} {waiting : Waiting}
    (looser : waiting.precedence < operator.precedence) : waiting.outlasts operator = true := by
  unfold outlasts
  split
  · simpa using Nat.le_of_lt looser
  · simpa using looser

theorem precedence_le (waiting : Waiting) : waiting.precedence ≤ Operator.power.precedence := by
  cases waiting with
  | binary operator token => cases operator <;> simp [precedence, Operator.precedence]
  | _ => simp [precedence, Operator.precedence]

theorem outlasts_power (waiting : Waiting) : waiting.outlasts .power = true := by
  simpa [outlasts] using waiting.precedence_le

theorem outlasts_of_le {operator : Operator} {waiting : Waiting} (leftwards : operator ≠ .power)
    (tighter : operator.precedence ≤ waiting.precedence) :
    waiting.outlasts operator = false := by
  unfold outlasts
  split
  · exact absurd rfl leftwards
  · simpa using tighter

end Waiting

namespace OperatorStack

open InfixTree (squareRoot)

variable {surroundings : Surroundings} {stack : OperatorStack} {category : InfixCategory}

/-- Nothing is applied where the topmost operator keeps waiting. -/
theorem settle_of_keeps {keeps : Waiting → Bool} {waiting : List Waiting}
    (stays : ∀ top ∈ waiting.head?, keeps top = true) (values : List (Quantity Float)) :
    settle keeps waiting values = .ok (waiting, values) := by
  cases waiting with
  | nil => rfl
  | cons top waiting =>
      rw [settle]
      exact if_pos (stays top rfl)

theorem settle_binary {keeps : Waiting → Bool} {operator : Operator} {sign : Token}
    (goes : keeps (.binary operator sign) = false) (waiting : List Waiting)
    (left right : Quantity Float) (values : List (Quantity Float)) :
    settle keeps (.binary operator sign :: waiting) (right :: left :: values) =
      (operator.apply left right).mapError .unit >>= fun value =>
        settle keeps waiting (value :: values) := by
  rw [settle, if_neg (by simp [goes])]
  cases applied : operator.apply left right <;>
    simp [Waiting.apply, applied, Except.mapError, bind, Except.bind]

theorem settle_negation {keeps : Waiting → Bool} {sign : Token}
    (goes : keeps (.negation sign) = false) (waiting : List Waiting)
    (value : Quantity Float) (values : List (Quantity Float)) :
    settle keeps (.negation sign :: waiting) (value :: values) =
      settle keeps waiting (value.negate :: values) := by
  rw [settle, if_neg (by simp [goes])]
  rfl

/-- A stack that can take in a tree of a category: an operand may follow, and whatever waits on top
is looser than the operators of the category and is no function. -/
structure Ready (category : InfixCategory) (stack : OperatorStack) : Prop where
  beforeOperand : isBeforeOperand stack.previous = true
  looser : ∀ top ∈ stack.waiting.head?, top.precedence < category.ceiling
  uncalled : ∀ function token, stack.waiting.head? ≠ some (.call function token)

theorem Ready.mono {lower upper : InfixCategory} (ready : Ready lower stack)
    (below : lower.ceiling ≤ upper.ceiling) : Ready upper stack where
  beforeOperand := ready.beforeOperand
  looser := fun top isTop => Nat.lt_of_lt_of_le (ready.looser top isTop) below
  uncalled := ready.uncalled

/-- What taking in a tree from a stack comes to: a failure of the tree, or a stack on which its
value is pending. -/
inductive Leaves (category : InfixCategory) (stack : OperatorStack)
    (value : Except EvaluationError (Quantity Float)) :
    Except EvaluationError OperatorStack → Prop where
  | failed {error : EvaluationError} (fails : value = .error error) :
      Leaves category stack value (.error error)
  | pending {next : OperatorStack} (afterOperand : isBeforeOperand next.previous = false)
      (settles : ∀ keeps, category.Yields keeps →
        settle keeps next.waiting next.values =
          value >>= fun result => settle keeps stack.waiting (result :: stack.values)) :
      Leaves category stack value (.ok next)

theorem Leaves.mono {lower upper : InfixCategory} {value : Except EvaluationError (Quantity Float)}
    {run : Except EvaluationError OperatorStack} (leaves : Leaves upper stack value run)
    (below : lower.floor ≤ upper.floor) : Leaves lower stack value run := by
  cases leaves with
  | failed fails => exact .failed fails
  | pending afterOperand settles =>
      exact .pending afterOperand fun keeps yields => settles keeps (yields.mono below)

/-! ## Single tokens -/

theorem step_binary {sign : Token} {operator : Operator}
    (isSign : sign.kind = .operator operator)
    (takesTwo : ¬(operator = .minus ∧ isBeforeOperand stack.previous = true)) :
    step surroundings stack sign =
      settle (Waiting.outlasts operator) stack.waiting stack.values >>= fun settled =>
        .ok ⟨settled.2, .binary operator sign :: settled.1, some sign⟩ := by
  unfold step operate
  simp only [isSign]
  rw [if_neg takesTwo]
  rfl

theorem step_operator {sign : Token} {operator : Operator}
    (isSign : sign.kind = .operator operator)
    (afterOperand : isBeforeOperand stack.previous = false) :
    step surroundings stack sign =
      settle (Waiting.outlasts operator) stack.waiting stack.values >>= fun settled =>
        .ok ⟨settled.2, .binary operator sign :: settled.1, some sign⟩ :=
  step_binary isSign (by simp [afterOperand])

theorem step_minus {sign : Token} (isSign : sign.kind = .operator .minus)
    (beforeOperand : isBeforeOperand stack.previous = true) :
    step surroundings stack sign =
      .ok { stack with waiting := .negation sign :: stack.waiting, previous := some sign } := by
  unfold step operate
  simp only [isSign, beforeOperand]
  rfl

theorem step_opening {opening : Token} (isOpening : opening.kind = .openParenthesis) :
    step surroundings stack opening =
      .ok { stack with
        waiting := .parenthesis opening :: stack.waiting, previous := some opening } := by
  unfold step
  rw [isOpening]

theorem step_caller {caller : Token} {function : NamedFunction}
    (isCaller : caller.kind = .call function) :
    step surroundings stack caller =
      .ok { stack with
        waiting := .call function caller :: stack.waiting, previous := some caller } := by
  unfold step
  rw [isCaller]

theorem step_closing {closing : Token} (isClosing : closing.kind = .closeParenthesis) :
    step surroundings stack closing = stack.close surroundings closing := by
  unfold step
  rw [isClosing]

theorem step_atom {token : Token} (isAtom : token.isAtom surroundings.bindings.isSome = true) :
    step surroundings stack token =
      surroundings.operand token >>= fun value =>
        .ok { stack with values := value :: stack.values, previous := some token } := by
  unfold Token.isAtom at isAtom
  unfold step
  cases kind : token.kind with
  | identifier name =>
      have names : surroundings.bindings.isSome = true := by simpa [kind] using isAtom
      simp only [names, if_true]
      rfl
  | number | amount | reference => rfl
  | _ => simp [kind] at isAtom

theorem isBeforeOperand_atom {token : Token} {names : Bool} (isAtom : token.isAtom names = true) :
    isBeforeOperand (some token) = false := by
  unfold Token.isAtom at isAtom
  unfold isBeforeOperand
  cases kind : token.kind <;> simp_all

/-! ## Composing trees -/

theorem leaves_operand {token : Token}
    (isAtom : token.isAtom surroundings.bindings.isSome = true) :
    Leaves .atom stack (surroundings.operand token)
      ([token].foldlM (step surroundings) stack) := by
  rw [List.foldlM_cons, step_atom isAtom]
  cases operand : surroundings.operand token with
  | error error => exact .failed rfl
  | ok value => exact .pending (isBeforeOperand_atom isAtom) fun keeps _ => rfl

/-- A minus where an operand is expected negates the factor or exponent that follows it. -/
theorem leaves_negation {tokens : List Token} {sign : Token}
    {value : Except EvaluationError (Quantity Float)} (isSign : sign.kind = .operator .minus)
    (ready : Ready category stack) (low : category.floor ≤ 3) (high : 3 < category.ceiling)
    (operand : ∀ next, Ready category next →
      Leaves category next value (tokens.foldlM (step surroundings) next)) :
    Leaves category stack (value.map Quantity.negate)
      ((sign :: tokens).foldlM (step surroundings) stack) := by
  rw [List.foldlM_cons, step_minus isSign ready.beforeOperand]
  have pushed : Ready category
      { stack with waiting := .negation sign :: stack.waiting, previous := some sign } := by
    refine ⟨by simp [isBeforeOperand, isSign], ?_, by simp⟩
    intro top isTop
    obtain rfl := Option.some.inj isTop
    exact high
  have leaves := operand _ pushed
  simp only [bind, Except.bind]
  generalize tokens.foldlM (step surroundings) _ = run at leaves ⊢
  cases leaves with
  | failed fails =>
      rw [fails]
      exact .failed rfl
  | pending afterOperand settles =>
      refine .pending afterOperand ?_
      intro keeps yields
      rw [settles keeps yields]
      cases value with
      | error error => rfl
      | ok result =>
          exact settle_negation (yields (.negation sign) low) stack.waiting result stack.values

/-- An operator between two trees joins them when it settles what waits after the left one and
leaves what waits before it. -/
theorem leaves_binary {leftCategory rightCategory : InfixCategory} {left right : List Token}
    {sign : Token} {operator : Operator}
    {leftValue rightValue : Except EvaluationError (Quantity Float)}
    (isSign : sign.kind = .operator operator)
    (isLeft : Leaves leftCategory stack leftValue (left.foldlM (step surroundings) stack))
    (goes : leftCategory.Yields (Waiting.outlasts operator))
    (stays : ∀ top ∈ stack.waiting.head?, Waiting.outlasts operator top = true)
    (isRight : ∀ next, Ready rightCategory next →
      Leaves rightCategory next rightValue (right.foldlM (step surroundings) next))
    (high : operator.precedence < rightCategory.ceiling)
    (low : category.floor ≤ operator.precedence)
    (below : category.floor ≤ rightCategory.floor) :
    Leaves category stack
      (leftValue >>= fun left => rightValue >>= fun right =>
        (operator.apply left right).mapError .unit)
      ((left ++ sign :: right).foldlM (step surroundings) stack) := by
  rw [List.foldlM_append]
  generalize left.foldlM (step surroundings) stack = run at isLeft
  cases isLeft with
  | failed fails =>
      rw [fails]
      exact .failed rfl
  | @pending next afterLeft settlesLeft =>
      have arrived : step surroundings next sign = leftValue >>= fun value =>
          .ok ⟨value :: stack.values, .binary operator sign :: stack.waiting, some sign⟩ := by
        rw [step_operator isSign afterLeft, settlesLeft _ goes]
        cases leftValue with
        | error error => rfl
        | ok value =>
            simp only [bind, Except.bind]
            rw [settle_of_keeps stays]
      simp only [bind, Except.bind]
      rw [List.foldlM_cons, arrived]
      cases leftValue with
      | error error => exact .failed rfl
      | ok leftResult =>
          have pushed : Ready rightCategory
              ⟨leftResult :: stack.values, .binary operator sign :: stack.waiting, some sign⟩ := by
            refine ⟨by simp [isBeforeOperand, isSign], ?_, by simp⟩
            intro top isTop
            obtain rfl := Option.some.inj isTop
            exact high
          have leaves := isRight _ pushed
          simp only [bind, Except.bind]
          generalize right.foldlM (step surroundings) _ = run at leaves ⊢
          cases leaves with
          | failed fails =>
              rw [fails]
              exact .failed rfl
          | pending afterRight settlesRight =>
              refine .pending afterRight ?_
              intro keeps yields
              rw [settlesRight keeps (yields.mono below)]
              cases rightValue with
              | error error => rfl
              | ok rightResult =>
                  exact settle_binary (yields (.binary operator sign) low) stack.waiting
                    leftResult rightResult stack.values

theorem yields_isParenthesis : InfixCategory.expression.Yields Waiting.isParenthesis := by
  intro waiting atLeast
  cases waiting with
  | parenthesis token => exact absurd atLeast (Nat.not_succ_le_zero 0)
  | _ => rfl

theorem Ready.opened (opening : Token) (waiting : List Waiting) (values : List (Quantity Float))
    (isOpening : opening.kind = .openParenthesis) :
    Ready .expression ⟨values, .parenthesis opening :: waiting, some opening⟩ where
  beforeOperand := by simp [isBeforeOperand, isOpening]
  looser := by
    intro top isTop
    obtain rfl := Option.some.inj isTop
    exact Nat.zero_lt_one
  uncalled := by simp

theorem close_congr_settled {closing : Token} {first second : OperatorStack}
    (same : settle Waiting.isParenthesis first.waiting first.values =
      settle Waiting.isParenthesis second.waiting second.values) :
    close surroundings closing first = close surroundings closing second := by
  unfold close
  rw [same]

theorem close_parenthesis {opening closing : Token} {waiting : List Waiting}
    {values : List (Quantity Float)} {previous : Option Token}
    (uncalled : ∀ function token, waiting.head? ≠ some (.call function token)) :
    close surroundings closing ⟨values, .parenthesis opening :: waiting, previous⟩ =
      .ok ⟨values, waiting, some closing⟩ := by
  unfold close
  rw [settle_of_keeps (by simp [Waiting.isParenthesis])]
  cases waiting with
  | nil => rfl
  | cons top waiting =>
      cases top with
      | call function token => exact absurd rfl (uncalled function token)
      | _ => rfl

theorem close_call {caller opening closing : Token} {function : NamedFunction}
    {waiting : List Waiting} {values : List (Quantity Float)} {previous : Option Token} :
    close surroundings closing
        ⟨values, .parenthesis opening :: .call function caller :: waiting, previous⟩ =
      call surroundings function values >>= fun values => .ok ⟨values, waiting, some closing⟩ := by
  unfold close
  rw [settle_of_keeps (by simp [Waiting.isParenthesis])]
  rfl

/-- A parenthesis closes on the value of the expression in it. -/
theorem foldlM_parenthesized {tokens : List Token} {opening closing : Token}
    {value : Except EvaluationError (Quantity Float)} (waiting : List Waiting)
    (values : List (Quantity Float))
    (isOpening : opening.kind = .openParenthesis) (isClosing : closing.kind = .closeParenthesis)
    (inside : ∀ next, Ready .expression next →
      Leaves .expression next value (tokens.foldlM (step surroundings) next)) :
    (tokens ++ [closing]).foldlM (step surroundings)
        ⟨values, .parenthesis opening :: waiting, some opening⟩ =
      value >>= fun result =>
        close surroundings closing
          ⟨result :: values, .parenthesis opening :: waiting, some opening⟩ := by
  have leaves := inside _ (Ready.opened opening waiting values isOpening)
  rw [List.foldlM_append]
  generalize tokens.foldlM (step surroundings) _ = run at leaves ⊢
  cases leaves with
  | failed fails =>
      rw [fails]
      rfl
  | @pending next afterOperand settles =>
      have closed : [closing].foldlM (step surroundings) next =
          close surroundings closing next := by
        rw [List.foldlM_cons, step_closing isClosing]
        simp
      have settled := settles _ yields_isParenthesis
      simp only [bind, Except.bind] at settled ⊢
      rw [closed]
      cases value with
      | error error =>
          unfold close
          rw [settled]
          rfl
      | ok result => exact close_congr_settled settled

theorem isBeforeOperand_closing {closing : Token} (isClosing : closing.kind = .closeParenthesis) :
    isBeforeOperand (some closing) = false := by
  simp [isBeforeOperand, isClosing]

theorem leaves_parentheses {tokens : List Token} {opening closing : Token}
    {value : Except EvaluationError (Quantity Float)} (ready : Ready .atom stack)
    (isOpening : opening.kind = .openParenthesis) (isClosing : closing.kind = .closeParenthesis)
    (inside : ∀ next, Ready .expression next →
      Leaves .expression next value (tokens.foldlM (step surroundings) next)) :
    Leaves .atom stack value
      ((opening :: tokens ++ [closing]).foldlM (step surroundings) stack) := by
  rw [List.cons_append, List.foldlM_cons, step_opening isOpening]
  have run := foldlM_parenthesized stack.waiting stack.values isOpening isClosing inside
  simp only [bind, Except.bind] at run ⊢
  rw [run]
  cases value with
  | error error => exact .failed rfl
  | ok result =>
      simp only [close_parenthesis ready.uncalled]
      exact .pending (isBeforeOperand_closing isClosing) fun keeps _ => rfl

theorem call_sqrt (value : Quantity Float) (values : List (Quantity Float)) :
    call surroundings .sqrt (value :: values) =
      (squareRoot value).map fun result => result :: values := by
  simp only [call, squareRoot]
  split
  · rfl
  · split <;> rfl

theorem leaves_root {tokens : List Token} {caller opening closing : Token}
    {value : Except EvaluationError (Quantity Float)} (isCaller : caller.kind = .call .sqrt)
    (isOpening : opening.kind = .openParenthesis) (isClosing : closing.kind = .closeParenthesis)
    (inside : ∀ next, Ready .expression next →
      Leaves .expression next value (tokens.foldlM (step surroundings) next)) :
    Leaves .atom stack (value >>= squareRoot)
      ((caller :: opening :: tokens ++ [closing]).foldlM (step surroundings) stack) := by
  rw [List.cons_append, List.cons_append, List.foldlM_cons, step_caller isCaller]
  simp only [bind, Except.bind]
  rw [List.foldlM_cons, step_opening isOpening]
  have run := foldlM_parenthesized (.call .sqrt caller :: stack.waiting) stack.values isOpening
    isClosing inside
  simp only [bind, Except.bind] at run ⊢
  rw [run]
  cases value with
  | error error => exact .failed rfl
  | ok argument =>
      simp only [close_call, call_sqrt, bind, Except.bind]
      cases squareRoot argument with
      | error error => exact .failed rfl
      | ok result =>
          exact .pending (isBeforeOperand_closing isClosing) fun keeps _ => rfl

theorem leaves_total {caller opening closing : Token} (isCaller : caller.kind = .call .sumAbove)
    (isOpening : opening.kind = .openParenthesis)
    (isClosing : closing.kind = .closeParenthesis) :
    Leaves .atom stack (.ok surroundings.total)
      ([caller, opening, closing].foldlM (step surroundings) stack) := by
  rw [List.foldlM_cons, step_caller isCaller]
  simp only [bind, Except.bind]
  rw [List.foldlM_cons, step_opening isOpening]
  simp only [bind, Except.bind]
  rw [List.foldlM_cons, step_closing isClosing, close_call]
  exact .pending (isBeforeOperand_closing isClosing) fun keeps _ => rfl

/-! ## Whole trees -/

theorem yields_outlasts {operator : Operator} (leftwards : operator ≠ .power)
    (tighter : operator.precedence ≤ category.floor) :
    category.Yields (Waiting.outlasts operator) :=
  fun _ atLeast => Waiting.outlasts_of_le leftwards (Nat.le_trans tighter atLeast)

/-- Operators of one precedence associate to the left: an arriving one settles its equals. -/
theorem leaves_leftwards {rightCategory : InfixCategory} {left right : List Token} {sign : Token}
    {operator : Operator} {leftValue rightValue : Except EvaluationError (Quantity Float)}
    (isSign : sign.kind = .operator operator) (leftwards : operator ≠ .power)
    (isFloor : operator.precedence = category.floor)
    (isCeiling : operator.precedence = category.ceiling) (ready : Ready category stack)
    (isLeft : Leaves category stack leftValue (left.foldlM (step surroundings) stack))
    (isRight : ∀ next, Ready rightCategory next →
      Leaves rightCategory next rightValue (right.foldlM (step surroundings) next))
    (high : category.ceiling < rightCategory.ceiling)
    (below : category.floor ≤ rightCategory.floor) :
    Leaves category stack
      (leftValue >>= fun left => rightValue >>= fun right =>
        (operator.apply left right).mapError .unit)
      ((left ++ sign :: right).foldlM (step surroundings) stack) := by
  apply leaves_binary isSign isLeft
  · exact yields_outlasts leftwards (Nat.le_of_eq isFloor)
  · intro top isTop
    exact Waiting.outlasts_of_lt (isCeiling ▸ ready.looser top isTop)
  · exact isRight
  · exact isCeiling ▸ high
  · exact Nat.le_of_eq isFloor.symm
  · exact below

/-- Every tree leaves its value pending. -/
theorem leaves_of_derives {tokens : List Token} {tree : InfixTree}
    (derives : Derives surroundings.bindings.isSome category tokens tree)
    (ready : Ready category stack) :
    Leaves category stack (tree.value surroundings)
      (tokens.foldlM (step surroundings) stack) := by
  -- Each part of the tree is taken in from a stack of its own, with other operators waiting.
  induction derives generalizing stack with
  | ofTerm _ term => exact (term (ready.mono (by decide))).mono (by decide)
  | ofFactor _ factor => exact (factor (ready.mono (by decide))).mono (by decide)
  | factorOfPower _ power => exact (power (ready.mono (by decide))).mono (by decide)
  | ofAtom _ atom => exact (atom (ready.mono (by decide))).mono (by decide)
  | exponentOfPower _ power => exact (power (ready.mono (by decide))).mono (by decide)
  | @sum _ _ _ _ operator _ _ isSign additive _ left right =>
      have leftwards : operator ≠ .power := by
        rintro rfl
        exact absurd additive (by decide)
      exact leaves_leftwards isSign leftwards additive additive ready (left ready)
        (fun _ => right) (by decide) (by decide)
  | @product _ _ _ _ operator _ _ isSign multiplicative _ left right =>
      have leftwards : operator ≠ .power := by
        rintro rfl
        exact absurd multiplicative (by decide)
      exact leaves_leftwards isSign leftwards multiplicative multiplicative ready (left ready)
        (fun _ => right) (by decide) (by decide)
  | negatedFactor isSign _ factor =>
      exact leaves_negation isSign ready (by decide) (by decide) fun _ => factor
  | negatedExponent isSign _ exponent =>
      exact leaves_negation isSign ready (by decide) (by decide) fun _ => exponent
  | raised _ isSign _ base exponent =>
      refine leaves_binary isSign (base (ready.mono (by decide))) ?_ ?_ (fun _ => exponent)
        (by decide) (by decide) (by decide)
      · -- Nothing that waits binds as tightly as an atom, so no power is settled before another.
        intro waiting atLeast
        have tooTight : 5 ≤ 4 := Nat.le_trans atLeast waiting.precedence_le
        exact absurd tooTight (by decide)
      · exact fun top _ => Waiting.outlasts_power top
  | operand isAtom => exact leaves_operand isAtom
  | parentheses isOpening _ isClosing inside =>
      exact leaves_parentheses ready isOpening isClosing fun _ => inside
  | root isCaller isOpening _ isClosing inside =>
      exact leaves_root isCaller isOpening isClosing fun _ => inside
  | total isCaller isOpening isClosing => exact leaves_total isCaller isOpening isClosing

/-- The stack gives the tokens of an expression the value of its tree, and fails as the tree
does. -/
theorem evaluate_of_derives {surroundings : Surroundings} {tokens : List Token} {tree : InfixTree}
    (derives : Derives surroundings.bindings.isSome .expression tokens tree) :
    evaluate surroundings tokens = tree.value surroundings := by
  have start : Ready .expression {} := ⟨rfl, by simp, by simp⟩
  have leaves := leaves_of_derives derives start
  unfold evaluate
  generalize tokens.foldlM (step surroundings) {} = run at leaves ⊢
  cases leaves with
  | failed fails =>
      rw [fails]
      rfl
  | @pending next afterOperand settles =>
      have settled := settles (fun _ => false) fun _ _ => rfl
      have finished : finish next = tree.value surroundings := by
        unfold finish
        rw [settled]
        cases tree.value surroundings <;> rfl
      exact finished

/-- The exponent of `2^-3^2*4` is the negated power, and the product is taken last. -/
theorem evaluate_negated_exponent :
    let two : Token := ⟨.number 2, "2", ⟨0, 1⟩⟩
    let outer : Token := ⟨.operator .power, "^", ⟨1, 2⟩⟩
    let minus : Token := ⟨.operator .minus, "-", ⟨2, 3⟩⟩
    let three : Token := ⟨.number 3, "3", ⟨3, 4⟩⟩
    let inner : Token := ⟨.operator .power, "^", ⟨4, 5⟩⟩
    let square : Token := ⟨.number 2, "2", ⟨5, 6⟩⟩
    let times : Token := ⟨.operator .times, "*", ⟨6, 7⟩⟩
    let four : Token := ⟨.number 4, "4", ⟨7, 8⟩⟩
    evaluate ⟨none, [], 0⟩ [two, outer, minus, three, inner, square, times, four] =
      InfixTree.value ⟨none, [], 0⟩
        (.binary .times
          (.binary .power (.operand two)
            (.negation (.binary .power (.operand three) (.operand square))))
          (.operand four)) := by
  intro two outer minus three inner square times four
  have isOuter : outer.kind = .operator .power := rfl
  have isMinus : minus.kind = .operator .minus := rfl
  have isInner : inner.kind = .operator .power := rfl
  have isTimes : times.kind = .operator .times := rfl
  have atom (token : Token) (isNumber : token.isAtom false = true) :
      Derives false .atom [token] (.operand token) := .operand isNumber
  have exponent := Derives.negatedExponent isMinus
    (.exponentOfPower (.raised (atom three rfl) isInner
      (.exponentOfPower (.ofAtom (atom square rfl)))))
  have power := Derives.raised (atom two rfl) isOuter exponent
  have product := Derives.product (.ofFactor (.factorOfPower power)) isTimes rfl
    (.factorOfPower (.ofAtom (atom four rfl)))
  exact evaluate_of_derives (.ofTerm product)

end OperatorStack

end NoteCalc
