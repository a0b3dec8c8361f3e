import NoteCalc.Proofs.Formula.ExpectedTokens
import NoteCalc.Proofs.Formula.StackSteps

/-!
# Which tokens have a value

The stack counts values only where an operator is applied, and asks for a single one at the end.  So
an operand that is missing in one place and superfluous in another may go unnoticed.  Tokens that
are separated have no superfluous operands: then one that is missing is never made up for, and what
has a value is an expression.
-/

namespace NoteCalc

variable {names : Bool} {token : Token}

namespace Expected

variable {expected : Expected}

/-- How many values more are needed for what is expected. -/
def credit : Expected → Int
  | .operand | .opening .sqrt => 1
  | .operator | .closing | .opening .sumAbove => 0

theorem credit_nonneg (expected : Expected) : 0 ≤ expected.credit := by
  rcases expected with - | - | (- | -) | - <;> decide

theorem isBeforeOperand_eq (expected : Expected) (isPart : token.isPart names = true) :
    OperatorStack.isBeforeOperand (some token) = decide (expected.next token ≠ .operator) := by
  rcases Token.isPart_cases isPart with
    isAtom | ⟨operator, isSign⟩ | isOpening | isClosing | ⟨function, isCaller⟩
  · rw [OperatorStack.isBeforeOperand_atom isAtom, next_of_isAtom isAtom]
    rfl
  · simp [OperatorStack.isBeforeOperand, next_of_operator isSign, isSign]
  · by_cases isTotal : expected = .opening .sumAbove <;>
      simp [OperatorStack.isBeforeOperand, next, isOpening, isTotal]
  · simp [OperatorStack.isBeforeOperand, next_of_closing isClosing, isClosing]
  · simp [OperatorStack.isBeforeOperand, next_of_caller isCaller, isCaller]

/-- What is expected is paid for when it comes. -/
theorem credit_of_meets (isPart : token.isPart names = true)
    (isMet : expected.meets token = true) :
    (expected.next token).credit + token.gain (decide (expected ≠ .operator)) =
      expected.credit := by
  rcases Token.isPart_cases isPart with
    isAtom | ⟨operator, isSign⟩ | isOpening | isClosing | ⟨function, isCaller⟩
  · rw [meets_of_isAtom isAtom] at isMet
    rw [next_of_isAtom isAtom, Token.gain_of_isAtom isAtom, of_decide_eq_true isMet]
    rfl
  · rw [next_of_operator isSign]
    cases expected <;> simp_all [meets, credit, Token.gain]
  · cases expected with
    | operand => simp [next_of_opening isOpening, credit, Token.gain, isOpening]
    | opening function => cases function <;> simp [next, credit, Token.gain, isOpening]
    | operator | closing => exact absurd isMet (by simp [meets, isOpening])
  · rw [next_of_closing isClosing]
    cases expected <;> simp_all [meets, credit, Token.gain]
  · rw [next_of_caller isCaller]
    cases expected with
    | operand => cases function <;> simp [credit, Token.gain, isCaller]
    | operator | opening | closing => exact absurd isMet (by simp [meets, isCaller])

/-- An operand that does not come is never made up for. -/
theorem credit_of_missing (isPart : token.isPart names = true)
    (isMissing : Expected.operand.meets token = false) :
    (Expected.operand.next token).credit + token.gain true < Expected.operand.credit := by
  rcases Token.isPart_cases isPart with
    isAtom | ⟨operator, isSign⟩ | isOpening | isClosing | ⟨function, isCaller⟩
  · rw [meets_of_isAtom isAtom] at isMissing
    exact absurd isMissing (by simp)
  · have takesTwo : operator ≠ .minus := by simpa [meets, isSign] using isMissing
    simp [next_of_operator isSign, credit, Token.gain, isSign, takesTwo]
  · exact absurd isMissing (by simp [meets, isOpening])
  · simp [next_of_closing isClosing, credit, Token.gain, isClosing]
  · exact absurd isMissing (by simp [meets, isCaller])

end Expected

namespace OperatorStack

variable {surroundings : Surroundings} {stack next : OperatorStack}

/-- The stack has come to where something is expected: a minus negates there, unless it is an
operator. -/
def Awaits (stack : OperatorStack) (expected : Expected) : Prop :=
  isBeforeOperand stack.previous = decide (expected ≠ .operator)

theorem Steps.awaits {expected : Expected} (isPart : token.isPart names = true)
    (steps : Steps names stack token next) : next.Awaits (expected.next token) := by
  unfold Awaits
  rw [steps.previous_eq]
  exact expected.isBeforeOperand_eq isPart

/-! ## Functions without parentheses -/

/-- No parenthesis stands directly on what is below. -/
def Bare (above : List Waiting) : Prop :=
  ∀ bottom ∈ above.getLast?, bottom.isParenthesis = false

theorem bare_nil : Bare [] := by
  simp [Bare]

theorem Bare.cons {above : List Waiting} {item : Waiting} (bare : Bare above)
    (isOther : above = [] → item.isParenthesis = false) : Bare (item :: above) := by
  cases above with
  | nil => simpa [Bare] using isOther rfl
  | cons next above => simpa [Bare, List.getLast?_cons_cons] using bare

theorem Bare.of_append (above : List Waiting) {below : List Waiting}
    (bare : Bare (above ++ below)) : Bare below := by
  intro bottom isBottom
  refine bare bottom ?_
  rw [List.getLast?_append, Option.mem_def.mp isBottom]
  rfl

/-- A function waits, and no parenthesis that closes can reach it any more. -/
def Blocked (stack : OperatorStack) : Prop :=
  ∃ above function caller below, stack.waiting = above ++ .call function caller :: below ∧
    Bare above ∧ (above = [] → isBeforeOperand stack.previous = false)

/-- Operators that are applied are above a function that waits. -/
theorem Settles.exists_above {applied left above below : List Waiting}
    {values : List (Quantity Float)} {function : NamedFunction} {caller : Token}
    (settles : stack.Settles applied left values)
    (waiting : stack.waiting = above ++ .call function caller :: below) :
    ∃ rest, above = applied ++ rest ∧ left = rest ++ .call function caller :: below := by
  rcases List.append_eq_append_iff.mp (settles.waiting.symm.trans waiting) with
    ⟨rest, isAbove, isLeft⟩ | ⟨between, isApplied, isBelow⟩
  · exact ⟨rest, isAbove, isLeft⟩
  · cases between with
    | nil => exact ⟨[], by simpa using isApplied.symm, by simpa using isBelow.symm⟩
    | cons item between =>
        obtain ⟨rfl, -⟩ := List.cons.inj isBelow
        have isOperator := settles.operators (.call function caller) (by simp [isApplied])
        exact absurd isOperator (by simp [Waiting.isOperator])

/-- One step: only a parenthesis that directly follows a function opens it. -/
theorem Steps.blocked {above below : List Waiting} {function : NamedFunction} {caller : Token}
    (steps : Steps names stack token next)
    (waiting : stack.waiting = above ++ .call function caller :: below) (bare : Bare above)
    (unopened : above = [] → token.kind ≠ .openParenthesis) : next.Blocked := by
  cases steps with
  | operand isAtom value =>
      exact ⟨above, function, caller, below, waiting, bare, fun _ => isBeforeOperand_atom isAtom⟩
  | negation isSign beforeOperand =>
      exact ⟨_ :: above, function, caller, below, congrArg (_ :: ·) waiting,
        bare.cons fun _ => rfl, by simp⟩
  | binary isSign takesTwo settles =>
      obtain ⟨rest, rfl, rfl⟩ := settles.exists_above waiting
      exact ⟨_ :: rest, function, caller, below, rfl, (bare.of_append _).cons fun _ => rfl,
        by simp⟩
  | opening isOpening =>
      exact ⟨_ :: above, function, caller, below, congrArg (_ :: ·) waiting,
        bare.cons fun isEmpty => absurd isOpening (unopened isEmpty), by simp⟩
  | caller isCaller =>
      exact ⟨_ :: above, function, caller, below, congrArg (_ :: ·) waiting,
        bare.cons fun _ => rfl, by simp⟩
  | closing isClosing settles uncalled =>
      obtain ⟨rest, rfl, isRest⟩ := settles.exists_above waiting
      cases rest with
      | nil => exact absurd isRest (by simp)
      | cons opening rest =>
          obtain ⟨rfl, rfl⟩ := List.cons.inj isRest
          exact ⟨rest, function, caller, below, rfl,
            (bare.of_append _).of_append [_], fun _ => isBeforeOperand_closing isClosing⟩
  | called isClosing settles count =>
      obtain ⟨rest, rfl, isRest⟩ := settles.exists_above waiting
      match rest with
      | [] => exact absurd isRest (by simp)
      | [item] =>
          obtain ⟨rfl, -⟩ := List.cons.inj isRest
          exact absurd (bare.of_append _ _ rfl) (by simp [Waiting.isParenthesis])
      | item :: other :: rest =>
          obtain ⟨rfl, others⟩ := List.cons.inj isRest
          obtain ⟨rfl, rfl⟩ := List.cons.inj others
          exact ⟨rest, function, caller, below, rfl, (bare.of_append _).of_append [_, _],
            fun _ => isBeforeOperand_closing isClosing⟩

/-! ## What has been read -/

/-- Tokens end in the parentheses that wait to be closed, with an expression begun before each of
them. -/
inductive Opens (names : Bool) : List Token → List Waiting → Prop where
  | outermost : Opens names [] []
  | awaiting {outer : List Token} {waiting : List Waiting} {item : Waiting}
      (opens : Opens names outer waiting) (isOperator : item.isOperator = true) :
      Opens names outer (item :: waiting)
  | parenthesis {outer inner : List Token} {waiting : List Waiting} {opening : Token}
      (opens : Opens names outer waiting) (awaits : AwaitsOperand names inner)
      (isOpening : opening.kind = .openParenthesis) :
      Opens names (outer ++ (inner ++ [opening])) (.parenthesis opening :: waiting)
  | root {outer inner : List Token} {waiting : List Waiting} {caller opening : Token}
      (opens : Opens names outer waiting) (awaits : AwaitsOperand names inner)
      (isCaller : caller.kind = .call .sqrt) (isOpening : opening.kind = .openParenthesis) :
      Opens names (outer ++ (inner ++ [caller, opening]))
        (.parenthesis opening :: .call .sqrt caller :: waiting)

/-- What has been read up to where something is expected, with what waits. -/
inductive Reads (names : Bool) : Expected → List Token → List Waiting → Prop where
  | operand {outer inner : List Token} {waiting : List Waiting}
      (opens : Opens names outer waiting) (awaits : AwaitsOperand names inner) :
      Reads names .operand (outer ++ inner) waiting
  | operator {outer inner : List Token} {waiting : List Waiting}
      (opens : Opens names outer waiting) (spells : Spells names .expression inner) :
      Reads names .operator (outer ++ inner) waiting
  | opening {outer inner : List Token} {waiting : List Waiting} {function : NamedFunction}
      {caller : Token} (opens : Opens names outer waiting) (awaits : AwaitsOperand names inner)
      (isCaller : caller.kind = .call function) :
      Reads names (.opening function) (outer ++ (inner ++ [caller]))
        (.call function caller :: waiting)
  | closing {outer inner : List Token} {waiting : List Waiting} {caller opening : Token}
      (opens : Opens names outer waiting) (awaits : AwaitsOperand names inner)
      (isCaller : caller.kind = .call .sumAbove) (isOpening : opening.kind = .openParenthesis) :
      Reads names .closing (outer ++ (inner ++ [caller, opening]))
        (.parenthesis opening :: .call .sumAbove caller :: waiting)

theorem Opens.tail {outer : List Token} {item : Waiting} {waiting : List Waiting}
    (opens : Opens names outer (item :: waiting)) (isOperator : item.isOperator = true) :
    Opens names outer waiting := by
  cases opens with
  | awaiting opens => exact opens
  | parenthesis | root => exact absurd isOperator (by simp [Waiting.isOperator])

theorem Opens.left {outer : List Token} {applied left : List Waiting}
    (opens : Opens names outer (applied ++ left))
    (operators : ∀ item ∈ applied, item.isOperator = true) : Opens names outer left := by
  induction applied with
  | nil => exact opens
  | cons item applied induction =>
      obtain ⟨isOperator, others⟩ := List.forall_mem_cons.mp operators
      exact induction (opens.tail isOperator) others

/-- No parenthesis waits to be closed if only operators wait. -/
theorem Opens.eq_nil {outer : List Token} {waiting : List Waiting}
    (opens : Opens names outer waiting) (operators : ∀ item ∈ waiting, item.isOperator = true) :
    outer = [] := by
  induction opens with
  | outermost => rfl
  | awaiting _ _ induction => exact induction (List.forall_mem_cons.mp operators).2
  | parenthesis | root =>
      exact absurd (operators _ List.mem_cons_self) (by simp [Waiting.isOperator])

theorem Opens.uncalled {outer : List Token} {waiting : List Waiting}
    (opens : Opens names outer waiting) (function : NamedFunction) (caller : Token) :
    waiting.head? ≠ some (.call function caller) := by
  intro isCall
  cases opens with
  | outermost => exact absurd isCall (by simp)
  | awaiting opens isOperator =>
      rw [Option.some.inj isCall] at isOperator
      exact absurd isOperator (by simp [Waiting.isOperator])
  | parenthesis | root => exact absurd (Option.some.inj isCall) (by simp)

/-- An operand has been completed. -/
theorem Opens.completed {outer inner atom : List Token} {waiting : List Waiting}
    (opens : Opens names outer waiting) (awaits : AwaitsOperand names inner)
    (isAtom : Spells names .atom atom) : Reads names .operator (outer ++ (inner ++ atom)) waiting :=
  .operator opens (awaits.completed isAtom)

theorem Reads.operandOpened {outer : List Token} {waiting : List Waiting}
    (opens : Opens names outer waiting) : Reads names .operand outer waiting := by
  have reads : Reads names .operand (outer ++ []) waiting := .operand opens awaitsOperand_nil
  rwa [List.append_nil] at reads

theorem Settles.left_eq {applied left below : List Waiting} {values : List (Quantity Float)}
    {opening : Token} (settles : stack.Settles applied left values)
    (waiting : stack.waiting = .parenthesis opening :: below) :
    left = .parenthesis opening :: below := by
  have split := settles.waiting.symm.trans waiting
  cases applied with
  | nil => exact split
  | cons item applied =>
      have isOperator := settles.operators item List.mem_cons_self
      rw [(List.cons.inj split).1] at isOperator
      exact absurd isOperator (by simp [Waiting.isOperator])

/-- An expression ends where the innermost parenthesis closes. -/
theorem Reads.closed {tokens : List Token} {waiting applied left : List Waiting}
    {opening : Token} {values : List (Quantity Float)}
    (reads : Reads names .operator tokens waiting) (isWaiting : stack.waiting = waiting)
    (isClosing : token.kind = .closeParenthesis)
    (settles : stack.Settles applied (.parenthesis opening :: left) values)
    (uncalled : ∀ function caller, left.head? ≠ some (.call function caller)) :
    Reads names .operator (tokens ++ [token]) left := by
  rw [← isWaiting, settles.waiting] at reads
  cases reads with
  | @operator outer inner _ opens spells =>
      obtain ⟨tree, derives⟩ := spells
      cases opens.left settles.operators with
      | awaiting opens isOperator => exact absurd isOperator (by simp [Waiting.isOperator])
      | root => exact absurd rfl (uncalled _ _)
      | parenthesis opens awaits isOpening =>
          have atom : Spells names .atom (opening :: inner ++ [token]) :=
            ⟨_, .parentheses isOpening derives isClosing⟩
          simpa using opens.completed awaits atom

/-- The argument of a function ends where its parenthesis closes. -/
theorem Reads.calledBack {tokens : List Token} {waiting applied left : List Waiting}
    {opening caller : Token} {function : NamedFunction} {values : List (Quantity Float)}
    (reads : Reads names .operator tokens waiting) (isWaiting : stack.waiting = waiting)
    (isClosing : token.kind = .closeParenthesis)
    (settles : stack.Settles applied (.parenthesis opening :: .call function caller :: left)
      values) : Reads names .operator (tokens ++ [token]) left := by
  rw [← isWaiting, settles.waiting] at reads
  cases reads with
  | @operator outer inner _ opens spells =>
      obtain ⟨tree, derives⟩ := spells
      cases opens.left settles.operators with
      | awaiting opens isOperator => exact absurd isOperator (by simp [Waiting.isOperator])
      | parenthesis opens => exact absurd rfl (opens.uncalled function caller)
      | root opens awaits isCaller isOpening =>
          have atom : Spells names .atom (caller :: opening :: inner ++ [token]) :=
            ⟨_, .root isCaller isOpening derives isClosing⟩
          simpa using opens.completed awaits atom

/-- A parenthesis opens where an operand is expected or behind a function. -/
theorem Reads.opened {expected : Expected} {tokens : List Token} {waiting : List Waiting}
    (reads : Reads names expected tokens waiting) (isMet : expected.meets token = true)
    (isOpening : token.kind = .openParenthesis) :
    Reads names (expected.next token) (tokens ++ [token]) (.parenthesis token :: waiting) := by
  cases reads with
  | operand opens awaitsAtom =>
      rw [Expected.next_of_opening isOpening (by simp)]
      simpa using Reads.operandOpened (opens.parenthesis awaitsAtom isOpening)
  | @opening outer inner _ function caller opens awaitsAtom isCaller =>
      cases function with
      | sqrt =>
          rw [Expected.next_of_opening isOpening (by simp)]
          simpa using Reads.operandOpened (opens.root awaitsAtom isCaller isOpening)
      | sumAbove =>
          rw [Expected.next_of_openingTotal isOpening]
          simpa using Reads.closing opens awaitsAtom isCaller isOpening
  | operator | closing => exact absurd isMet (by simp [Expected.meets, isOpening])

/-- One step: an expected token continues what has been read. -/
theorem Reads.step {expected : Expected} {tokens : List Token}
    (reads : Reads names expected tokens stack.waiting) (isMet : expected.meets token = true)
    (awaits : stack.Awaits expected) (steps : Steps names stack token next) :
    Reads names (expected.next token) (tokens ++ [token]) next.waiting := by
  unfold Awaits at awaits
  generalize isWaiting : stack.waiting = waiting at reads
  cases steps with
  | operand isAtom value =>
      rw [Expected.meets_of_isAtom isAtom] at isMet
      obtain rfl := of_decide_eq_true isMet
      rw [Expected.next_of_isAtom isAtom]
      cases reads with
      | operand opens awaitsAtom =>
          simpa [isWaiting] using opens.completed awaitsAtom ⟨_, .operand isAtom⟩
  | negation isSign beforeOperand =>
      rw [Expected.next_of_operator isSign]
      cases reads with
      | operand opens awaitsAtom =>
          simpa [isWaiting] using Reads.operand (opens.awaiting rfl) (awaitsAtom.minus isSign)
      | operator => exact absurd (awaits.symm.trans beforeOperand) (by simp)
      | opening | closing => exact absurd isMet (by simp [Expected.meets, isSign])
  | binary isSign takesTwo settles =>
      rw [Expected.next_of_operator isSign]
      cases reads with
      | operator opens spells =>
          have left := (settles.waiting ▸ isWaiting ▸ opens).left settles.operators
          simpa using Reads.operand (left.awaiting rfl) (spells.awaitsOperand isSign)
      | operand => exact absurd ⟨by simpa [Expected.meets, isSign] using isMet, awaits⟩ takesTwo
      | opening | closing => exact absurd isMet (by simp [Expected.meets, isSign])
  | opening isOpening => simpa only [isWaiting] using reads.opened isMet isOpening
  | caller isCaller =>
      rw [Expected.next_of_caller isCaller]
      cases reads with
      | operand opens awaitsAtom =>
          simpa [isWaiting] using Reads.opening opens awaitsAtom isCaller
      | operator | opening | closing => exact absurd isMet (by simp [Expected.meets, isCaller])
  | closing isClosing settles uncalled =>
      rw [Expected.next_of_closing isClosing]
      cases reads with
      | operator opens spells =>
          exact (Reads.operator opens spells).closed isWaiting isClosing settles uncalled
      | closing =>
          obtain ⟨-, rfl⟩ := List.cons.inj (settles.left_eq isWaiting)
          exact absurd rfl (uncalled _ _)
      | operand | opening => exact absurd isMet (by simp [Expected.meets, isClosing])
  | called isClosing settles count =>
      rw [Expected.next_of_closing isClosing]
      cases reads with
      | operator opens spells =>
          exact (Reads.operator opens spells).calledBack isWaiting isClosing settles
      | closing opens awaitsAtom isCaller isOpening =>
          obtain ⟨-, others⟩ := List.cons.inj (settles.left_eq isWaiting)
          obtain ⟨-, rfl⟩ := List.cons.inj others
          simpa using opens.completed awaitsAtom ⟨_, .total isCaller isOpening isClosing⟩
      | operand | opening => exact absurd isMet (by simp [Expected.meets, isClosing])

/-! ## Whole runs -/

section Runs

variable {expected : Expected} {tokens : List Token} {value : Quantity Float}

/-- Take in tokens and see which value remains. -/
def finishAfter (surroundings : Surroundings) (stack : OperatorStack) (tokens : List Token) :
    Except EvaluationError (Quantity Float) :=
  tokens.foldlM (step surroundings) stack >>= finish

theorem finishAfter_cons_eq_ok_iff : finishAfter surroundings stack (token :: tokens) = .ok value ↔
    ∃ next, step surroundings stack token = .ok next ∧
      finishAfter surroundings next tokens = .ok value := by
  unfold finishAfter
  rw [List.foldlM_cons, bind_assoc, bind_eq_ok_iff]

/-- One value remains if only operators wait and their operands are complete. -/
theorem finish_eq_ok (finished : finish stack = .ok value) :
    (∀ item ∈ stack.waiting, item.isOperator = true) ∧ stack.balance = 1 := by
  obtain ⟨⟨left, values⟩, settled, single⟩ := bind_eq_ok_iff.mp finished
  obtain ⟨⟨applied, settles⟩, kept⟩ := settle_eq_ok stack.previous settled
  have nothingLeft : left = [] := by
    cases left with
    | nil => rfl
    | cons top left => exact absurd (kept top rfl) (by simp)
  subst nothingLeft
  have isApplied : stack.waiting = applied := by simpa using settles.waiting
  refine ⟨isApplied ▸ settles.operators, ?_⟩
  match values with
  | [result] => simpa [Waiting.demands] using settles.balance_eq
  | [] | _ :: _ :: _ => exact absurd single (by simp)

/-- A function that waits for good lets no run succeed. -/
theorem Blocked.finishAfter_ne_ok (blocked : stack.Blocked) (awaits : stack.Awaits expected)
    (separated : expected.separated tokens = true)
    (parts : ∀ token ∈ tokens, token.isPart surroundings.bindings.isSome = true) :
    finishAfter surroundings stack tokens ≠ .ok value := by
  induction tokens generalizing stack expected with
  | nil =>
      intro done
      obtain ⟨operators, -⟩ := finish_eq_ok done
      obtain ⟨above, function, caller, below, waiting, -⟩ := blocked
      have isOperator := operators (.call function caller) (by simp [waiting])
      exact absurd isOperator (by simp [Waiting.isOperator])
  | cons token tokens induction =>
      intro done
      obtain ⟨next, stepped, rest⟩ := finishAfter_cons_eq_ok_iff.mp done
      obtain ⟨isPart, others⟩ := List.forall_mem_cons.mp parts
      rw [Expected.separated, Bool.and_eq_true] at separated
      have steps := steps_of_step isPart stepped
      obtain ⟨above, function, caller, below, waiting, bare, afterOperand⟩ := blocked
      refine induction (steps.blocked waiting bare ?_) (steps.awaits isPart) separated.2 others rest
      intro isEmpty isOpening
      have isOperator : expected = .operator := by
        simpa [afterOperand isEmpty] using awaits.symm
      have allowed := separated.1
      rw [isOperator] at allowed
      exact absurd allowed (by simp [Expected.allows, Expected.meets, isOpening])

/-- Where a function is opened it waits on top. -/
def HasCaller (stack : OperatorStack) (expected : Expected) : Prop :=
  ∀ function, expected = .opening function →
    ∃ caller below, stack.waiting = .call function caller :: below

theorem Steps.hasCaller (steps : Steps names stack token next) :
    next.HasCaller (expected.next token) := by
  intro function isOpening
  cases steps with
  | operand isAtom =>
      rw [Expected.next_of_isAtom isAtom] at isOpening
      exact absurd isOpening (by simp)
  | @caller calledFunction isCaller =>
      rw [Expected.next_of_caller isCaller] at isOpening
      obtain rfl := Expected.opening.inj isOpening
      exact ⟨token, stack.waiting, rfl⟩
  | opening isParenthesis =>
      by_cases isTotal : expected = .opening .sumAbove <;>
        exact absurd isOpening (by simp [Expected.next, isParenthesis, isTotal])
  | negation isSign | binary isSign =>
      rw [Expected.next_of_operator isSign] at isOpening
      exact absurd isOpening (by simp)
  | closing isClosing | called isClosing =>
      rw [Expected.next_of_closing isClosing] at isOpening
      exact absurd isOpening (by simp)

/-- A run that succeeds has all the values it needs.  If it has no more than these, then what it has
read and what it reads is an expression. -/
theorem spells_of_run (awaits : stack.Awaits expected) (called : stack.HasCaller expected)
    (separated : expected.separated tokens = true)
    (parts : ∀ token ∈ tokens, token.isPart surroundings.bindings.isSome = true)
    (done : finishAfter surroundings stack tokens = .ok value) :
    1 ≤ stack.balance + expected.credit ∧
      ∀ read, stack.balance + expected.credit = 1 →
        Reads surroundings.bindings.isSome expected read stack.waiting →
        Spells surroundings.bindings.isSome .expression (read ++ tokens) := by
  induction tokens generalizing stack expected with
  | nil =>
      obtain ⟨operators, balance⟩ := finish_eq_ok done
      have nonneg := expected.credit_nonneg
      refine ⟨by omega, fun read single reads => ?_⟩
      have noCredit : expected.credit = 0 := by omega
      generalize stack.waiting = waiting at operators reads
      cases reads with
      | operand => exact absurd noCredit (by simp [Expected.credit])
      | opening | closing =>
          exact absurd (operators _ List.mem_cons_self) (by simp [Waiting.isOperator])
      | operator opens spells =>
          obtain rfl := opens.eq_nil operators
          simpa using spells
  | cons token tokens induction =>
      obtain ⟨next, stepped, rest⟩ := finishAfter_cons_eq_ok_iff.mp done
      obtain ⟨isPart, others⟩ := List.forall_mem_cons.mp parts
      rw [Expected.separated, Bool.and_eq_true] at separated
      obtain ⟨allowed, separatedRest⟩ := separated
      have steps := steps_of_step isPart stepped
      have counted := steps.balance_eq
      rw [awaits] at counted
      obtain ⟨enough, reading⟩ :=
        induction (steps.awaits isPart) steps.hasCaller separatedRest others rest
      cases isMet : expected.meets token with
      | true =>
          have credit := Expected.credit_of_meets isPart isMet
          refine ⟨by omega, fun read single reads => ?_⟩
          have spells := reading (read ++ [token]) (by omega) (reads.step isMet awaits steps)
          simpa using spells
      | false =>
          cases expected with
          | operator | closing => exact absurd allowed (by simp [Expected.allows, isMet])
          | operand =>
              have missing := Expected.credit_of_missing isPart isMet
              have moreThanEnough : 1 < stack.balance + Expected.operand.credit := by
                simp only [ne_eq, reduceCtorEq, not_false_eq_true, decide_true] at counted
                omega
              exact ⟨Int.le_of_lt moreThanEnough, fun read single =>
                absurd single.symm (Int.ne_of_lt moreThanEnough)⟩
          | opening function =>
              obtain ⟨caller, below, waiting⟩ := called function rfl
              have unopened : token.kind ≠ .openParenthesis := by
                intro isOpening
                exact absurd isMet (by simp [Expected.meets, isOpening])
              have blocked : next.Blocked :=
                steps.blocked waiting bare_nil fun _ => unopened
              exact absurd rest
                (blocked.finishAfter_ne_ok (steps.awaits isPart) separatedRest others)

end Runs

/-- What has a value is an expression exactly if it is separated. -/
theorem derives_iff_separated {surroundings : Surroundings} {tokens : List Token}
    {value : Quantity Float}
    (parts : ∀ token ∈ tokens, token.isPart surroundings.bindings.isSome = true)
    (evaluated : evaluate surroundings tokens = .ok value) :
    (∃ tree, Derives surroundings.bindings.isSome .expression tokens tree) ↔
      Expected.operand.separated tokens = true := by
  constructor
  · rintro ⟨tree, derives⟩
    exact (leads_of_derives derives).separated
  · intro separated
    have awaits : Awaits {} .operand := rfl
    have hasCaller : HasCaller {} .operand := fun function isOpening => absurd isOpening (by simp)
    have reads : Reads surroundings.bindings.isSome .operand [] [] :=
      .operandOpened .outermost
    obtain ⟨-, reading⟩ := spells_of_run awaits hasCaller separated parts evaluated
    exact reading [] rfl reads

/-- `-sqrt(4)*5` is an expression, and `4 sqrt()` is none although it has the value 2. -/
theorem derives_iff_separated_roots :
    let minus : Token := ⟨.operator .minus, "-", ⟨0, 1⟩⟩
    let caller : Token := ⟨.call .sqrt, "sqrt", ⟨1, 5⟩⟩
    let opening : Token := ⟨.openParenthesis, "(", ⟨5, 6⟩⟩
    let four : Token := ⟨.number 4, "4", ⟨6, 7⟩⟩
    let closing : Token := ⟨.closeParenthesis, ")", ⟨7, 8⟩⟩
    let times : Token := ⟨.operator .times, "*", ⟨8, 9⟩⟩
    let five : Token := ⟨.number 5, "5", ⟨9, 10⟩⟩
    (∃ value, evaluate ⟨none, [], 0⟩ [minus, caller, opening, four, closing, times, five] =
        .ok value ∧ value.text = "-10") ∧
      (∃ tree, Derives false .expression
        [minus, caller, opening, four, closing, times, five] tree) ∧
      (∃ value, evaluate ⟨none, [], 0⟩ [four, caller, opening, closing] = .ok value ∧
        value.text = "2") ∧
      ¬∃ tree, Derives false .expression [four, caller, opening, closing] tree := by
  intro minus caller opening four closing times five
  obtain ⟨product, isProduct, productText⟩ : ∃ value, evaluate ⟨none, [], 0⟩
      [minus, caller, opening, four, closing, times, five] = .ok value ∧ value.text = "-10" :=
    exists_ok_of_toOption_map (by decide +kernel)
  obtain ⟨root, isRoot, rootText⟩ : ∃ value, evaluate ⟨none, [], 0⟩
      [four, caller, opening, closing] = .ok value ∧ value.text = "2" :=
    exists_ok_of_toOption_map (by decide +kernel)
  refine ⟨⟨product, isProduct, productText⟩,
    (derives_iff_separated (by decide) isProduct).mpr (by decide), ⟨root, isRoot, rootText⟩, ?_⟩
  intro derives
  exact absurd ((derives_iff_separated (by decide) isRoot).mp derives) (by decide)

/-- An operand too many before `2 +` makes up for the one that is missing behind it. -/
theorem sum_of_superfluous_operand :
    let one : Token := ⟨.number 1, "1", ⟨0, 1⟩⟩
    let two : Token := ⟨.number 2, "2", ⟨2, 3⟩⟩
    let plus : Token := ⟨.operator .plus, "+", ⟨4, 5⟩⟩
    (∃ value, evaluate ⟨none, [], 0⟩ [one, two, plus] = .ok value ∧ value.text = "3") ∧
      ¬∃ tree, Derives false .expression [one, two, plus] tree := by
  intro one two plus
  refine ⟨exists_ok_of_toOption_map (by decide +kernel), ?_⟩
  rintro ⟨tree, derives⟩
  exact absurd (leads_of_derives derives).separated (by decide)

end OperatorStack

end NoteCalc
