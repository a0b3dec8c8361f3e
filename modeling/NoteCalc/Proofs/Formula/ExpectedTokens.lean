import NoteCalc.Proofs.Formula.InfixGrammar

/-!
# What is expected in an expression

Read from the left to the right, an expression lets one thing only come next: an operand, an
operator, the opening parenthesis of a function or the closing one of a running total.  In an
expression every token is the expected one.  The other way round, a beginning that awaits an
operand is completed by any atom, and an operator behind an expression gives such a beginning.
-/

namespace NoteCalc

/-- What comes next in an expression.  Where an operator is expected, the expression may also
end. -/
inductive Expected where
  | operand
  | operator
  | opening (function : NamedFunction)
  | closing
deriving Repr, DecidableEq

namespace Expected

/-- Whether a token is an expected one.  Before an operand there may be a minus. -/
def meets (expected : Expected) (token : Token) : Bool :=
  match expected, token.kind with
  | .operand, .operator sign => sign = .minus
  | .operand, .closeParenthesis => false
  | .operand, _ => true
  | .operator, .operator _ | .operator, .closeParenthesis => true
  | .operator, _ => false
  | .opening _, .openParenthesis => true
  | .opening _, _ => false
  | .closing, .closeParenthesis => true
  | .closing, _ => false

/-- What is expected after a token. -/
def next (expected : Expected) (token : Token) : Expected :=
  match token.kind with
  | .operator _ => .operand
  | .openParenthesis => if expected = .opening .sumAbove then .closing else .operand
  | .call function => .opening function
  | _ => .operator

/-- Whether a token keeps operands apart: if an operator or the end of a running total is expected,
it is that. -/
def allows (expected : Expected) (token : Token) : Bool :=
  match expected with
  | .operator | .closing => expected.meets token
  | .operand | .opening _ => true

/-- Wherever an operator or the end of a running total is expected, it comes. -/
def separated : Expected → List Token → Bool
  | _, [] => true
  | expected, token :: tokens =>
      expected.allows token && separated (expected.next token) tokens

section Tokens

variable {names : Bool} {expected : Expected} {tokens : List Token} {token : Token}

theorem next_of_operator {operator : Operator} (isSign : token.kind = .operator operator) :
    expected.next token = .operand := by
  simp [next, isSign]

theorem next_of_opening (isOpening : token.kind = .openParenthesis)
    (isOther : expected ≠ .opening .sumAbove) : expected.next token = .operand := by
  simp [next, isOpening, isOther]

theorem next_of_openingTotal (isOpening : token.kind = .openParenthesis) :
    (opening .sumAbove).next token = .closing := by
  simp [next, isOpening]

theorem next_of_caller {function : NamedFunction} (isCaller : token.kind = .call function) :
    expected.next token = .opening function := by
  simp [next, isCaller]

theorem next_of_closing (isClosing : token.kind = .closeParenthesis) :
    expected.next token = .operator := by
  simp [next, isClosing]

theorem next_of_isAtom (isAtom : token.isAtom names = true) : expected.next token = .operator := by
  unfold Token.isAtom at isAtom
  unfold next
  cases kind : token.kind <;> simp_all

theorem meets_of_isAtom (isAtom : token.isAtom names = true) :
    expected.meets token = decide (expected = .operand) := by
  unfold Token.isAtom at isAtom
  unfold meets
  cases kind : token.kind <;> cases expected <;> simp_all

theorem allows_of_meets (isMet : expected.meets token = true) : expected.allows token = true := by
  cases expected <;> first | exact isMet | rfl

end Tokens

/-! ## Expressions are what is expected -/

/-- Expected tokens lead from one expectation to another. -/
inductive Leads : Expected → Expected → List Token → Prop where
  | nil (expected : Expected) : Leads expected expected []
  | cons {expected last : Expected} {token : Token} {tokens : List Token}
      (isMet : expected.meets token = true) (rest : Leads (expected.next token) last tokens) :
      Leads expected last (token :: tokens)

variable {first middle last : Expected} {tokens others : List Token}

theorem Leads.single {expected : Expected} {token : Token} (isMet : expected.meets token = true)
    (isNext : expected.next token = last) : Leads expected last [token] := by
  subst isNext
  exact .cons isMet (.nil _)

theorem Leads.append (leads : Leads first middle tokens) (leadsOn : Leads middle last others) :
    Leads first last (tokens ++ others) := by
  induction leads with
  | nil => exact leadsOn
  | cons isMet _ induction => exact .cons isMet (induction leadsOn)

theorem Leads.separated (leads : Leads first last tokens) : first.separated tokens = true := by
  induction leads with
  | nil => rfl
  | cons isMet _ induction =>
      rw [Expected.separated, Bool.and_eq_true]
      exact ⟨allows_of_meets isMet, induction⟩

end Expected

open Expected (Leads)

variable {names : Bool} {category : InfixCategory} {tokens operand : List Token} {sign : Token}

theorem leads_operator {operator : Operator} (isSign : sign.kind = .operator operator) :
    Leads .operator .operand [sign] :=
  .single (by simp [Expected.meets, isSign]) (Expected.next_of_operator isSign)

theorem leads_minus (isSign : sign.kind = .operator .minus) : Leads .operand .operand [sign] :=
  .single (by simp [Expected.meets, isSign]) (Expected.next_of_operator isSign)

theorem leads_parentheses {opening closing : Token} (isOpening : opening.kind = .openParenthesis)
    (inside : Leads .operand .operator tokens) (isClosing : closing.kind = .closeParenthesis) :
    Leads .operand .operator (opening :: tokens ++ [closing]) := by
  have opens : Leads .operand .operand [opening] :=
    .single (by simp [Expected.meets, isOpening]) (Expected.next_of_opening isOpening (by simp))
  have closes : Leads .operator .operator [closing] :=
    .single (by simp [Expected.meets, isClosing]) (Expected.next_of_closing isClosing)
  exact (opens.append inside).append closes

theorem leads_root {caller opening closing : Token} (isCaller : caller.kind = .call .sqrt)
    (isOpening : opening.kind = .openParenthesis) (inside : Leads .operand .operator tokens)
    (isClosing : closing.kind = .closeParenthesis) :
    Leads .operand .operator (caller :: opening :: tokens ++ [closing]) := by
  have calls : Leads .operand (.opening .sqrt) [caller] :=
    .single (by simp [Expected.meets, isCaller]) (Expected.next_of_caller isCaller)
  have opens : Leads (.opening .sqrt) .operand [opening] :=
    .single (by simp [Expected.meets, isOpening]) (Expected.next_of_opening isOpening (by simp))
  have closes : Leads .operator .operator [closing] :=
    .single (by simp [Expected.meets, isClosing]) (Expected.next_of_closing isClosing)
  exact ((calls.append opens).append inside).append closes

theorem leads_total {caller opening closing : Token} (isCaller : caller.kind = .call .sumAbove)
    (isOpening : opening.kind = .openParenthesis) (isClosing : closing.kind = .closeParenthesis) :
    Leads .operand .operator [caller, opening, closing] := by
  have calls : Leads .operand (.opening .sumAbove) [caller] :=
    .single (by simp [Expected.meets, isCaller]) (Expected.next_of_caller isCaller)
  have opens : Leads (.opening .sumAbove) .closing [opening] :=
    .single (by simp [Expected.meets, isOpening]) (Expected.next_of_openingTotal isOpening)
  have closes : Leads .closing .operator [closing] :=
    .single (by simp [Expected.meets, isClosing]) (Expected.next_of_closing isClosing)
  exact (calls.append opens).append closes

/-- An expression, or a part of one, stands where an operand is expected and makes an operator
expected. -/
theorem leads_of_derives {tree : InfixTree} (derives : Derives names category tokens tree) :
    Leads .operand .operator tokens := by
  induction derives with
  | ofTerm _ term => exact term
  | ofFactor _ factor => exact factor
  | factorOfPower _ power => exact power
  | ofAtom _ atom => exact atom
  | exponentOfPower _ power => exact power
  | sum _ isSign _ _ left right => exact left.append ((leads_operator isSign).append right)
  | product _ isSign _ _ left right => exact left.append ((leads_operator isSign).append right)
  | raised _ isSign _ base exponent => exact base.append ((leads_operator isSign).append exponent)
  | negatedFactor isSign _ factor => exact (leads_minus isSign).append factor
  | negatedExponent isSign _ exponent => exact (leads_minus isSign).append exponent
  | operand isAtom =>
      exact .single (by simp [Expected.meets_of_isAtom isAtom]) (Expected.next_of_isAtom isAtom)
  | parentheses isOpening _ isClosing inside => exact leads_parentheses isOpening inside isClosing
  | root isCaller isOpening _ isClosing inside =>
      exact leads_root isCaller isOpening inside isClosing
  | total isCaller isOpening isClosing => exact leads_total isCaller isOpening isClosing

/-! ## Completing a beginning -/

/-- Tokens of a category. -/
def Spells (names : Bool) (category : InfixCategory) (tokens : List Token) : Prop :=
  ∃ tree, Derives names category tokens tree

/-- An atom behind any number of minus signs, which can be a factor and an exponent. -/
structure SignedAtom (names : Bool) (tokens : List Token) : Prop where
  factor : Spells names .factor tokens
  exponent : Spells names .exponent tokens

theorem Spells.signedAtom (atom : Spells names .atom tokens) : SignedAtom names tokens := by
  obtain ⟨tree, derives⟩ := atom
  exact ⟨⟨tree, .factorOfPower (.ofAtom derives)⟩, ⟨tree, .exponentOfPower (.ofAtom derives)⟩⟩

theorem SignedAtom.negated (isSign : sign.kind = .operator .minus)
    (signed : SignedAtom names tokens) : SignedAtom names (sign :: tokens) := by
  obtain ⟨⟨factor, isFactor⟩, ⟨exponent, isExponent⟩⟩ := signed
  exact ⟨⟨_, .negatedFactor isSign isFactor⟩, ⟨_, .negatedExponent isSign isExponent⟩⟩

/-- Whatever is more than an atom may end in a power: its last atom becomes the base, or the
exponent that it ends in is raised further. -/
theorem Spells.raised {tree : InfixTree} (derives : Derives names category tokens tree)
    (isWhole : category ≠ .atom) (isSign : sign.kind = .operator .power)
    (exponent : Spells names .exponent operand) :
    Spells names category (tokens ++ sign :: operand) := by
  obtain ⟨exponentTree, isExponent⟩ := exponent
  induction derives with
  | ofTerm _ term => exact (term (by decide)).imp fun _ => .ofTerm
  | ofFactor _ factor => exact (factor (by decide)).imp fun _ => .ofFactor
  | factorOfPower _ power => exact (power (by decide)).imp fun _ => .factorOfPower
  | exponentOfPower _ power => exact (power (by decide)).imp fun _ => .exponentOfPower
  | ofAtom atom => exact ⟨_, .raised atom isSign isExponent⟩
  | sum left isOperator additive _ _ right =>
      obtain ⟨raised, isRaised⟩ := right (by decide)
      rw [List.append_assoc, List.cons_append]
      exact ⟨_, .sum left isOperator additive isRaised⟩
  | product left isOperator multiplicative _ _ right =>
      obtain ⟨raised, isRaised⟩ := right (by decide)
      rw [List.append_assoc, List.cons_append]
      exact ⟨_, .product left isOperator multiplicative isRaised⟩
  | raised base isPower _ _ exponent =>
      obtain ⟨raised, isRaised⟩ := exponent (by decide)
      rw [List.append_assoc, List.cons_append]
      exact ⟨_, .raised base isPower isRaised⟩
  | negatedFactor isMinus _ factor =>
      obtain ⟨raised, isRaised⟩ := factor (by decide)
      exact ⟨_, .negatedFactor isMinus isRaised⟩
  | negatedExponent isMinus _ exponent =>
      obtain ⟨raised, isRaised⟩ := exponent (by decide)
      exact ⟨_, .negatedExponent isMinus isRaised⟩
  | operand | parentheses | root | total => exact absurd rfl isWhole

theorem Spells.multiplied {operator : Operator} (expression : Spells names .expression tokens)
    (isSign : sign.kind = .operator operator) (multiplicative : operator.precedence = 2)
    (factor : Spells names .factor operand) :
    Spells names .expression (tokens ++ sign :: operand) := by
  obtain ⟨tree, derives⟩ := expression
  obtain ⟨factorTree, isFactor⟩ := factor
  -- The last term of a sum is the one that is multiplied.
  cases derives with
  | ofTerm term => exact ⟨_, .ofTerm (.product term isSign multiplicative isFactor)⟩
  | sum left isOperator additive right =>
      rw [List.append_assoc, List.cons_append]
      exact ⟨_, .sum left isOperator additive (.product right isSign multiplicative isFactor)⟩

/-- Any operator joins an expression and a signed atom to an expression. -/
theorem Spells.joined {operator : Operator} (expression : Spells names .expression tokens)
    (isSign : sign.kind = .operator operator) (signed : SignedAtom names operand) :
    Spells names .expression (tokens ++ sign :: operand) := by
  match operator with
  | .plus | .minus =>
      obtain ⟨tree, derives⟩ := expression
      obtain ⟨factorTree, isFactor⟩ := signed.factor
      exact ⟨_, .sum derives isSign rfl (.ofFactor isFactor)⟩
  | .times | .over => exact expression.multiplied isSign rfl signed.factor
  | .power =>
      obtain ⟨tree, derives⟩ := expression
      exact Spells.raised derives (by decide) isSign signed.exponent

/-- Every signed atom completes the tokens to an expression. -/
def AwaitsOperand (names : Bool) (tokens : List Token) : Prop :=
  ∀ operand, SignedAtom names operand → Spells names .expression (tokens ++ operand)

theorem awaitsOperand_nil : AwaitsOperand names [] := by
  intro operand signed
  obtain ⟨tree, derives⟩ := signed.factor
  exact ⟨tree, .ofTerm (.ofFactor derives)⟩

theorem AwaitsOperand.completed (awaits : AwaitsOperand names tokens)
    (atom : Spells names .atom operand) : Spells names .expression (tokens ++ operand) :=
  awaits operand atom.signedAtom

theorem AwaitsOperand.minus (awaits : AwaitsOperand names tokens)
    (isSign : sign.kind = .operator .minus) : AwaitsOperand names (tokens ++ [sign]) := by
  intro operand signed
  rw [List.append_assoc]
  exact awaits (sign :: operand) (signed.negated isSign)

theorem Spells.awaitsOperand {operator : Operator} (expression : Spells names .expression tokens)
    (isSign : sign.kind = .operator operator) : AwaitsOperand names (tokens ++ [sign]) := by
  intro operand signed
  rw [List.append_assoc]
  exact expression.joined isSign signed

end NoteCalc
