import NoteCalc.Formula.OperatorStack

/-!
# The infix grammar

Formulas have the usual grammar of sums of products of factors.  A minus in front of a factor
binds less tightly than a power: its operand may be a power, but the base of a power is never
negated without parentheses.  An exponent may be negated, and powers associate to the right.  The
value of a tree is computed by recursion, from the left to the right.
-/

namespace NoteCalc

/-- A formula whose structure is known. -/
inductive InfixTree where
  | operand (token : Token)
  | total
  | root (argument : InfixTree)
  | negation (argument : InfixTree)
  | binary (operator : Operator) (left right : InfixTree)

namespace InfixTree

/-- The square root of a plain number that is not negative. -/
def squareRoot (argument : Quantity Float) : Except EvaluationError (Quantity Float) :=
  if argument.measure.isSome then .error (.measuredArgument argument.text)
  else if argument.amount < 0 then .error .negativeArgument
  else .ok ⟨argument.amount.sqrt, none⟩

/-- The value of a tree. -/
def value (surroundings : Surroundings) : InfixTree → Except EvaluationError (Quantity Float)
  | .operand token => surroundings.operand token
  | .total => .ok surroundings.total
  | .root argument => argument.value surroundings >>= squareRoot
  | .negation argument => (argument.value surroundings).map Quantity.negate
  | .binary operator left right => do
      let leftValue ← left.value surroundings
      let rightValue ← right.value surroundings
      (operator.apply leftValue rightValue).mapError .unit

end InfixTree

/-- The categories of the grammar. -/
inductive InfixCategory where
  | expression
  | term
  | factor
  | power
  | exponent
  | atom
deriving Repr, DecidableEq

/-- Whether a token is an atom on its own.  Names are atoms only if they are not prose. -/
def Token.isAtom (names : Bool) (token : Token) : Bool :=
  match token.kind with
  | .number _ | .amount .. | .reference _ => true
  | .identifier _ => names
  | _ => false

/-- The tokens of a category, with the tree that they spell. -/
inductive Derives (names : Bool) : InfixCategory → List Token → InfixTree → Prop where
  | ofTerm {tokens : List Token} {tree : InfixTree} (term : Derives names .term tokens tree) :
      Derives names .expression tokens tree
  | sum {left right : List Token} {leftTree rightTree : InfixTree} {operator : Operator}
      {sign : Token} (isLeft : Derives names .expression left leftTree)
      (isSign : sign.kind = .operator operator) (additive : operator.precedence = 1)
      (isRight : Derives names .term right rightTree) :
      Derives names .expression (left ++ sign :: right) (.binary operator leftTree rightTree)
  | ofFactor {tokens : List Token} {tree : InfixTree}
      (factor : Derives names .factor tokens tree) : Derives names .term tokens tree
  | product {left right : List Token} {leftTree rightTree : InfixTree} {operator : Operator}
      {sign : Token} (isLeft : Derives names .term left leftTree)
      (isSign : sign.kind = .operator operator) (multiplicative : operator.precedence = 2)
      (isRight : Derives names .factor right rightTree) :
      Derives names .term (left ++ sign :: right) (.binary operator leftTree rightTree)
  | negatedFactor {tokens : List Token} {tree : InfixTree} {sign : Token}
      (isSign : sign.kind = .operator .minus) (factor : Derives names .factor tokens tree) :
      Derives names .factor (sign :: tokens) (.negation tree)
  | factorOfPower {tokens : List Token} {tree : InfixTree}
      (power : Derives names .power tokens tree) : Derives names .factor tokens tree
  | ofAtom {tokens : List Token} {tree : InfixTree} (atom : Derives names .atom tokens tree) :
      Derives names .power tokens tree
  | raised {base tokens : List Token} {baseTree tree : InfixTree} {sign : Token}
      (isBase : Derives names .atom base baseTree) (isSign : sign.kind = .operator .power)
      (isExponent : Derives names .exponent tokens tree) :
      Derives names .power (base ++ sign :: tokens) (.binary .power baseTree tree)
  | negatedExponent {tokens : List Token} {tree : InfixTree} {sign : Token}
      (isSign : sign.kind = .operator .minus) (exponent : Derives names .exponent tokens tree) :
      Derives names .exponent (sign :: tokens) (.negation tree)
  | exponentOfPower {tokens : List Token} {tree : InfixTree}
      (power : Derives names .power tokens tree) : Derives names .exponent tokens tree
  | operand {token : Token} (isAtom : token.isAtom names = true) :
      Derives names .atom [token] (.operand token)
  | parentheses {tokens : List Token} {tree : InfixTree} {opening closing : Token}
      (isOpening : opening.kind = .openParenthesis)
      (inside : Derives names .expression tokens tree)
      (isClosing : closing.kind = .closeParenthesis) :
      Derives names .atom (opening :: tokens ++ [closing]) tree
  | root {tokens : List Token} {tree : InfixTree} {caller opening closing : Token}
      (isCaller : caller.kind = .call .sqrt) (isOpening : opening.kind = .openParenthesis)
      (inside : Derives names .expression tokens tree)
      (isClosing : closing.kind = .closeParenthesis) :
      Derives names .atom (caller :: opening :: tokens ++ [closing]) (.root tree)
  | total {caller opening closing : Token} (isCaller : caller.kind = .call .sumAbove)
      (isOpening : opening.kind = .openParenthesis)
      (isClosing : closing.kind = .closeParenthesis) :
      Derives names .atom [caller, opening, closing] .total

end NoteCalc
