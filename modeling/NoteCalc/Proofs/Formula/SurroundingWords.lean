import Mathlib.Data.List.TakeWhile
import NoteCalc.Proofs.Formula.CandidateSearch

/-!
# Words around a formula

Where names are prose, words before and after a formula do not change its value.  A formula that
computes still does with words around it, so that the first candidate of the search, which is the
whole line, has its value already.  Any other formula is a value alone, a conversion or a share.
Words make nothing that looks like a formula out of these, and no candidate before the formula
itself has a value.
-/

namespace NoteCalc

namespace Token

variable {tokens : List Token} {token : Token}

/-- All tokens are words. -/
def AllWords (tokens : List Token) : Prop :=
  ∀ token ∈ tokens, token.isVariable = true

instance (tokens : List Token) : Decidable (AllWords tokens) :=
  inferInstanceAs (Decidable (∀ token ∈ tokens, token.isVariable = true))

theorem exists_name_of_word (word : token.isVariable = true) :
    ∃ name, token.kind = .identifier name := by
  unfold isVariable at word
  split at word
  · rename_i name kind
    exact ⟨name, kind⟩
  · exact absurd word (by simp)

/-- A token is a value without a measure and nothing else. -/
structure OnlyValue (token : Token) : Prop where
  operand : token.isOperand = true
  operator : token.isOperator = false
  call : token.isCall = false
  conversion : token.isConversion = false
  isOf : token.isOf = false
  measure : token.measure? = none
  fraction : token.fraction? = none

theorem onlyValue_of_word (word : token.isVariable = true) : token.OnlyValue := by
  obtain ⟨name, kind⟩ := exists_name_of_word word
  constructor <;>
    simp [isOperand, isOperator, isCall, isConversion, isOf, measure?, fraction?, kind]

theorem exists_amount_of_measure? (measured : token.measure?.isSome = true) :
    ∃ amount measure, token.kind = .amount amount measure := by
  unfold measure? at measured
  split at measured
  · rename_i amount measure kind
    exact ⟨amount, measure, kind⟩
  · exact absurd measured (by simp)

theorem exists_amount_of_fraction? (isFraction : token.fraction?.isSome = true) :
    ∃ amount measure, token.kind = .amount amount measure := by
  unfold fraction? at isFraction
  split at isFraction
  · rename_i amount kind
    exact ⟨amount, _, kind⟩
  · exact absurd isFraction (by simp)

theorem kind_of_isTo (isTo : token.isTo = true) : token.kind = .to := by
  unfold Token.isTo at isTo
  split at isTo
  · assumption
  · exact absurd isTo (by simp)

theorem kind_of_isOf (isOf : token.isOf = true) : token.kind = .of := by
  unfold Token.isOf at isOf
  split at isOf
  · assumption
  · exact absurd isOf (by simp)

theorem isOperand_of_measure? (measured : token.measure?.isSome = true) :
    token.isOperand = true := by
  obtain ⟨amount, measure, kind⟩ := exists_amount_of_measure? measured
  simp [isOperand, kind]

theorem isOperand_of_fraction? (isFraction : token.fraction?.isSome = true) :
    token.isOperand = true := by
  obtain ⟨amount, measure, kind⟩ := exists_amount_of_fraction? isFraction
  simp [isOperand, kind]

/-- A token is neither a function nor an operator. -/
def IsPlain (token : Token) : Prop :=
  token.isCall = false ∧ token.isOperator = false

theorem isPlain_of_isOperand (isOperand : token.isOperand = true) : token.IsPlain := by
  unfold Token.isOperand at isOperand
  unfold IsPlain isCall isOperator
  cases kind : token.kind <;> simp [kind] at isOperand ⊢

theorem isPlain_of_isConversion (converts : token.isConversion = true) : token.IsPlain := by
  unfold isConversion at converts
  unfold IsPlain isCall isOperator
  cases kind : token.kind <;> simp [kind] at converts ⊢

theorem isPlain_of_isOf (isOf : token.isOf = true) : token.IsPlain := by
  have kind := kind_of_isOf isOf
  simp [IsPlain, isCall, isOperator, kind]

theorem isConversion_of_isTo (isTo : token.isTo = true) : token.isConversion = true := by
  simp [isConversion, kind_of_isTo isTo]

theorem isConversion_of_isOperand (isOperand : token.isOperand = true) :
    token.isConversion = false := by
  unfold Token.isOperand at isOperand
  unfold isConversion
  cases kind : token.kind <;> simp [kind] at isOperand ⊢

end Token

open Token (AllWords)

variable {surroundings : Surroundings} {tokens before after : List Token}

/-! ## Values between words -/

namespace OperatorStack

theorem foldlM_step_words (prose : surroundings.bindings = none) (words : AllWords tokens)
    (stack : OperatorStack) : tokens.foldlM (step surroundings) stack = .ok stack := by
  induction tokens with
  | nil => rfl
  | cons word tokens induction =>
      obtain ⟨isWord, others⟩ := List.forall_mem_cons.mp words
      obtain ⟨name, kind⟩ := Token.exists_name_of_word isWord
      have passes : step surroundings stack word = .ok stack := by
        simp [step, kind, prose]
      rw [List.foldlM_cons, passes]
      exact induction others

theorem evaluate_between_words (prose : surroundings.bindings = none)
    (wordsBefore : AllWords before) (wordsAfter : AllWords after) :
    evaluate surroundings (before ++ tokens ++ after) = evaluate surroundings tokens := by
  have passed : (before ++ tokens ++ after).foldlM (step surroundings) {} =
      tokens.foldlM (step surroundings) {} := by
    rw [List.foldlM_append, List.foldlM_append, foldlM_step_words prose wordsBefore]
    simp only [foldlM_step_words prose wordsAfter]
    exact bind_pure _
  unfold evaluate
  rw [passed]

end OperatorStack

namespace Formula

theorem isOther_of_words (words : AllWords tokens) :
    ∀ token ∈ tokens, (!token.isConversion) = true := by
  intro token member
  rw [(Token.onlyValue_of_word (words token member)).conversion]
  rfl

theorem targets_between_words (wordsBefore : AllWords before) (wordsAfter : AllWords after) :
    ((before ++ tokens ++ after).dropWhile fun token => !token.isConversion).tail.findSome?
        Token.measure? =
      (tokens.dropWhile fun token => !token.isConversion).tail.findSome? Token.measure? := by
  have noTarget : after.findSome? Token.measure? = none :=
    List.findSome?_eq_none_iff.mpr fun token member =>
      (Token.onlyValue_of_word (wordsAfter token member)).measure
  rw [List.append_assoc, List.dropWhile_append_of_pos (isOther_of_words wordsBefore),
    List.dropWhile_append, List.dropWhile_eq_nil_iff.mpr (isOther_of_words wordsAfter)]
  cases tokens.dropWhile fun token => !token.isConversion with
  | nil => rfl
  | cons keyword behind => simp [noTarget]

theorem evaluate_takeWhile_between_words (prose : surroundings.bindings = none)
    (wordsBefore : AllWords before) (wordsAfter : AllWords after) :
    OperatorStack.evaluate surroundings
        ((before ++ tokens ++ after).takeWhile fun token => !token.isConversion) =
      OperatorStack.evaluate surroundings
        (tokens.takeWhile fun token => !token.isConversion) := by
  have wordsTaken : AllWords (after.takeWhile fun token => !token.isConversion) :=
    fun token member => wordsAfter token ((List.takeWhile_prefix _).subset member)
  have noWords : AllWords [] := fun _ member => absurd member List.not_mem_nil
  rw [List.append_assoc, List.takeWhile_append_of_pos (isOther_of_words wordsBefore),
    List.takeWhile_append]
  split
  · rename_i whole
    rw [(List.takeWhile_prefix _).eq_of_length whole, ← List.append_assoc]
    exact OperatorStack.evaluate_between_words prose wordsBefore wordsTaken
  · have evaluated := @OperatorStack.evaluate_between_words _
      (tokens.takeWhile fun token => !token.isConversion) _ _ prose wordsBefore noWords
    rwa [List.append_nil] at evaluated

theorem expression_between_words (prose : surroundings.bindings = none)
    (wordsBefore : AllWords before) (wordsAfter : AllWords after) :
    expression surroundings (before ++ tokens ++ after) = expression surroundings tokens := by
  unfold expression splitConversion
  simp only [targets_between_words wordsBefore wordsAfter]
  split
  · rw [evaluate_takeWhile_between_words prose wordsBefore wordsAfter]
  · rw [OperatorStack.evaluate_between_words prose wordsBefore wordsAfter]

/-! ## What looks like a formula -/

/-- Whether tokens hold a function, or a value and an operator. -/
def computes (tokens : List Token) : Bool :=
  tokens.any Token.isCall || (tokens.any Token.isOperator && tokens.any Token.isOperand)

/-- The forms of a formula. -/
inductive Form : List Token → Prop where
  | operand {token : Token} (isOperand : token.isOperand = true) : Form [token]
  | conversion {first middle last : Token} (converts : isConversion first middle last = true) :
      Form [first, middle, last]
  | share {first middle last : Token} (shares : isShare first middle last = true) :
      Form [first, middle, last]
  | computation {tokens : List Token} (long : 2 ≤ tokens.length)
      (computing : computes tokens = true) : Form tokens

theorem looksEvaluable_of_three (first middle last : Token) :
    looksEvaluable [first, middle, last] =
      (isConversion first middle last || isShare first middle last ||
        computes [first, middle, last]) :=
  Bool.or_assoc ..

/-- What looks like a formula has one of the forms. -/
theorem looksEvaluable_iff : looksEvaluable tokens = true ↔ Form tokens := by
  constructor
  · intro looks
    match tokens with
    | [token] => exact .operand looks
    | [first, middle, last] =>
        rw [looksEvaluable_of_three] at looks
        rcases Bool.or_eq_true_iff.mp looks with short | computing
        · rcases Bool.or_eq_true_iff.mp short with converts | shares
          · exact .conversion converts
          · exact .share shares
        · exact .computation (by simp) computing
    | [first, second] => exact .computation (by simp) looks
    | first :: second :: third :: fourth :: rest => exact .computation (by simp) looks
  · intro form
    cases form with
    | operand isOperand => exact isOperand
    | conversion converts => simp [looksEvaluable_of_three, converts]
    | share shares => simp [looksEvaluable_of_three, shares]
    | computation long computing =>
        match tokens with
        | [first, middle, last] => simp [looksEvaluable_of_three, computing]
        | [first, second] => exact computing
        | first :: second :: third :: fourth :: rest => exact computing

/-! ## Formulas that compute -/

/-- The two forms of three tokens that have values of their own kinds. -/
inductive Special : List Token → Prop where
  | conversion {first middle last : Token} (isAmount : first.measure?.isSome = true)
      (isTo : middle.isTo = true) (isTarget : last.measure?.isSome = true) :
      Special [first, middle, last]
  | share {first middle last : Token} (isFraction : first.fraction?.isSome = true)
      (isOf : middle.isOf = true) : Special [first, middle, last]

theorem Special.exists_three (special : Special tokens) :
    ∃ first middle last, tokens = [first, middle, last] := by
  cases special <;> exact ⟨_, _, _, rfl⟩

theorem value_eq_expression (general : ¬Special tokens) :
    value surroundings tokens = expression surroundings tokens := by
  unfold value
  split
  · rename_i first middle last
    split
    · rename_i amount source target isAmount isTo isTarget
      exact absurd (.conversion (by simp [Token.measure?, isAmount]) isTo (by simp [isTarget]))
        general
    · rename_i fraction isFraction isOf _
      exact absurd (.share (by simp [isFraction]) isOf) general
    · rfl
  · rfl

theorem Special.isPlain {first middle last : Token} (special : Special [first, middle, last]) :
    first.IsPlain ∧ middle.IsPlain := by
  cases special with
  | conversion isAmount isTo =>
      exact ⟨Token.isPlain_of_isOperand (Token.isOperand_of_measure? isAmount),
        Token.isPlain_of_isConversion (Token.isConversion_of_isTo isTo)⟩
  | share isFraction isOf =>
      exact ⟨Token.isPlain_of_isOperand (Token.isOperand_of_fraction? isFraction),
        Token.isPlain_of_isOf isOf⟩

theorem Special.not_word_first {first middle last : Token}
    (special : Special [first, middle, last]) : first.isVariable ≠ true := by
  intro word
  have plain := Token.onlyValue_of_word word
  cases special with
  | conversion isAmount => simp [plain.measure] at isAmount
  | share isFraction => simp [plain.fraction] at isFraction

/-- A special form that computes has no value in its last place. -/
theorem Special.isOperand_last {first middle last : Token}
    (special : Special [first, middle, last])
    (computing : computes [first, middle, last] = true) : last.isOperand = false := by
  obtain ⟨⟨noCall, noOperator⟩, noCallToo, noOperatorToo⟩ := special.isPlain
  refine Bool.eq_false_iff.mpr fun isOperand => ?_
  obtain ⟨noCallEither, noOperatorEither⟩ := Token.isPlain_of_isOperand isOperand
  simp [computes, noCall, noOperator, noCallToo, noOperatorToo, noCallEither,
    noOperatorEither] at computing

theorem Special.value_eq_error {first middle last : Token}
    (special : Special [first, middle, last]) (noOperand : last.isOperand = false) :
    value surroundings [first, middle, last] = .error (.notAValue last) := by
  cases special with
  | conversion isAmount isTo isTarget =>
      rw [Token.isOperand_of_measure? isTarget] at noOperand
      exact absurd noOperand (by simp)
  | share isFraction isOf =>
      obtain ⟨_, _, isAmount⟩ := Token.exists_amount_of_fraction? isFraction
      obtain ⟨fraction, isShare⟩ := Option.isSome_iff_exists.mp isFraction
      have noTo : middle.isTo = false := by simp [Token.isTo, Token.kind_of_isOf isOf]
      have fails : surroundings.operand last = .error (.notAValue last) := by
        unfold Surroundings.operand
        cases kind : last.kind <;> simp [Token.isOperand, kind] at noOperand ⊢
      simp only [value, isAmount, noTo, isShare, isOf, fails]
      rfl

/-- What computes and has a value has it as an expression. -/
theorem expression_of_computing (computing : computes tokens = true) {result : Quantity Float}
    (valued : value surroundings tokens = .ok result) :
    expression surroundings tokens = .ok result := by
  by_cases special : Special tokens
  · obtain ⟨first, middle, last, rfl⟩ := special.exists_three
    rw [special.value_eq_error (special.isOperand_last computing)] at valued
    exact absurd valued (by simp)
  · rwa [value_eq_expression special] at valued

theorem computes_between_words (computing : computes tokens = true) (before after : List Token) :
    computes (before ++ tokens ++ after) = true := by
  unfold computes at computing ⊢
  simp only [List.any_append, Bool.or_eq_true, Bool.and_eq_true] at computing ⊢
  rcases computing with calls | ⟨operates, valued⟩
  · exact .inl (.inl (.inr calls))
  · exact .inr ⟨.inl (.inr operates), .inl (.inr valued)⟩

/-- A special form that computes neither starts nor ends with a word. -/
theorem not_special_between_words (wordsBefore : AllWords before) (wordsAfter : AllWords after)
    (computing : computes tokens = true) (between : before ≠ [] ∨ after ≠ []) :
    ¬Special (before ++ tokens ++ after) := by
  intro special
  have computingToo := computes_between_words computing before after
  obtain ⟨first, middle, last, whole⟩ := special.exists_three
  rw [whole] at special computingToo
  rcases between with nonempty | nonempty
  · obtain ⟨word, words, rfl⟩ := List.exists_cons_of_ne_nil nonempty
    have isFirst : word = first := (List.cons.inj whole).1
    exact special.not_word_first (isFirst ▸ wordsBefore word (List.mem_cons_self ..))
  · obtain ⟨words, word, rfl⟩ := (List.eq_nil_or_concat after).resolve_left nonempty
    have isLast : word = last := by simpa using congrArg List.getLast? whole
    have isOperand := (Token.onlyValue_of_word (wordsAfter word (by simp))).operand
    rw [isLast, special.isOperand_last computingToo] at isOperand
    exact absurd isOperand (by simp)

/-- A formula that computes has the same value with words around it. -/
theorem value_between_words (prose : surroundings.bindings = none)
    (wordsBefore : AllWords before) (wordsAfter : AllWords after)
    (computing : computes tokens = true) {result : Quantity Float}
    (valued : value surroundings tokens = .ok result) :
    value surroundings (before ++ tokens ++ after) = .ok result := by
  by_cases between : before ≠ [] ∨ after ≠ []
  · rw [value_eq_expression (not_special_between_words wordsBefore wordsAfter computing between),
      expression_between_words prose wordsBefore wordsAfter]
    exact expression_of_computing computing valued
  · obtain ⟨rfl, rfl⟩ : before = [] ∧ after = [] := by simpa using between
    rwa [List.nil_append, List.append_nil]

/-! ## Formulas that do not compute -/

/-- No token is a function or an operator. -/
def AllPlain (tokens : List Token) : Prop :=
  ∀ token ∈ tokens, token.IsPlain

theorem allPlain_of_words (words : AllWords tokens) : AllPlain tokens :=
  fun token member =>
    Token.isPlain_of_isOperand (Token.onlyValue_of_word (words token member)).operand

theorem AllPlain.append {others : List Token} (plain : AllPlain tokens)
    (plainToo : AllPlain others) : AllPlain (tokens ++ others) :=
  List.forall_mem_append.mpr ⟨plain, plainToo⟩

theorem AllPlain.computes_eq_false (plain : AllPlain tokens) : computes tokens = false := by
  have noCall : tokens.any Token.isCall = false :=
    List.any_eq_false.mpr fun token member => by simp [(plain token member).1]
  have noOperator : tokens.any Token.isOperator = false :=
    List.any_eq_false.mpr fun token member => by simp [(plain token member).2]
  simp [computes, noCall, noOperator]

/-- A formula that does not compute starts with a value, and is plain. -/
theorem Form.starts {token : Token} (form : Form (token :: tokens))
    (noComputation : computes (token :: tokens) = false) :
    token.isOperand = true ∧ AllPlain (token :: tokens) := by
  cases form with
  | operand isOperand =>
      exact ⟨isOperand, List.forall_mem_singleton.mpr (Token.isPlain_of_isOperand isOperand)⟩
  | @conversion _ middle last converts =>
      simp only [Formula.isConversion, Bool.and_eq_true, Bool.or_eq_true] at converts
      obtain ⟨⟨isOperand, isKeyword⟩, isTarget⟩ := converts
      have isLast : last.isOperand = true := by
        rcases isTarget with measured | word
        · exact Token.isOperand_of_measure? measured
        · exact (Token.onlyValue_of_word word).operand
      refine ⟨isOperand, ?_⟩
      simp only [AllPlain, List.forall_mem_cons, List.not_mem_nil, false_implies, implies_true,
        and_true]
      exact ⟨Token.isPlain_of_isOperand isOperand, Token.isPlain_of_isConversion isKeyword,
        Token.isPlain_of_isOperand isLast⟩
  | share shares =>
      simp only [isShare, Bool.and_eq_true] at shares
      obtain ⟨⟨isFraction, isOf⟩, isLast⟩ := shares
      have isOperand := Token.isOperand_of_fraction? isFraction
      refine ⟨isOperand, ?_⟩
      simp only [AllPlain, List.forall_mem_cons, List.not_mem_nil, false_implies, implies_true,
        and_true]
      exact ⟨Token.isPlain_of_isOperand isOperand, Token.isPlain_of_isOf isOf,
        Token.isPlain_of_isOperand isLast⟩
  | computation _ computing =>
      rw [noComputation] at computing
      exact absurd computing (by simp)

theorem AllPlain.not_computes (plain : AllPlain tokens) : computes tokens ≠ true := by
  simp [plain.computes_eq_false]

/-- Words behind a formula that does not compute leave no formula. -/
theorem Form.not_form_append (form : Form tokens) (plain : AllPlain tokens)
    (words : AllWords after) (nonempty : after ≠ []) : ¬Form (tokens ++ after) := by
  intro longer
  have plainToo := plain.append (allPlain_of_words words)
  obtain ⟨word, others, rfl⟩ := List.exists_cons_of_ne_nil nonempty
  have isWord := Token.onlyValue_of_word (words word (List.mem_cons_self ..))
  cases form with
  | operand =>
      cases longer with
      | conversion converts => simp [isConversion, isWord.conversion] at converts
      | share shares => simp [isShare, isWord.isOf] at shares
      | computation long computing => exact plainToo.not_computes computing
  | conversion =>
      cases longer with
      | computation long computing => exact plainToo.not_computes computing
  | share =>
      cases longer with
      | computation long computing => exact plainToo.not_computes computing
  | computation long computing => exact plain.not_computes computing

/-- A formula that does not compute starts with a word only if it is a word. -/
theorem Form.eq_nil_of_word {word : Token} (form : Form (word :: tokens))
    (isWord : word.isVariable = true) (plain : AllPlain (word :: tokens))
    (next : ∀ token ∈ tokens.head?, token.isConversion = false) : tokens = [] := by
  have onlyValue := Token.onlyValue_of_word isWord
  cases form with
  | operand => rfl
  | @conversion _ middle last converts =>
      have noConversion := next middle rfl
      simp [isConversion, noConversion] at converts
  | share shares => simp [isShare, onlyValue.fraction] at shares
  | computation long computing => exact absurd computing plain.not_computes

/-! ## The search -/

variable {line run : List Token} {result : Quantity Float}

theorem exists_error_of_word (prose : surroundings.bindings = none) {word : Token}
    (isWord : word.isVariable = true) : ∃ error, value surroundings [word] = .error error := by
  have noWords : AllWords [] := fun _ member => absurd member List.not_mem_nil
  have words : AllWords [word] := List.forall_mem_singleton.mpr isWord
  have nothing := @expression_between_words surroundings [] [word] [] prose words noWords
  exact ⟨.severalValues 0, nothing⟩

theorem valued_of_form (prose : surroundings.bindings = none) (form : Form tokens)
    (isValue : value surroundings tokens = .ok result) : Valued surroundings tokens :=
  ⟨⟨looksEvaluable_iff.mpr form, by simp [namesBound, prose]⟩, result, isValue⟩

/-- A run that starts with a word and does not compute has no value. -/
theorem not_valued_of_word (prose : surroundings.bindings = none) {word : Token}
    (isWord : word.isVariable = true) (plain : AllPlain (word :: tokens))
    (next : ∀ token ∈ tokens.head?, token.isConversion = false)
    (leading : run <+: word :: tokens) : ¬Valued surroundings run := by
  rintro ⟨candidate, result, isValue⟩
  have form := looksEvaluable_iff.mp candidate.looks
  rcases List.prefix_cons_iff.mp leading with rfl | ⟨others, rfl, isPrefix⟩
  · exact absurd candidate.looks (by simp [looksEvaluable])
  · have plainRun : AllPlain (word :: others) :=
      fun token member => plain token (leading.subset member)
    have nextInRun : ∀ token ∈ others.head?, token.isConversion = false := by
      obtain ⟨tail, rfl⟩ := isPrefix
      cases others with
      | nil => simp
      | cons second others => exact next
    obtain ⟨error, fails⟩ := exists_error_of_word prose isWord
    rw [form.eq_nil_of_word isWord plainRun nextInRun, fails] at isValue
    exact absurd isValue (by simp)

theorem head_not_conversion_of_words (words : AllWords before)
    (next : ∀ token ∈ tokens.head?, token.isConversion = false) :
    ∀ token ∈ (before ++ tokens).head?, token.isConversion = false := by
  cases before with
  | nil => exact next
  | cons word before =>
      intro token isHead
      obtain rfl : word = token := by simpa using isHead
      exact (Token.onlyValue_of_word (words word (List.mem_cons_self ..))).conversion

/-- The search passes over words before tokens that do not compute. -/
theorem search_of_words (prose : surroundings.bindings = none)
    (whole : Candidate surroundings line → Valued surroundings line)
    (words : AllWords before) (plain : AllPlain tokens)
    (next : ∀ token ∈ tokens.head?, token.isConversion = false)
    (within : before ++ tokens <:+: line) :
    (search surroundings line (before ++ tokens)).value =
      (search surroundings line tokens).value := by
  induction before with
  | nil => rfl
  | cons word before induction =>
      obtain ⟨isWord, others⟩ := List.forall_mem_cons.mp words
      have plainToo : AllPlain (word :: (before ++ tokens)) :=
        (allPlain_of_words words).append plain
      have notFinal : ∀ run, run <+: word :: (before ++ tokens) →
          NotFinal surroundings line run :=
        fun run leading => notFinal_of_isInfix whole (leading.isInfix.trans within)
      rw [List.cons_append, search]
      rcases searchLeading_cases notFinal ((before ++ tokens).length + 1) with
        ⟨run, result, longest, -, -⟩ | ⟨notFound, -⟩
      · exact absurd longest.valued (not_valued_of_word prose isWord plainToo
          (head_not_conversion_of_words others next) longest.leading)
      · simp only [notFound, Outcome.after]
        exact induction others ((List.suffix_cons ..).isInfix.trans within)

theorem Form.ne_nil (form : Form tokens) : tokens ≠ [] := by
  rintro rfl
  cases form with
  | computation long => exact absurd long (by simp)

/-- Of the runs that go on from a formula into the words behind it, only the formula itself looks
like one. -/
theorem Form.eq_of_leading (form : Form tokens) (plain : AllPlain tokens) (words : AllWords after)
    (formToo : Form run) (leading : run <+: tokens ++ after)
    (longer : tokens.length ≤ run.length) : run = tokens := by
  have goesOn : tokens <+: run :=
    List.prefix_of_prefix_length_le (List.prefix_append ..) leading longer
  obtain ⟨extra, rfl⟩ := goesOn
  have within : extra <+: after := (List.prefix_append_right_inj tokens).mp leading
  have extraWords : AllWords extra := fun token member => words token (within.subset member)
  by_cases nothing : extra = []
  · rw [nothing, List.append_nil]
  · exact absurd formToo (form.not_form_append plain extraWords nothing)

/-- The search finds a formula that does not compute, whatever words follow. -/
theorem search_of_form (prose : surroundings.bindings = none)
    (whole : Candidate surroundings line → Valued surroundings line)
    (form : Form tokens) (plain : AllPlain tokens) (words : AllWords after)
    (isValue : value surroundings tokens = .ok result) (within : tokens ++ after <:+: line) :
    (search surroundings line (tokens ++ after)).value = some result := by
  have valued : Valued surroundings tokens := valued_of_form prose form isValue
  have notFinal : ∀ run, run <+: tokens ++ after → NotFinal surroundings line run :=
    fun run leading => notFinal_of_isInfix whole (leading.isInfix.trans within)
  obtain ⟨first, others, rfl⟩ := List.exists_cons_of_ne_nil form.ne_nil
  have isLeading : first :: others <+: first :: others ++ after := List.prefix_append ..
  have short : (first :: others).length ≤ (others ++ after).length + 1 := by simp
  rw [List.cons_append, search]
  rcases searchLeading_cases notFinal ((others ++ after).length + 1) with
    ⟨run, found, longest, isFound, searched⟩ | ⟨-, noValue⟩
  · have isFormula : run = first :: others :=
      form.eq_of_leading plain words (looksEvaluable_iff.mp longest.valued.1.looks)
        longest.leading (longest.longest _ isLeading short valued)
    rw [isFormula, isValue] at isFound
    obtain rfl : result = found := Except.ok.inj isFound
    simp only [List.cons_append] at searched
    rw [searched]
  · exact absurd valued (noValue _ isLeading short)

theorem Form.allPlain (form : Form tokens) (noComputation : computes tokens = false) :
    AllPlain tokens := by
  obtain ⟨first, others, rfl⟩ := List.exists_cons_of_ne_nil form.ne_nil
  exact (form.starts noComputation).2

theorem Form.head_not_conversion (form : Form tokens) (noComputation : computes tokens = false)
    (after : List Token) : ∀ token ∈ (tokens ++ after).head?, token.isConversion = false := by
  obtain ⟨first, others, rfl⟩ := List.exists_cons_of_ne_nil form.ne_nil
  intro token isHead
  obtain rfl : first = token := by simpa using isHead
  exact Token.isConversion_of_isOperand (form.starts noComputation).1

/-- A formula that does not compute, with words around it, does not fail as a whole. -/
theorem valued_of_candidate_between_words (prose : surroundings.bindings = none)
    (wordsBefore : AllWords before) (wordsAfter : AllWords after) (form : Form tokens)
    (noComputation : computes tokens = false) (isValue : value surroundings tokens = .ok result)
    (candidate : Candidate surroundings (before ++ (tokens ++ after))) :
    Valued surroundings (before ++ (tokens ++ after)) := by
  have formToo := looksEvaluable_iff.mp candidate.looks
  have plain : AllPlain (tokens ++ after) :=
    (form.allPlain noComputation).append (allPlain_of_words wordsAfter)
  cases before with
  | nil =>
      have alone : tokens ++ after = tokens :=
        form.eq_of_leading (form.allPlain noComputation) wordsAfter formToo
          (List.prefix_refl _) (by simp)
      rw [List.nil_append, alone]
      exact valued_of_form prose form isValue
  | cons word before =>
      obtain ⟨isWord, others⟩ := List.forall_mem_cons.mp wordsBefore
      have nothing : before ++ (tokens ++ after) = [] :=
        formToo.eq_nil_of_word isWord ((allPlain_of_words wordsBefore).append plain)
          (head_not_conversion_of_words others (form.head_not_conversion noComputation after))
      exact absurd nothing (by simp [form.ne_nil])

/-- The whole line is the first candidate. -/
theorem search_of_candidate (candidate : Candidate surroundings line)
    (isValue : value surroundings line = .ok result) :
    (search surroundings line line).value = some result := by
  cases line with
  | nil => exact absurd candidate.looks (by simp [looksEvaluable])
  | cons first others =>
      have whole : (first :: others).take (others.length + 1) = first :: others :=
        List.take_of_length_le (Nat.le_refl _)
      rw [← whole] at candidate isValue
      rw [search, searchLeading_of_valued candidate isValue]

theorem Form.two_le_length (form : Form tokens) (computing : computes tokens = true) :
    2 ≤ tokens.length := by
  cases form with
  | operand isOperand =>
      have plain := List.forall_mem_singleton.mpr (Token.isPlain_of_isOperand isOperand)
      exact absurd computing (AllPlain.not_computes plain)
  | conversion | share => simp
  | computation long => exact long

theorem search_between_words (prose : surroundings.bindings = none)
    (wordsBefore : AllWords before) (wordsAfter : AllWords after) (form : Form tokens)
    (isValue : value surroundings tokens = .ok result) :
    (search surroundings (before ++ (tokens ++ after)) (before ++ (tokens ++ after))).value =
      some result := by
  cases computing : computes tokens with
  | true =>
      have long : 2 ≤ (before ++ tokens ++ after).length :=
        (form.two_le_length computing).trans (List.infix_append ..).length_le
      have formToo : Form (before ++ tokens ++ after) :=
        .computation long (computes_between_words computing before after)
      have isValueToo := value_between_words prose wordsBefore wordsAfter computing isValue
      rw [← List.append_assoc]
      exact search_of_candidate (valued_of_form prose formToo isValueToo).1 isValueToo
  | false =>
      have whole := valued_of_candidate_between_words prose wordsBefore wordsAfter form computing
        isValue
      have plain : AllPlain (tokens ++ after) :=
        (form.allPlain computing).append (allPlain_of_words wordsAfter)
      rw [search_of_words prose whole wordsBefore plain (form.head_not_conversion computing after)
        (List.infix_refl _)]
      exact search_of_form prose whole form (form.allPlain computing) wordsAfter isValue
        (List.suffix_append ..).isInfix

/-- Where names are prose, words before and after a formula do not change its value. -/
theorem find_between_words {results : List (Option String)} {line : Int}
    {before formula after : List Token} {result : Quantity Float}
    (wordsBefore : AllWords before) (wordsAfter : AllWords after)
    (looks : looksEvaluable formula = true)
    (isValue : value ⟨none, results, line⟩ formula = .ok result) :
    (find ⟨none, results, line⟩ (before ++ formula ++ after)).value = some result := by
  have form := looksEvaluable_iff.mp looks
  have notEmpty : (before ++ (formula ++ after)).isEmpty = false := by simp [form.ne_nil]
  rw [List.append_assoc, find, notEmpty]
  exact search_between_words rfl wordsBefore wordsAfter form isValue

/-- A conversion among words. -/
theorem find_minutes_between_words :
    ∃ before formula after, before.map Token.kind = [.identifier "backup", .identifier "takes"] ∧
      formula.map Token.kind =
        [.amount 90 (.single (.time .second)), .to, .amount 1 (.single (.time .minute))] ∧
      after.map Token.kind = [.identifier "roughly"] ∧
      AllWords before ∧ AllWords after ∧ looksEvaluable formula = true ∧
      ∃ result, result.text = "1.5 min" ∧ value ⟨none, [], 0⟩ formula = .ok result ∧
        (find ⟨none, [], 0⟩ (before ++ formula ++ after)).value = some result := by
  let before : List Token :=
    [⟨.identifier "backup", "backup", ⟨0, 6⟩⟩, ⟨.identifier "takes", "takes", ⟨7, 12⟩⟩]
  let formula : List Token :=
    [⟨.amount 90 (.single (.time .second)), "90 s", ⟨13, 17⟩⟩, ⟨.to, "to", ⟨18, 20⟩⟩,
      ⟨.amount 1 (.single (.time .minute)), "min", ⟨21, 24⟩⟩]
  let after : List Token := [⟨.identifier "roughly", "roughly", ⟨25, 32⟩⟩]
  have wordsBefore : AllWords before := by decide
  have wordsAfter : AllWords after := by decide
  have looks : looksEvaluable formula = true := rfl
  have shown : (value ⟨none, [], 0⟩ formula).toOption.map Quantity.text = some "1.5 min" := by
    decide +kernel
  cases isValue : value ⟨none, [], 0⟩ formula with
  | error error =>
      rw [isValue] at shown
      exact absurd shown (by simp [Except.toOption])
  | ok result =>
      rw [isValue] at shown
      exact ⟨before, formula, after, rfl, rfl, rfl, wordsBefore, wordsAfter, looks, result,
        Option.some.inj shown, isValue, find_between_words wordsBefore wordsAfter looks isValue⟩

end Formula

end NoteCalc
