import DiceLedger.Dice.Evaluation
import DiceLedger.Proofs.Dice.Numeral

/-! # Expressions as they are written

A phrase is an expression with its parentheses. It is well formed when operators bind as
their precedences say: the left operand of an operator binds at least as tightly, the right
one tighter, and what a group stands beside is a numeral or a group. Evaluating a phrase
bottom up is running its steps (`DiceLedger.Dice.run_phrase`).
-/

namespace DiceLedger

namespace Dice

variable {σ : Type}

theorem Operator.precedence_pos (operator : Operator) : 0 < operator.precedence := by
  cases operator <;> decide

theorem Operator.precedence_le (operator : Operator) : operator.precedence ≤ 4 := by
  cases operator <;> decide

/-- Evaluates the left operand, then the right one, and then applies the operator; the
first that has no result ends it. -/
def applyInOrder (source : Source σ) (operator : Operator)
    (left right : σ → Option Binary64 × σ) (state : σ) : Option Binary64 × σ :=
  match left state with
  | (none, state) => (none, state)
  | (some first, state) =>
    match right state with
    | (none, state) => (none, state)
    | (some second, state) => apply source operator first second state

/-- An expression with the parentheses that it is written with. -/
inductive Phrase where
  | numeral (numeral : Numeral)
  | group (inner : Phrase)
  /-- A numeral or a group, or several of them, and a group directly behind. -/
  | beside (left inner : Phrase)
  | binary (operator : Operator) (left right : Phrase)

namespace Phrase

def tokens : Phrase → List Token
  | numeral written => [.numeral written.text]
  | group inner => .opening :: inner.tokens ++ [.closing]
  | beside left inner => left.tokens ++ .opening :: inner.tokens ++ [.closing]
  | binary operator left right => left.tokens ++ .operator operator :: right.tokens

/-- How tightly a phrase binds: as its loosest operator outside of parentheses, or tighter
than every operator when there is none. -/
def tightness : Phrase → Nat
  | binary operator _ _ => operator.precedence
  | _ => 5

/-- The operators of a phrase have the operands that their precedences give them. -/
def WellFormed : Phrase → Prop
  | numeral _ => True
  | group inner => inner.WellFormed
  | beside left inner => left.WellFormed ∧ 4 < left.tightness ∧ inner.WellFormed
  | binary operator left right =>
    (left.WellFormed ∧ operator.precedence ≤ left.tightness) ∧
      right.WellFormed ∧ operator.precedence < right.tightness

/-- How deeply reading a phrase nests: every open parenthesis counts twice and every
operator waiting for its right operand once. -/
def nesting : Phrase → Nat
  | numeral _ => 0
  | group inner => inner.nesting + 2
  | beside left inner => max left.nesting (inner.nesting + 2)
  | binary _ left right => max left.nesting (right.nesting + 1)

/-- The steps that compute a phrase. -/
def steps : Phrase → List Step
  | numeral written => [.push written.value]
  | group inner => inner.steps
  | beside left inner => left.steps ++ inner.steps ++ [.apply .multiply]
  | binary operator left right => left.steps ++ right.steps ++ [.apply operator]

/-- The value of a phrase, from its operands' values. -/
def evaluate (source : Source σ) : Phrase → σ → Option Binary64 × σ
  | numeral written, state => (some written.value, state)
  | group inner, state => inner.evaluate source state
  | beside left inner, state =>
    applyInOrder source .multiply (left.evaluate source) (inner.evaluate source) state
  | binary operator left right, state =>
    applyInOrder source operator (left.evaluate source) (right.evaluate source) state

theorem tokens_group_append (inner : Phrase) (vs : List Token) :
    (group inner).tokens ++ vs = .opening :: (inner.tokens ++ .closing :: vs) := by
  rw [tokens, List.append_assoc, List.cons_append, List.singleton_append]

theorem tokens_beside_append (left inner : Phrase) (vs : List Token) :
    (beside left inner).tokens ++ vs =
      left.tokens ++ .opening :: (inner.tokens ++ .closing :: vs) := by
  rw [tokens, List.append_assoc, List.append_assoc, List.cons_append, List.singleton_append]

/-- An operator stands between its operands. -/
theorem tokens_binary_append (operator : Operator) (left right : Phrase) (vs : List Token) :
    (binary operator left right).tokens ++ vs =
      left.tokens ++ .operator operator :: (right.tokens ++ vs) := by
  rw [tokens, List.append_assoc, List.cons_append]

theorem tightness_pos (phrase : Phrase) : 0 < phrase.tightness := by
  cases phrase with
  | binary operator left right => exact operator.precedence_pos
  | _ => exact Nat.succ_pos 4

/-- A phrase nests no deeper than it has tokens. -/
theorem nesting_le_length (phrase : Phrase) : phrase.nesting ≤ phrase.tokens.length := by
  induction phrase with
  | numeral numeral => exact Nat.zero_le _
  | group inner ih =>
      simp only [nesting, tokens, List.length_append, List.length_cons, List.length_nil]
      omega
  | beside left inner ihLeft ihInner =>
      simp only [nesting, tokens, List.length_append, List.length_cons, List.length_nil]
      omega
  | binary operator left right ihLeft ihRight =>
      simp only [nesting, tokens, List.length_append, List.length_cons]
      omega

end Phrase

/-- Steps that compute a value put it on the stack, or end the run without a result. -/
def Computes (source : Source σ) (steps : List Step) (value : σ → Option Binary64 × σ) : Prop :=
  ∀ (rest : List Step) (stack : List Binary64) (state : σ),
    run source (steps ++ rest) stack state =
      match value state with
      | (none, state) => (none, state)
      | (some value, state) => run source rest (value :: stack) state

/-- Steps for two operands, and then the operator, compute its application. -/
theorem Computes.applyInOrder {source : Source σ} {left right : List Step}
    {leftValue rightValue : σ → Option Binary64 × σ} (leftComputes : Computes source left leftValue)
    (rightComputes : Computes source right rightValue) (operator : Operator) :
    Computes source (left ++ right ++ [.apply operator])
      (applyInOrder source operator leftValue rightValue) := by
  intro rest stack state
  rw [List.append_assoc, List.append_assoc, leftComputes]
  unfold Dice.applyInOrder
  rcases leftValue state with ⟨_ | first, middle⟩
  · rfl
  · dsimp only
    rw [rightComputes]
    rcases rightValue middle with ⟨_ | second, last⟩
    · rfl
    · dsimp only
      rw [List.singleton_append, run]
      rcases apply source operator first second last with ⟨_ | value, final⟩
      · rfl
      · rfl

/-- Running the steps of a phrase gives its value. -/
theorem run_phrase (source : Source σ) (phrase : Phrase) :
    Computes source phrase.steps (phrase.evaluate source) := by
  induction phrase with
  | numeral numeral => exact fun rest stack state => rfl
  | group inner ih => exact ih
  | beside left inner ihLeft ihInner => exact ihLeft.applyInOrder ihInner .multiply
  | binary operator left right ihLeft ihRight => exact ihLeft.applyInOrder ihRight operator

/-- A whole reading of a phrase's steps has the value of the phrase. -/
theorem value_of_steps (source : Source σ) (phrase : Phrase) (rest : List Token) (state : σ) :
    Reading.value source ⟨phrase.steps, true, rest⟩ state = phrase.evaluate source state := by
  have ran := run_phrase source phrase [] [] state
  rw [List.append_nil] at ran
  simp only [Reading.value, ran]
  rcases phrase.evaluate source state with ⟨_ | value, final⟩
  · rfl
  · rfl

end Dice

end DiceLedger
