import DiceLedger.Proofs.Dice.Acceptance

/-! # Printed expressions keep their meaning

An expression tree is printed with parentheses only where a looser operator, or one of the
same precedence to the right, would be taken for another operand's
(`DiceLedger.Dice.Expr.print`), so no text of the tree is shorter in tokens
(`DiceLedger.Dice.Phrase.WellFormed.length_le`). Evaluating the printed text is evaluating the tree
bottom up, its dice included (`DiceLedger.Dice.evaluate_print`).
-/

namespace DiceLedger

namespace Dice

variable {σ : Type}

/-- Tokens with no closing parenthesis missing or left over are their own sentence. -/
theorem balanced_tokens (phrase : Phrase) :
    ∀ (opened : Nat) (rest : List Token),
      balanced opened (phrase.tokens ++ rest) = phrase.tokens ++ balanced opened rest := by
  induction phrase with
  | numeral written => exact fun _ _ => rfl
  | group inner ih =>
      intro opened rest
      rw [Phrase.tokens_group_append, Phrase.tokens_group_append, balanced, ih, balanced]
  | beside left inner ihLeft ihInner =>
      intro opened rest
      rw [Phrase.tokens_beside_append, Phrase.tokens_beside_append, ihLeft, balanced, ihInner,
        balanced]
  | binary operator left right ihLeft ihRight =>
      intro opened rest
      rw [Phrase.tokens_binary_append, Phrase.tokens_binary_append, ihLeft, balanced, ihRight]

/-- The tokens of a well-formed phrase are cut from what they write. -/
theorem Phrase.WellFormed.tokens_chars {phrase : Phrase} (proper : phrase.WellFormed) :
    Dice.tokens (phrase.tokens.flatMap Token.chars) = phrase.tokens := by
  have derived := proper.derives.1
  have apart : phrase.tokens.IsChain fun first second =>
      first.isNumeral = false ∨ second.isNumeral = false := by
    have inside : Tidy phrase.tokens :=
      List.IsChain.left_of_append (List.IsChain.tail derived.tidy)
    refine inside.imp fun first second plain => ?_
    cases first with
    | numeral text =>
        cases second with
        | numeral other => cases plain
        | _ => exact Or.inr rfl
    | _ => exact Or.inl rfl
  refine tokens_flatMap_chars ⟨fun text member => (derived.isNumeral member).chars, apart⟩ ?_
  rintro text member rfl
  obtain ⟨c, within, _⟩ := (derived.isNumeral member).digit
  cases within

/-- A phrase, in parentheses if an operator outside of them is looser than `least`. -/
def Phrase.enclosedBelow (least : Nat) (phrase : Phrase) : Phrase :=
  if phrase.tightness < least then .group phrase else phrase

/-- Enclosing a phrase leaves it well formed. -/
theorem Phrase.WellFormed.enclosedBelow {phrase : Phrase} (proper : phrase.WellFormed)
    (least : Nat) : (phrase.enclosedBelow least).WellFormed := by
  unfold Phrase.enclosedBelow
  split
  · exact proper
  · exact proper

/-- A phrase that is enclosed where it is too loose is tight enough. -/
theorem Phrase.le_tightness_enclosedBelow {least : Nat} (le : least ≤ 5) (phrase : Phrase) :
    least ≤ (phrase.enclosedBelow least).tightness := by
  unfold Phrase.enclosedBelow
  split
  · exact le
  · exact Nat.le_of_not_lt (by assumption)

@[simp] theorem Phrase.evaluate_enclosedBelow (source : Source σ) (least : Nat)
    (phrase : Phrase) : (phrase.enclosedBelow least).evaluate source = phrase.evaluate source := by
  unfold Phrase.enclosedBelow
  split
  · rfl
  · rfl

/-- An expression, however it is written. -/
inductive Expr where
  | numeral (numeral : Numeral)
  | binary (operator : Operator) (left right : Expr)
  /-- A product written as an operand with a group directly behind it. -/
  | beside (left inner : Expr)

namespace Expr

/-- Evaluates a tree bottom up: the left operand, then the right one, then the operator, up
to the first application without a result. -/
def evaluate (source : Source σ) : Expr → σ → Option Binary64 × σ
  | numeral written, state => (some written.value, state)
  | binary operator left right, state =>
    applyInOrder source operator (left.evaluate source) (right.evaluate source) state
  | beside left inner, state =>
    applyInOrder source .multiply (left.evaluate source) (inner.evaluate source) state

/-- The parentheses that a tree needs: operators of one precedence group to the left, and
what a group stands beside is a numeral or a group. -/
def phrase : Expr → Phrase
  | numeral written => .numeral written
  | binary operator left right =>
    .binary operator (left.phrase.enclosedBelow operator.precedence)
      (right.phrase.enclosedBelow (operator.precedence + 1))
  | beside left inner => .beside (left.phrase.enclosedBelow 5) inner.phrase

/-- The text of a tree. -/
def print (expr : Expr) : String := String.ofList (expr.phrase.tokens.flatMap Token.chars)

/-- A tree is printed as a phrase that is well formed. -/
theorem phrase_wellFormed (expr : Expr) : expr.phrase.WellFormed := by
  induction expr with
  | numeral written => trivial
  | binary operator left right ihLeft ihRight =>
      have bound := operator.precedence_le
      exact ⟨⟨ihLeft.enclosedBelow _, Phrase.le_tightness_enclosedBelow (by omega) _⟩,
        ihRight.enclosedBelow _, Phrase.le_tightness_enclosedBelow (by omega) _⟩
  | beside left inner ihLeft ihInner =>
      exact ⟨ihLeft.enclosedBelow _, Phrase.le_tightness_enclosedBelow (Nat.le_refl 5) _, ihInner⟩

/-- A tree is evaluated as the phrase that is printed for it. -/
theorem evaluate_phrase (source : Source σ) (expr : Expr) :
    expr.phrase.evaluate source = expr.evaluate source := by
  induction expr with
  | numeral written => rfl
  | binary operator left right ihLeft ihRight =>
      funext state
      simp only [phrase, Phrase.evaluate, Phrase.evaluate_enclosedBelow, ihLeft, ihRight, evaluate]
  | beside left inner ihLeft ihInner =>
      funext state
      simp only [phrase, Phrase.evaluate, Phrase.evaluate_enclosedBelow, ihLeft, ihInner, evaluate]

/-- The printed text is cut into the tokens of its phrase. -/
theorem sentence_print (expr : Expr) : sentence expr.print = expr.phrase.tokens := by
  have whole := balanced_tokens expr.phrase 0 []
  rw [List.append_nil] at whole
  rw [sentence, print, String.toList_ofList, expr.phrase_wellFormed.tokens_chars, whole]
  exact List.append_nil _

end Expr

namespace Phrase

/-- The tree of a phrase. -/
def expr : Phrase → Expr
  | numeral written => .numeral written
  | group inner => inner.expr
  | beside left inner => .beside left.expr inner.expr
  | binary operator left right => .binary operator left.expr right.expr

/-- Printing the tree of a phrase takes no more tokens than the phrase, and two fewer where the
phrase does not bind as its printed tree does. -/
structure Longer (phrase : Phrase) : Prop where
  le : phrase.expr.phrase.tokens.length ≤ phrase.tokens.length
  slack : phrase.tightness ≠ phrase.expr.phrase.tightness →
    phrase.expr.phrase.tokens.length + 2 ≤ phrase.tokens.length

/-- A phrase that binds tightly enough as it is leaves its printed tree room for parentheses. -/
theorem Longer.enclosedBelow {phrase : Phrase} (longer : phrase.Longer) {least : Nat}
    (tight : least ≤ phrase.tightness) :
    (phrase.expr.phrase.enclosedBelow least).tokens.length ≤ phrase.tokens.length := by
  unfold Phrase.enclosedBelow
  split
  · rename_i loose
    have slack := longer.slack (Nat.ne_of_gt (Nat.lt_of_lt_of_le loose tight))
    simp only [tokens, List.length_append, List.length_cons, List.length_nil]
    omega
  · exact longer.le

/-- Each group that a phrase has more than its printed tree takes two tokens more. -/
theorem WellFormed.longer {phrase : Phrase} (proper : phrase.WellFormed) : phrase.Longer := by
  induction phrase with
  | numeral written => exact ⟨Nat.le_refl 1, fun loose => absurd rfl loose⟩
  | group inner ih =>
      have wider : inner.expr.phrase.tokens.length + 2 ≤ (group inner).tokens.length := by
        simp only [tokens, List.length_append, List.length_cons, List.length_nil]
        exact Nat.succ_le_succ (Nat.succ_le_succ (ih proper).le)
      exact ⟨Nat.le_of_add_right_le wider, fun _ => wider⟩
  | beside left inner ihLeft ihInner =>
      obtain ⟨leftProper, tight, innerProper⟩ := proper
      have leftShorter := (ihLeft leftProper).enclosedBelow (Nat.succ_le_of_lt tight)
      refine ⟨?_, fun loose => absurd rfl loose⟩
      simp only [expr, Expr.phrase, tokens, List.length_append, List.length_cons, List.length_nil]
      have innerShorter := (ihInner innerProper).le
      exact Nat.succ_le_succ (Nat.add_le_add leftShorter (Nat.succ_le_succ innerShorter))
  | binary operator left right ihLeft ihRight =>
      obtain ⟨⟨leftProper, leftTight⟩, rightProper, rightTight⟩ := proper
      have leftShorter := (ihLeft leftProper).enclosedBelow leftTight
      have rightShorter := (ihRight rightProper).enclosedBelow (Nat.succ_le_of_lt rightTight)
      refine ⟨?_, fun loose => absurd rfl loose⟩
      simp only [expr, Expr.phrase, tokens, List.length_append, List.length_cons]
      exact Nat.add_le_add leftShorter (Nat.succ_le_succ rightShorter)

/-- Of all the ways to write a tree, the printed one takes the fewest tokens. -/
theorem WellFormed.length_le {phrase : Phrase} {expr : Expr} (proper : phrase.WellFormed)
    (same : phrase.expr = expr) : expr.phrase.tokens.length ≤ phrase.tokens.length :=
  same ▸ proper.longer.le

end Phrase

/-- The printed text evaluates as its tree does. -/
theorem evaluate_of_print (source : Source σ) {expr : Expr}
    (within : expr.phrase.nesting + 2 ≤ maxDepth) (state : σ) :
    evaluate source expr.print state = expr.evaluate source state := by
  rw [evaluate_of_phrase source expr.phrase_wellFormed expr.sentence_print.symm within,
    expr.evaluate_phrase]

/-- Two numerals with the letter of dice between them are rolled. -/
theorem evaluate_dice (source : Source σ) {text : String} (count faces : Numeral)
    (written : text.toList = count.text ++ 'd' :: faces.text) (state : σ) :
    evaluate source text state = roll source count.value faces.value state := by
  have printed : text = (Expr.binary .roll (.numeral count) (.numeral faces)).print := by
    have shown : (Expr.binary .roll (.numeral count) (.numeral faces)).print.toList =
        count.text ++ 'd' :: (faces.text ++ []) := String.toList_ofList
    apply String.toList_injective
    rw [written, shown, List.append_nil]
  rw [printed, evaluate_of_print source (Nat.le_of_ble_eq_true rfl)]
  rfl

/-- **A printed expression evaluates as its tree does**, for every source of dice: to the same
value, if there is one, with the source in the same state, and after the same draws. It has no
parenthesis without need: no other way to write the tree takes fewer tokens. -/
theorem evaluate_print (source : Source σ) (expr : Expr)
    (within : expr.phrase.nesting + 2 ≤ maxDepth) (state : σ) :
    evaluate source expr.print state = expr.evaluate source state ∧
      (∀ draws, evaluate source.recorded expr.print ⟨state, draws⟩ =
        expr.evaluate source.recorded ⟨state, draws⟩) ∧
      ∀ phrase : Phrase, phrase.WellFormed → phrase.expr = expr →
        expr.phrase.tokens.length ≤ phrase.tokens.length := by
  refine ⟨evaluate_of_print source within state, fun draws => ?_, fun phrase proper same => ?_⟩
  · exact evaluate_of_print source.recorded within ⟨state, draws⟩
  · exact proper.length_le same

/-- Two dice of seven sides, less a difference with a group behind it. -/
theorem evaluate_print_roll :
    let one : Expr := .numeral ⟨['1'], by decide⟩
    let two : Expr := .numeral ⟨['2'], by decide⟩
    let six : Expr := .numeral ⟨['6'], by decide⟩
    let expr := Expr.binary .subtract (.binary .roll two (.binary .add one six))
      (.beside (.binary .subtract one two) six)
    expr.print = "2d(1+6)-(1-2)(6)" ∧
      evaluate (⟨fun _ state => (state, state + 1)⟩ : Source Nat) expr.print 1 =
        expr.evaluate ⟨fun _ state => (state, state + 1)⟩ 1 :=
  ⟨by decide, (evaluate_print _ _ (by decide) 1).1⟩

end Dice

end DiceLedger
