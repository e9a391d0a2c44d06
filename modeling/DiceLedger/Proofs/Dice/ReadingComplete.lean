import DiceLedger.Proofs.Dice.ReadingLoops

/-! # Every phrase is read

The tokens of a well-formed phrase are read into the steps of the phrase, as long as it nests
no deeper than reading may (`DiceLedger.Dice.readExpression_phrase`). An operator chain is
followed from its left end: what has been read of it is a phrase, and the loop goes on with
the operators behind it.
-/

namespace DiceLedger

namespace Dice

/-- Reading an operand reads all of the phrase, and goes on with the groups behind it. -/
def ReadsAsOperand (phrase : Phrase) : Prop :=
  ∀ (depth : Nat) (vs : List Token), phrase.nesting ≤ depth →
    (∀ text, vs.head? ≠ some (.numeral text)) → ∃ bound, vs.length ≤ bound ∧
      readOperand (depth + 1) (phrase.tokens ++ vs) =
        readGroups (readExpression depth 1) bound true phrase.steps vs

/-- Reading an expression reads all of the phrase, and goes on with the operators behind
it. -/
def ReadsAsExpression (phrase : Phrase) : Prop :=
  ∀ (depth least : Nat) (vs : List Token), phrase.nesting ≤ depth → least ≤ phrase.tightness →
    Stops (phrase.tightness + 1) vs → ∃ bound, vs.length ≤ bound ∧
      readExpression (depth + 2) least (phrase.tokens ++ vs) =
        readOperators (readExpression (depth + 1)) least bound phrase.steps vs

/-- A phrase that is followed by nothing of its own is read up to its end. -/
theorem ReadsAsExpression.read {phrase : Phrase} (reads : ReadsAsExpression phrase)
    {depth least : Nat} {vs : List Token} (within : phrase.nesting + 2 ≤ depth)
    (tight : least ≤ phrase.tightness) (stops : Stops least vs) :
    readExpression depth least (phrase.tokens ++ vs) = ⟨phrase.steps, true, vs⟩ := by
  obtain ⟨inner, rfl⟩ := Nat.exists_eq_add_of_le' (Nat.le_of_add_left_le within)
  obtain ⟨bound, _, read⟩ := reads inner least vs (Nat.le_of_add_le_add_right within) tight
    (stops.mono (Nat.le_succ_of_le tight))
  rw [read, readOperators_of_stops stops]

theorem ReadsAsOperand.readsAsExpression {phrase : Phrase} (reads : ReadsAsOperand phrase) :
    ReadsAsExpression phrase := by
  intro depth least vs within _ stops
  obtain ⟨bound, _, read⟩ := reads depth vs within stops.head_ne_numeral
  have other : vs.head? ≠ some .opening := by
    intro head
    obtain ⟨rest, rfl⟩ := List.head?_eq_some_iff.mp head
    exact stops
  refine ⟨vs.length, Nat.le_refl _, ?_⟩
  rw [readExpression, read, readGroups_of_head_ne other]
  rfl

/-- A group is read in one turn. -/
theorem ReadsAsExpression.readGroup {inner : Phrase} (reads : ReadsAsExpression inner)
    {depth : Nat} (within : inner.nesting + 2 ≤ depth) (bound : Nat) (operandRead : Bool)
    (steps : List Step) {vs : List Token} (apart : ∀ text, vs.head? ≠ some (.numeral text)) :
    readGroups (readExpression depth 1) (bound + 1) operandRead steps
        (.opening :: (inner.tokens ++ .closing :: vs)) =
      readGroups (readExpression depth 1) bound true
        (stepsWithGroup operandRead steps inner.steps) vs := by
  have stops : Stops 1 (.closing :: vs) := trivial
  have read := reads.read within inner.tightness_pos stops
  rw [readGroups_opening (by rw [read]) (by rw [read]; exact Or.inl rfl) apart, read]

/-- A loop whose bound allows all of these tokens has a turn for the first of them. -/
theorem exists_turn {t : Token} {ts vs : List Token} {bound : Nat}
    (enough : (t :: (ts ++ vs)).length ≤ bound) :
    ∃ less, bound = less + 1 ∧ vs.length ≤ less := by
  rw [List.length_cons, List.length_append] at enough
  exact ⟨bound - 1, by omega, by omega⟩

/-- Every well-formed phrase is read, and as an operand if no operator is outside of its
parentheses. -/
theorem reads_phrase (phrase : Phrase) (proper : phrase.WellFormed) :
    (4 < phrase.tightness → ReadsAsOperand phrase) ∧ ReadsAsExpression phrase := by
  have operand {phrase : Phrase} (reads : ReadsAsOperand phrase) :
      (4 < phrase.tightness → ReadsAsOperand phrase) ∧ ReadsAsExpression phrase :=
    ⟨fun _ => reads, reads.readsAsExpression⟩
  induction phrase with
  | numeral written =>
      refine operand fun depth vs _ _ => ⟨vs.length, Nat.le_refl _, ?_⟩
      simp only [Phrase.tokens, List.singleton_append, readOperand, numeralValue?_numeral]
      rfl
  | group inner ih =>
      refine operand fun depth vs within apart => ?_
      refine ⟨(inner.tokens ++ .closing :: vs).length, ?_, ?_⟩
      · rw [List.length_append, List.length_cons]
        omega
      · have steps : stepsWithGroup false [] inner.steps = Phrase.steps (.group inner) :=
          List.append_nil _
        rw [← steps, ← (ih proper).2.readGroup within _ _ _ apart, Phrase.tokens_group_append]
        rfl
  | beside left inner ihLeft ihInner =>
      obtain ⟨leftProper, tight, innerProper⟩ := proper
      refine operand fun depth vs within apart => ?_
      obtain ⟨leftWithin, innerWithin⟩ := Nat.max_le.mp within
      obtain ⟨bound, enough, read⟩ := (ihLeft leftProper).1 tight depth
        (.opening :: (inner.tokens ++ .closing :: vs)) leftWithin (by rintro text ⟨⟩)
      obtain ⟨less, rfl, left⟩ := exists_turn enough
      refine ⟨less, Nat.le_of_succ_le left, ?_⟩
      rw [Phrase.tokens_beside_append, read,
        (ihInner innerProper).2.readGroup innerWithin _ _ _ apart]
      rfl
  | binary operator left right ihLeft ihRight =>
      obtain ⟨⟨leftProper, leftTight⟩, rightProper, rightTight⟩ := proper
      refine ⟨fun tight => absurd tight (Nat.not_lt.mpr operator.precedence_le),
        fun depth least vs within tight stops => ?_⟩
      obtain ⟨leftWithin, rightWithin⟩ := Nat.max_le.mp within
      obtain ⟨bound, enough, read⟩ := (ihLeft leftProper).2 depth least
        (.operator operator :: (right.tokens ++ vs)) leftWithin (Nat.le_trans tight leftTight)
        (Nat.lt_succ_of_le leftTight)
      obtain ⟨less, rfl, left⟩ := exists_turn enough
      have rightRead := (ihRight rightProper).2.read (Nat.succ_le_succ rightWithin) rightTight stops
      refine ⟨less, left, ?_⟩
      rw [Phrase.tokens_binary_append, read,
        readOperators_operator tight (by rw [rightRead]), rightRead]
      rfl

/-- **Completeness.** A well-formed phrase is read into its steps, up to where it ends. -/
theorem readExpression_phrase {phrase : Phrase} (proper : phrase.WellFormed) {depth least : Nat}
    (within : phrase.nesting + 2 ≤ depth) (tight : least ≤ phrase.tightness) {vs : List Token}
    (stops : Stops least vs) :
    readExpression depth least (phrase.tokens ++ vs) = ⟨phrase.steps, true, vs⟩ :=
  (reads_phrase phrase proper).2.read within tight stops

end Dice

end DiceLedger
