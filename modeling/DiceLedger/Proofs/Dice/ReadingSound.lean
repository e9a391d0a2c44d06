import DiceLedger.Proofs.Dice.ReadingLoops

/-! # What a complete reading has read

A complete reading has read a well-formed phrase and stands where the phrase ends
(`DiceLedger.Dice.readExpression_sound`). Both loops carry the phrase that they have read so
far: a further operator does not bind tighter than that phrase, so it can become the phrase's
last operator.
-/

namespace DiceLedger

namespace Dice

/-- The phrase that a reading has read: the tokens `before` were read before it, and the
phrase is written by them and by the tokens up to where the reading ended. -/
structure ReadAs (before : List Token) (least : Nat) (ts : List Token) (reading : Reading)
    (phrase : Phrase) : Prop where
  wellFormed : phrase.WellFormed
  tight : least ≤ phrase.tightness
  steps : reading.steps = phrase.steps
  stops : Stops least reading.rest
  suffix : reading.rest <:+ ts
  tokens : ∀ opened, before ++ balanced opened ts =
    phrase.tokens ++ balanced opened reading.rest

/-- A reading of the tokens behind a first part has read the first part too. -/
theorem ReadAs.extend {before front us ts : List Token} {least : Nat} {reading : Reading}
    {phrase : Phrase} (read : ReadAs front least us reading phrase) (behind : us <:+ ts)
    (written : ∀ opened, before ++ balanced opened ts = front ++ balanced opened us) :
    ReadAs before least ts reading phrase where
  wellFormed := read.wellFormed
  tight := read.tight
  steps := read.steps
  stops := read.stops
  suffix := read.suffix.trans behind
  tokens opened := (written opened).trans (read.tokens opened)

/-- A reader whose complete readings have read a phrase. -/
def Sound (least : Nat) (reader : List Token → Reading) : Prop :=
  ∀ ts, Lexed ts → (reader ts).complete = true → ∃ phrase, ReadAs [] least ts (reader ts) phrase

section Operators

variable {right : Nat → List Token → Reading} {least : Nat}

theorem readOperators_sound (rightSound : ∀ operator : Operator,
      Sound (operator.precedence + 1) (right (operator.precedence + 1))) (bound : Nat) :
    ∀ (phrase : Phrase) (ts : List Token), Lexed ts → ts.length ≤ bound → phrase.WellFormed →
      least ≤ phrase.tightness → Stops (phrase.tightness + 1) ts →
      (readOperators right least bound phrase.steps ts).complete = true →
      ∃ whole, ReadAs phrase.tokens least ts (readOperators right least bound phrase.steps ts)
        whole := by
  have done (bound : Nat) (phrase : Phrase) (ts : List Token) (proper : phrase.WellFormed)
      (tight : least ≤ phrase.tightness) (stops : Stops least ts) :
      ∃ whole, ReadAs phrase.tokens least ts (readOperators right least bound phrase.steps ts)
        whole := by
    rw [readOperators_of_stops stops]
    exact ⟨phrase, proper, tight, rfl, stops, List.suffix_rfl, fun _ => rfl⟩
  induction bound with
  | zero =>
      intro phrase ts _ short proper tight _ _
      obtain rfl := List.eq_nil_of_length_eq_zero (Nat.le_zero.mp short)
      exact done 0 phrase [] proper tight trivial
  | succ bound ih =>
      intro phrase ts lexed short proper tight stops complete
      cases ts with
      | nil => exact done _ phrase [] proper tight trivial
      | cons t rest =>
          cases t with
          | closing => exact done _ phrase _ proper tight trivial
          | numeral text => exact stops.elim
          | opening => exact stops.elim
          | operator operator =>
              by_cases binds : least ≤ operator.precedence
              · cases operandRead : (right (operator.precedence + 1) rest).complete with
                | false =>
                    rw [readOperators_fault binds operandRead] at complete
                    cases complete
                | true =>
                    obtain ⟨operand, read⟩ := rightSound operator rest lexed.tail operandRead
                    -- By `stops` no operator of the phrase is looser than this one, which so
                    -- takes the whole phrase for its left operand.
                    have further : Phrase.steps (.binary operator phrase operand) =
                        phrase.steps ++ (right (operator.precedence + 1) rest).steps ++
                          [.apply operator] := by rw [read.steps]; rfl
                    rw [readOperators_operator binds operandRead, ← further] at complete ⊢
                    obtain ⟨whole, final⟩ := ih (.binary operator phrase operand) _
                      (lexed.tail.suffix read.suffix)
                      (Nat.le_trans read.suffix.length_le (Nat.le_of_succ_le_succ short))
                      ⟨⟨proper, Nat.le_of_lt_succ stops⟩, read.wellFormed, read.tight⟩
                      binds read.stops complete
                    refine ⟨whole, final.extend (read.suffix.trans (List.suffix_cons _ _))
                      fun opened => ?_⟩
                    rw [Phrase.tokens, List.append_assoc, List.cons_append, ← read.tokens]
                    rfl
              · exact done _ phrase _ proper tight (Nat.lt_of_not_le binds)

end Operators

section Groups

variable {group : List Token → Reading}

/-- A complete reading that stands before a group has read the group, and goes on behind
it. -/
theorem Sound.exists_group (groupSound : Sound 1 group) {bound : Nat} {operandRead : Bool}
    {steps : List Step} {rest : List Token} (lexed : Lexed rest)
    (complete :
      (readGroups group (bound + 1) operandRead steps (.opening :: rest)).complete = true) :
    ∃ (inner : Phrase) (us : List Token), inner.WellFormed ∧ us <:+ rest ∧
      (∀ text, us.head? ≠ some (.numeral text)) ∧
      (∀ opened, balanced opened (.opening :: rest) =
        .opening :: inner.tokens ++ [.closing] ++ balanced opened us) ∧
      readGroups group (bound + 1) operandRead steps (.opening :: rest) =
        readGroups group bound true (stepsWithGroup operandRead steps inner.steps) us := by
  cases groupRead : (group rest).complete with
  | false =>
      rw [readGroups_fault groupRead] at complete
      cases complete
  | true =>
      obtain ⟨inner, read⟩ := groupSound rest lexed groupRead
      obtain ⟨us, closes⟩ := read.stops.exists_closes
      have apart : ∀ text, us.head? ≠ some (.numeral text) := by
        intro text head
        obtain ⟨later, rfl⟩ := List.head?_eq_some_iff.mp head
        rw [readGroups_numeral groupRead closes] at complete
        cases complete
      refine ⟨inner, us, read.wellFormed, closes.suffix.trans read.suffix, apart,
        fun opened => ?_, ?_⟩
      · have within := read.tokens (opened + 1)
        rw [closes.balanced, List.nil_append] at within
        rw [balanced, within]
        simp only [List.cons_append, List.append_assoc, List.nil_append]
      · rw [readGroups_opening groupRead closes apart, read.steps]

theorem readGroups_sound (groupSound : Sound 1 group) (bound : Nat) :
    ∀ (phrase : Phrase) (ts : List Token), Lexed ts → ts.length ≤ bound → phrase.WellFormed →
      4 < phrase.tightness → (∀ text, ts.head? ≠ some (.numeral text)) →
      (readGroups group bound true phrase.steps ts).complete = true →
      ∃ whole, ReadAs phrase.tokens 5 ts (readGroups group bound true phrase.steps ts) whole := by
  have done (bound : Nat) (phrase : Phrase) (ts : List Token) (proper : phrase.WellFormed)
      (tight : 4 < phrase.tightness) (stops : Stops 5 ts) (other : ts.head? ≠ some .opening) :
      ∃ whole, ReadAs phrase.tokens 5 ts (readGroups group bound true phrase.steps ts) whole := by
    rw [readGroups_of_head_ne other]
    exact ⟨phrase, proper, tight, rfl, stops, List.suffix_rfl, fun _ => rfl⟩
  induction bound with
  | zero =>
      intro phrase ts _ short proper tight _ _
      obtain rfl := List.eq_nil_of_length_eq_zero (Nat.le_zero.mp short)
      exact done 0 phrase [] proper tight trivial (by rintro ⟨⟩)
  | succ bound ih =>
      intro phrase ts lexed short proper tight apart complete
      cases ts with
      | nil => exact done _ phrase [] proper tight trivial (by rintro ⟨⟩)
      | cons t rest =>
          cases t with
          | closing => exact done _ phrase _ proper tight trivial (by rintro ⟨⟩)
          | numeral text => exact absurd rfl (apart text)
          | operator operator =>
              exact done _ phrase _ proper tight (Nat.lt_succ_of_le operator.precedence_le)
                (by rintro ⟨⟩)
          | opening =>
              obtain ⟨inner, us, innerProper, behind, next, written, further⟩ :=
                groupSound.exists_group lexed.tail complete
              have steps : stepsWithGroup true phrase.steps inner.steps =
                  Phrase.steps (.beside phrase inner) := rfl
              rw [further, steps] at complete ⊢
              obtain ⟨whole, final⟩ := ih (.beside phrase inner) us (lexed.tail.suffix behind)
                (Nat.le_trans behind.length_le (Nat.le_of_succ_le_succ short))
                ⟨proper, tight, innerProper⟩ (Nat.lt_succ_self 4) next complete
              refine ⟨whole, final.extend (behind.trans (List.suffix_cons _ _)) fun opened => ?_⟩
              rw [written, Phrase.tokens]
              simp only [List.cons_append, List.append_assoc]

/-- Where no operand has been read, a group is the first one. -/
theorem readFirstGroup_sound (groupSound : Sound 1 group) {ts : List Token} (lexed : Lexed ts)
    (complete : (readGroups group ts.length false [] ts).complete = true) :
    ∃ phrase, ReadAs [] 5 ts (readGroups group ts.length false [] ts) phrase := by
  by_cases other : ts.head? = some .opening
  · obtain ⟨rest, rfl⟩ := List.head?_eq_some_iff.mp other
    rw [List.length_cons] at complete ⊢
    obtain ⟨inner, us, proper, behind, next, written, further⟩ :=
      groupSound.exists_group lexed.tail complete
    have first : stepsWithGroup false [] inner.steps = Phrase.steps (.group inner) :=
      List.append_nil _
    rw [further, first] at complete ⊢
    obtain ⟨whole, final⟩ := readGroups_sound groupSound rest.length (.group inner) us
      (lexed.tail.suffix behind) behind.length_le proper (Nat.lt_succ_self 4) next complete
    refine ⟨whole, final.extend (behind.trans (List.suffix_cons _ _)) fun opened => ?_⟩
    rw [written, Phrase.tokens, List.nil_append]
  · rw [readGroups_of_head_ne other] at complete
    cases complete

end Groups

/-- What complete readings of every depth have read. -/
theorem reading_sound (depth : Nat) :
    (∀ least, least ≤ 5 → Sound least (readExpression depth least)) ∧
      Sound 5 (readOperand depth) := by
  induction depth with
  | zero => exact ⟨fun _ _ _ _ complete => (nomatch complete), fun _ _ complete => nomatch complete⟩
  | succ depth ih =>
      obtain ⟨expressionSound, operandSound⟩ := ih
      constructor
      · intro least le ts lexed complete
        cases operandRead : (readOperand depth ts).complete with
        | false =>
            simp only [readExpression, operandRead, Bool.false_eq_true, ↓reduceIte] at complete
        | true =>
            obtain ⟨operand, read⟩ := operandSound ts lexed operandRead
            simp only [readExpression, operandRead, ↓reduceIte, read.steps] at complete ⊢
            obtain ⟨whole, final⟩ := readOperators_sound
              (fun operator => expressionSound _ (Nat.succ_le_succ operator.precedence_le))
              _ operand _ (lexed.suffix read.suffix) (Nat.le_refl _) read.wellFormed
              (Nat.le_trans le read.tight) (read.stops.mono (Nat.le_succ_of_le read.tight)) complete
            exact ⟨whole, final.extend read.suffix read.tokens⟩
      · intro ts lexed complete
        have groupSound := expressionSound 1 (by decide)
        cases ts with
        | nil => cases complete
        | cons t rest =>
            cases t with
            | operator operator => exact readFirstGroup_sound groupSound lexed complete
            | opening => exact readFirstGroup_sound groupSound lexed complete
            | closing => exact readFirstGroup_sound groupSound lexed complete
            | numeral text =>
                cases valued : numeralValue? text with
                | none =>
                    simp only [readOperand, valued, Bool.false_eq_true] at complete
                | some value =>
                    obtain ⟨first, rfl, rfl⟩ :=
                      exists_numeral_of_value (lexed.chars text List.mem_cons_self) valued
                    simp only [readOperand, valued] at complete ⊢
                    obtain ⟨whole, final⟩ := readGroups_sound groupSound rest.length
                      (.numeral first) rest lexed.tail (Nat.le_refl _) trivial
                      (Nat.lt_succ_self 4) lexed.head_of_numeral complete
                    exact ⟨whole, final.extend (List.suffix_cons _ _) fun _ => rfl⟩

/-- **Soundness.** A complete reading has read a well-formed phrase, and has stopped where
no operator goes on with it. -/
theorem readExpression_sound (depth : Nat) {least : Nat} (le : least ≤ 5) :
    Sound least (readExpression depth least) :=
  (reading_sound depth).1 least le

end Dice

end DiceLedger
