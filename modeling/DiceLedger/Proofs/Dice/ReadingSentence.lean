import DiceLedger.Proofs.Dice.ReadingSound

/-! # A text is read as its sentence

Reading takes the same steps whether it reads tokens or their sentence
(`DiceLedger.Dice.readExpression_balanced`): a group that is still open where the tokens end
is closed there, and behind a closing parenthesis that nothing opened nothing is read. So
texts of one sentence have one evaluation (`DiceLedger.Dice.evaluate_congr_sentence`).
-/

namespace DiceLedger

namespace Dice

/-- A reading of tokens and another one of their sentence, with `opened` groups opened before:
they take the same steps, and stop at the same place unless they meet a fault. -/
structure ReadAlike (opened : Nat) (reading other : Reading) : Prop where
  steps : other.steps = reading.steps
  complete : other.complete = reading.complete
  rest : reading.complete = true → other.rest = balanced opened reading.rest

theorem ReadAlike.fault (opened : Nat) (steps : List Step) (rest other : List Token) :
    ReadAlike opened ⟨steps, false, rest⟩ ⟨steps, false, other⟩ :=
  ⟨rfl, rfl, fun complete => absurd complete Bool.false_ne_true⟩

/-- A reader that takes the same steps on a sentence. -/
def Alike (reader : List Token → Reading) : Prop :=
  ∀ opened ts, Lexed ts → ReadAlike opened (reader ts) (reader (balanced opened ts))

/-- Only closing parentheses are added to a sentence. -/
theorem head_of_head_balanced {opened : Nat} {ts : List Token} {t : Token} (other : t ≠ .closing)
    (head : (balanced opened ts).head? = some t) : ts.head? = some t := by
  cases ts with
  | nil =>
      cases opened with
      | zero => cases head
      | succ opened => exact absurd (Option.some.inj head).symm other
  | cons first rest =>
      cases first with
      | closing =>
          cases opened with
          | zero => cases head
          | succ opened => exact absurd (Option.some.inj head).symm other
      | _ => exact head

/-- The sentence of what a reading leaves is no longer than that of what it was given. -/
theorem ReadAs.length_le {least : Nat} {ts : List Token} {reading : Reading} {phrase : Phrase}
    (read : ReadAs [] least ts reading phrase) (opened : Nat) :
    (balanced opened reading.rest).length ≤ (balanced opened ts).length := by
  have tokens := read.tokens opened
  rw [List.nil_append] at tokens
  rw [tokens, List.length_append]
  exact Nat.le_add_left _ _

theorem readOperators_alike {right : Nat → List Token → Reading} {least : Nat}
    (rightSound : ∀ operator : Operator,
      Sound (operator.precedence + 1) (right (operator.precedence + 1)))
    (rightAlike : ∀ operator : Operator, Alike (right (operator.precedence + 1)))
    (opened bound : Nat) :
    ∀ (other : Nat) (steps : List Step) (ts : List Token), Lexed ts → ts.length ≤ bound →
      (balanced opened ts).length ≤ other →
      ReadAlike opened (readOperators right least bound steps ts)
        (readOperators right least other steps (balanced opened ts)) := by
  have done (bound other : Nat) (steps : List Step) {ts : List Token}
      (loose : ∀ operator, ts.head? = some (.operator operator) → operator.precedence < least) :
      ReadAlike opened (readOperators right least bound steps ts)
        (readOperators right least other steps (balanced opened ts)) := by
    rw [readOperators_of_head loose, readOperators_of_head fun operator head =>
      loose operator (head_of_head_balanced (by simp) head)]
    exact ⟨rfl, rfl, fun _ => rfl⟩
  induction bound with
  | zero =>
      intro other steps ts _ short _
      obtain rfl := List.eq_nil_of_length_eq_zero (Nat.le_zero.mp short)
      exact done 0 other steps (by rintro operator ⟨⟩)
  | succ bound ih =>
      intro other steps ts lexed short enough
      by_cases loose :
        ∀ operator, ts.head? = some (.operator operator) → operator.precedence < least
      · exact done _ other steps loose
      · obtain ⟨operator, head, tight⟩ : ∃ operator, ts.head? = some (.operator operator) ∧
            least ≤ operator.precedence := by simpa using loose
        obtain ⟨rest, rfl⟩ := List.head?_eq_some_iff.mp head
        rw [balanced, List.length_cons] at enough
        obtain ⟨other, rfl⟩ := Nat.exists_eq_add_of_le' (Nat.one_le_of_lt enough)
        have alike := rightAlike operator opened rest lexed.tail
        rw [balanced]
        cases read : (right (operator.precedence + 1) rest).complete with
        | false =>
            rw [readOperators_fault tight read,
              readOperators_fault tight (alike.complete.trans read), alike.steps]
            exact ReadAlike.fault _ _ _ _
        | true =>
            obtain ⟨operand, sound⟩ := rightSound operator rest lexed.tail read
            rw [readOperators_operator tight read,
              readOperators_operator tight (alike.complete.trans read), alike.steps,
              alike.rest read]
            exact ih other _ _ (lexed.tail.suffix sound.suffix)
              (Nat.le_trans sound.suffix.length_le (Nat.le_of_succ_le_succ short))
              (Nat.le_trans (sound.length_le opened) (Nat.le_of_succ_le_succ enough))

theorem readGroups_alike {group : List Token → Reading} (groupSound : Sound 1 group)
    (groupAlike : Alike group) (opened bound : Nat) :
    ∀ (other : Nat) (operandRead : Bool) (steps : List Step) (ts : List Token), Lexed ts →
      ts.length ≤ bound → (balanced opened ts).length ≤ other →
      ReadAlike opened (readGroups group bound operandRead steps ts)
        (readGroups group other operandRead steps (balanced opened ts)) := by
  have done (bound other : Nat) (operandRead : Bool) (steps : List Step) {ts : List Token}
      (none : ts.head? ≠ some .opening) :
      ReadAlike opened (readGroups group bound operandRead steps ts)
        (readGroups group other operandRead steps (balanced opened ts)) := by
    rw [readGroups_of_head_ne none, readGroups_of_head_ne fun head =>
      none (head_of_head_balanced (by simp) head)]
    exact ⟨rfl, rfl, fun _ => rfl⟩
  induction bound with
  | zero =>
      intro other operandRead steps ts _ short _
      obtain rfl := List.eq_nil_of_length_eq_zero (Nat.le_zero.mp short)
      exact done 0 other operandRead steps (by rintro ⟨⟩)
  | succ bound ih =>
      intro other operandRead steps ts lexed short enough
      by_cases head : ts.head? = some .opening
      · obtain ⟨rest, rfl⟩ := List.head?_eq_some_iff.mp head
        rw [balanced, List.length_cons] at enough
        obtain ⟨other, rfl⟩ := Nat.exists_eq_add_of_le' (Nat.one_le_of_lt enough)
        have alike := groupAlike (opened + 1) rest lexed.tail
        rw [balanced]
        cases read : (group rest).complete with
        | false =>
            rw [readGroups_fault read, readGroups_fault (alike.complete.trans read), alike.steps]
            exact ReadAlike.fault _ _ _ _
        | true =>
            obtain ⟨inner, sound⟩ := groupSound rest lexed.tail read
            obtain ⟨us, closes⟩ := sound.stops.exists_closes
            -- Where the tokens end before the group does, the sentence closes it.
            have ends : Closes (group (balanced (opened + 1) rest)).rest (balanced opened us) :=
              Or.inl ((alike.rest read).trans (closes.balanced opened))
            by_cases apart : ∀ text, us.head? ≠ some (.numeral text)
            · rw [readGroups_opening read closes apart,
                readGroups_opening (alike.complete.trans read) ends fun text head =>
                  apart text (head_of_head_balanced (by simp) head), alike.steps]
              have behind := closes.suffix.trans sound.suffix
              have shorter := sound.length_le (opened + 1)
              rw [closes.balanced, List.length_cons] at shorter
              exact ih other true _ us (lexed.tail.suffix behind)
                (Nat.le_trans behind.length_le (Nat.le_of_succ_le_succ short))
                (Nat.le_trans (Nat.le_of_succ_le shorter) (Nat.le_of_succ_le_succ enough))
            · obtain ⟨text, next⟩ : ∃ text, us.head? = some (.numeral text) := by
                simpa using apart
              obtain ⟨later, rfl⟩ := List.head?_eq_some_iff.mp next
              rw [readGroups_numeral read closes,
                readGroups_numeral (alike.complete.trans read) ends, alike.steps]
              exact ReadAlike.fault _ _ _ _
      · exact done _ other operandRead steps head

/-- Readers of every depth take the same steps on a sentence. -/
theorem reading_alike (depth : Nat) :
    (∀ least, least ≤ 5 → Alike (readExpression depth least)) ∧ Alike (readOperand depth) := by
  induction depth with
  | zero => exact ⟨fun _ _ _ _ _ => ReadAlike.fault _ _ _ _, fun _ _ _ => ReadAlike.fault _ _ _ _⟩
  | succ depth ih =>
      obtain ⟨expressionAlike, operandAlike⟩ := ih
      have expressionSound := (reading_sound depth).1
      constructor
      · intro least _ opened ts lexed
        have alike := operandAlike opened ts lexed
        cases read : (readOperand depth ts).complete with
        | false =>
            simp only [readExpression, alike.complete, read, Bool.false_eq_true, ↓reduceIte]
            exact alike
        | true =>
            obtain ⟨operand, sound⟩ := (reading_sound depth).2 ts lexed read
            simp only [readExpression, alike.complete, read, ↓reduceIte, alike.steps,
              alike.rest read]
            exact readOperators_alike
              (fun operator => expressionSound _ (Nat.succ_le_succ operator.precedence_le))
              (fun operator => expressionAlike _ (Nat.succ_le_succ operator.precedence_le))
              opened _ _ _ _ (lexed.suffix sound.suffix) (Nat.le_refl _) (Nat.le_refl _)
      · intro opened ts lexed
        have groups := readGroups_alike (expressionSound 1 (by decide))
          (expressionAlike 1 (by decide)) opened
        by_cases plain : ∀ text, ts.head? ≠ some (.numeral text)
        · rw [readOperand_of_head_ne plain, readOperand_of_head_ne fun text head =>
            plain text (head_of_head_balanced (by simp) head)]
          exact groups _ _ _ _ ts lexed (Nat.le_refl _) (Nat.le_refl _)
        · obtain ⟨text, head⟩ : ∃ text, ts.head? = some (.numeral text) := by simpa using plain
          obtain ⟨rest, rfl⟩ := List.head?_eq_some_iff.mp head
          cases valued : numeralValue? text with
          | none =>
              simp only [balanced, readOperand, valued]
              exact ReadAlike.fault _ _ _ _
          | some value =>
              simp only [balanced, readOperand, valued]
              exact groups _ _ _ _ rest lexed.tail (Nat.le_refl _) (Nat.le_refl _)

/-- Reading tokens takes the same steps as reading their sentence. -/
theorem readExpression_balanced (depth : Nat) {least : Nat} (le : least ≤ 5) :
    Alike (readExpression depth least) :=
  (reading_alike depth).1 least le

variable {σ : Type}

/-- A text is evaluated as its sentence is. -/
theorem evaluate_sentence (source : Source σ) (text : String) (state : σ) :
    evaluate source text state =
      (readExpression maxDepth 1 (sentence text)).value source state := by
  have alike := readExpression_balanced maxDepth (by decide : 1 ≤ 5) 0 _
    (lexed_tokens text.toList)
  rw [evaluate, Reading.value, Reading.value, sentence, alike.steps, alike.complete]
  rfl

/-- **What stands behind the sentence of a text changes neither its value nor the dice
rolled for it.** -/
theorem evaluate_congr_sentence (source : Source σ) {text other : String}
    (same : sentence other = sentence text) (state : σ) :
    evaluate source other state = evaluate source text state := by
  rw [evaluate_sentence, evaluate_sentence, same]

end Dice

end DiceLedger
