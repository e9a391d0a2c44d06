import DiceLedger.Proofs.Dice.Lexing
import DiceLedger.Proofs.Dice.Phrase

/-! # One turn of each reading loop

An expression ends where no operator and no group goes on with it
(`DiceLedger.Dice.Stops`), a group ends with its closing parenthesis or where the tokens end
(`DiceLedger.Dice.Closes`). The loops over operators and over groups either stop there or
take one more operand.
-/

namespace DiceLedger

namespace Dice

/-- Where an expression whose operators bind at least as tightly as `least` ends. -/
def Stops (least : Nat) : List Token → Prop
  | [] => True
  | .closing :: _ => True
  | .operator operator :: _ => operator.precedence < least
  | .numeral _ :: _ => False
  | .opening :: _ => False

/-- What stops operators that bind tightly stops those that bind tighter. -/
theorem Stops.mono {least greater : Nat} (le : least ≤ greater) {ts : List Token}
    (stops : Stops least ts) : Stops greater ts := by
  cases ts with
  | nil => trivial
  | cons t rest =>
      cases t with
      | closing => trivial
      | operator operator => exact Nat.lt_of_lt_of_le stops le
      | numeral text => exact stops
      | opening => exact stops

/-- Behind an expression stands no numeral. -/
theorem Stops.head_ne_numeral {least : Nat} {ts : List Token} (stops : Stops least ts)
    (text : List Char) : ts.head? ≠ some (.numeral text) := by
  intro head
  obtain ⟨rest, rfl⟩ := List.head?_eq_some_iff.mp head
  exact stops

/-- The end of a group, and what stands behind it: its closing parenthesis may be missing. -/
def Closes (behind us : List Token) : Prop :=
  behind = .closing :: us ∨ behind = [] ∧ us = []

/-- Every expression that stops before all operators stops at the end of its group. -/
theorem Stops.exists_closes {ts : List Token} (stops : Stops 1 ts) : ∃ us, Closes ts us := by
  cases ts with
  | nil => exact ⟨[], Or.inr ⟨rfl, rfl⟩⟩
  | cons t rest =>
      cases t with
      | closing => exact ⟨rest, Or.inl rfl⟩
      | operator operator => exact absurd stops (Nat.not_lt.mpr operator.precedence_pos)
      | numeral text => exact stops.elim
      | opening => exact stops.elim

/-- Behind the parenthesis that closes a group an end of the tokens is left. -/
theorem Closes.suffix {behind us : List Token} (closes : Closes behind us) : us <:+ behind := by
  rcases closes with rfl | ⟨rfl, rfl⟩
  · exact List.suffix_cons _ _
  · exact List.suffix_rfl

/-- In a sentence no closing parenthesis is missing. -/
theorem Closes.balanced {behind us : List Token} (closes : Closes behind us) (opened : Nat) :
    balanced (opened + 1) behind = .closing :: balanced opened us := by
  rcases closes with rfl | ⟨rfl, rfl⟩
  · rfl
  · rfl

section Operators

variable {right : Nat → List Token → Reading} {least bound : Nat} {steps : List Step}

/-- Operators that are too loose are left, and so is anything else. -/
theorem readOperators_of_head {ts : List Token}
    (loose : ∀ operator, ts.head? = some (.operator operator) → operator.precedence < least) :
    readOperators right least bound steps ts = ⟨steps, true, ts⟩ := by
  cases ts with
  | nil => cases bound <;> rfl
  | cons t rest =>
      cases t with
      | operator operator =>
          cases bound with
          | zero => rfl
          | succ bound =>
              have loose : ¬ least ≤ operator.precedence := Nat.not_le.mpr (loose operator rfl)
              simp only [readOperators, loose, ↓reduceIte]
      | _ => cases bound <;> rfl

/-- Where operators stop nothing is read. -/
theorem readOperators_of_stops {ts : List Token} (stops : Stops least ts) :
    readOperators right least bound steps ts = ⟨steps, true, ts⟩ := by
  refine readOperators_of_head fun operator head => ?_
  obtain ⟨rest, rfl⟩ := List.head?_eq_some_iff.mp head
  exact stops

/-- An operator that is tight enough is read with its right operand, and then the others. -/
theorem readOperators_operator {operator : Operator} (tight : least ≤ operator.precedence)
    {rest : List Token} (complete : (right (operator.precedence + 1) rest).complete = true) :
    readOperators right least (bound + 1) steps (.operator operator :: rest) =
      readOperators right least bound
        (steps ++ (right (operator.precedence + 1) rest).steps ++ [.apply operator])
        (right (operator.precedence + 1) rest).rest := by
  simp only [readOperators, tight, ↓reduceIte, complete]

/-- A right operand that is not read ends the reading. -/
theorem readOperators_fault {operator : Operator} (tight : least ≤ operator.precedence)
    {rest : List Token} (fault : (right (operator.precedence + 1) rest).complete = false) :
    readOperators right least (bound + 1) steps (.operator operator :: rest) =
      ⟨steps ++ (right (operator.precedence + 1) rest).steps, false,
        (right (operator.precedence + 1) rest).rest⟩ := by
  simp only [readOperators, tight, ↓reduceIte, fault, Bool.false_eq_true]

end Operators

section Groups

variable {group : List Token → Reading} {bound : Nat} {operandRead : Bool} {steps : List Step}

/-- Without an opening parenthesis no group is read. -/
theorem readGroups_of_head_ne {ts : List Token} (other : ts.head? ≠ some .opening) :
    readGroups group bound operandRead steps ts = ⟨steps, operandRead, ts⟩ := by
  cases ts with
  | nil => cases bound <;> rfl
  | cons t rest =>
      cases t with
      | opening => exact absurd rfl other
      | _ => cases bound <;> rfl

/-- The steps after one more group has been read. -/
def stepsWithGroup (operandRead : Bool) (steps inner : List Step) : List Step :=
  steps ++ inner ++ if operandRead then [.apply .multiply] else []

/-- A group that is closed is read, and then the others. -/
theorem readGroups_opening {rest us : List Token} (complete : (group rest).complete = true)
    (closes : Closes (group rest).rest us) (apart : ∀ text, us.head? ≠ some (.numeral text)) :
    readGroups group (bound + 1) operandRead steps (.opening :: rest) =
      readGroups group bound true (stepsWithGroup operandRead steps (group rest).steps) us := by
  rcases closes with behind | ⟨behind, rfl⟩
  · simp only [readGroups, complete, ↓reduceIte, behind]
    split
    · exact absurd rfl (apart _)
    · rfl
  · simp only [readGroups, complete, ↓reduceIte, behind]
    rfl

/-- No numeral may stand behind a group. -/
theorem readGroups_numeral {rest us : List Token} {text : List Char}
    (complete : (group rest).complete = true)
    (closes : Closes (group rest).rest (.numeral text :: us)) :
    readGroups group (bound + 1) operandRead steps (.opening :: rest) =
      ⟨stepsWithGroup operandRead steps (group rest).steps, false, .numeral text :: us⟩ := by
  rcases closes with behind | ⟨_, empty⟩
  · simp only [readGroups, complete, ↓reduceIte, behind]
    rfl
  · cases empty

/-- A group that is not read ends the reading. -/
theorem readGroups_fault {rest : List Token} (fault : (group rest).complete = false) :
    readGroups group (bound + 1) operandRead steps (.opening :: rest) =
      ⟨steps ++ (group rest).steps, false, (group rest).rest⟩ := by
  simp only [readGroups, fault, Bool.false_eq_true, ↓reduceIte]

end Groups

/-- What does not begin with a numeral begins with a group, if an operand can be read. -/
theorem readOperand_of_head_ne {depth : Nat} {ts : List Token}
    (other : ∀ text, ts.head? ≠ some (.numeral text)) :
    readOperand (depth + 1) ts =
      readGroups (readExpression depth 1) ts.length false [] ts := by
  cases ts with
  | nil => rfl
  | cons t rest =>
      cases t with
      | numeral text => exact absurd rfl (other text)
      | _ => rfl

/-- An operator begins no expression. -/
theorem readExpression_operator (depth least : Nat) (operator : Operator) (rest : List Token) :
    readExpression (depth + 2) least (.operator operator :: rest) =
      ⟨[], false, .operator operator :: rest⟩ := by
  have operand : readOperand (depth + 1) (.operator operator :: rest) =
      ⟨[], false, .operator operator :: rest⟩ := by
    rw [readOperand_of_head_ne (by simp), readGroups_of_head_ne (by simp)]
  rw [readExpression, operand]
  rfl

end Dice

end DiceLedger
