import DiceLedger.Dice.Evaluation
import DiceLedger.Proofs.Dice.OnePass

/-! # Evaluating while reading gives the value of what is read

The pass applies an operator where the reading of the same tokens notes a step. So after every
call the steps that were noted, run from the same state, have left the source in the state of the
cursor (`DiceLedger.Dice.Agrees`): with a value, they leave it on the stack; a call fails where
the reading meets a fault, or where the run of the steps ends, and then no later step matters.
-/

namespace DiceLedger

namespace Dice

variable {σ : Type}

section Runs

variable {source : Source σ} {first later steps : List Step} {state middle reached : σ}

/-- Steps that lead from one state to another and leave a number on the stack, if there is one. -/
def Leaves (source : Source σ) (steps : List Step) (state : σ) (number : Option Binary64)
    (reached : σ) : Prop :=
  ∀ (rest : List Step) (stack : List Binary64),
    run source (steps ++ rest) stack state = run source rest (number.toList ++ stack) reached

/-- Steps whose run ends at an operator without a result. -/
def Fails (source : Source σ) (steps : List Step) (state reached : σ) : Prop :=
  ∀ (rest : List Step) (stack : List Binary64),
    run source (steps ++ rest) stack state = (none, reached)

/-- What fails among its first steps fails. -/
theorem Fails.of_front (fails : Fails source first state reached) (front : first <+: steps) :
    Fails source steps state reached := by
  obtain ⟨more, rfl⟩ := front
  intro rest stack
  rw [List.append_assoc, fails]

/-- A failure behind steps that succeed is a failure of the whole. -/
theorem Leaves.fails {number : Option Binary64} (leaves : Leaves source first state number middle)
    (fails : Fails source later middle reached) : Fails source (first ++ later) state reached := by
  intro rest stack
  rw [List.append_assoc, leaves, fails]

/-- Steps that leave a number leave it on top of any stack. -/
theorem Leaves.run {number : Option Binary64} (leaves : Leaves source first state number middle)
    (stack : List Binary64) :
    Dice.run source (first ++ later) stack state =
      Dice.run source later (number.toList ++ stack) middle := leaves later stack

/-- Steps leave the source in one state, whatever is on the stack. -/
theorem Leaves.state_run {number : Option Binary64}
    (leaves : Leaves source steps state number reached) (stack : List Binary64) :
    (Dice.run source steps stack state).2 = reached := by
  have ran := leaves [] stack
  rw [List.append_nil] at ran
  rw [ran]
  rfl

/-- An operator behind the steps of its operands. -/
theorem Leaves.run_apply {left right : Binary64} {operator : Operator}
    (leftLeaves : Leaves source first state (some left) middle)
    (rightLeaves : Leaves source later middle (some right) reached) (rest : List Step)
    (stack : List Binary64) :
    Dice.run source (first ++ later ++ [.apply operator] ++ rest) stack state =
      match apply source operator left right reached with
      | (some value, state) => Dice.run source rest (value :: stack) state
      | (none, state) => (none, state) := by
  rw [List.append_assoc, List.append_assoc, leftLeaves, rightLeaves]
  rfl

/-- A group behind an operand multiplies it, and stands for itself where there is none. -/
theorem Leaves.withGroup {value : Option Binary64} {inner : Binary64}
    (leaves : Leaves source first state value middle)
    (groupLeaves : Leaves source later middle (some inner) reached) :
    Leaves source (stepsWithGroup value.isSome first later) state
      (some ((value.map (· * inner)).getD inner)) reached := by
  intro rest stack
  cases value with
  | none =>
    simp only [stepsWithGroup, Option.isSome_none, Bool.false_eq_true, ↓reduceIte,
      List.append_nil]
    rw [List.append_assoc, leaves, groupLeaves]
    rfl
  | some left => exact leaves.run_apply groupLeaves rest stack

end Runs

/-- A call from a state agrees with the reading of the same tokens. -/
inductive Agrees (tokens : List Token) (source : Source σ) (state : σ) (reading : Reading) :
    Ending × Cursor σ → Prop
  | value {number : Binary64} {reached : Cursor σ} (complete : reading.complete = true)
    (rest : reading.rest = tokens.drop reached.position)
    (leaves : Leaves source reading.steps state (some number) reached.state) :
    Agrees tokens source state reading (.value number, reached)
  | fault {ending : Ending} {reached : Cursor σ} (failed : ending.value? = none)
    (incomplete : reading.complete = false)
    (ran : ∀ stack, (run source reading.steps stack state).2 = reached.state) :
    Agrees tokens source state reading (ending, reached)
  | refused {ending : Ending} {reached : Cursor σ} (failed : ending.value? = none)
    (fails : Fails source reading.steps state reached.state) :
    Agrees tokens source state reading (ending, reached)

section Operators

variable {tokens : List Token} {source : Source σ}

/-- A call with a value was read whole, and its steps leave the value. -/
theorem Agrees.of_value {state : σ} {reading : Reading} {number : Binary64} {reached : Cursor σ}
    (agrees : Agrees tokens source state reading (.value number, reached)) :
    reading.complete = true ∧ reading.rest = tokens.drop reached.position ∧
      Leaves source reading.steps state (some number) reached.state := by
  cases agrees with
  | value complete rest leaves => exact ⟨complete, rest, leaves⟩
  | fault failed => cases failed
  | refused failed => cases failed

/-- The steps that are there stay in front of those of the operators. -/
theorem prefix_readOperators (right : Nat → List Token → Reading) (least bound : Nat)
    (steps : List Step) (ts : List Token) :
    steps <+: (readOperators right least bound steps ts).steps := by
  fun_induction readOperators right least bound steps ts with
  | case1 bound steps operator rest tight operand complete ih =>
    exact (List.prefix_append _ _).trans ((List.prefix_append _ _).trans ih)
  | case2 => exact List.prefix_append _ _
  | case3 => exact List.prefix_rfl
  | case4 => exact List.prefix_rfl

/-- The steps of an operand are noted whether or not it is complete. -/
theorem prefix_readOperators_operator {right : Nat → List Token → Reading} {least bound : Nat}
    {steps : List Step} {operator : Operator} (tight : least ≤ operator.precedence)
    (rest : List Token) :
    steps ++ (right (operator.precedence + 1) rest).steps <+:
      (readOperators right least (bound + 1) steps (.operator operator :: rest)).steps := by
  unfold readOperators
  simp only [if_pos tight]
  split
  · exact (List.prefix_append _ _).trans (prefix_readOperators _ _ _ _ _)
  · exact List.prefix_rfl

/-- Operators are evaluated as they are read, and their operands with them. -/
theorem evaluateOperators_agrees {right : Nat → Call σ} {reader : Nat → List Token → Reading}
    {least inner : Nat} {state : σ}
    (rightProgress : ∀ (least : Nat) (cursor : Cursor σ), cursor.position ≤ tokens.length →
      Progress tokens least inner cursor (right least cursor))
    (rightAgrees : ∀ (least : Nat) (cursor : Cursor σ), cursor.position ≤ tokens.length →
      Agrees tokens source cursor.state (reader least (tokens.drop cursor.position))
        (right least cursor)) (turns : Nat) :
    ∀ (bound : Nat) (left : Binary64) (cursor : Cursor σ) (steps : List Step),
      cursor.position ≤ tokens.length → tokens.length < cursor.position + turns →
      tokens.length ≤ cursor.position + bound →
      Leaves source steps state (some left) cursor.state →
      Agrees tokens source state
        (readOperators reader least bound steps (tokens.drop cursor.position))
        (evaluateOperators tokens source right least turns left cursor) := by
  induction turns with
  | zero =>
    intro bound left cursor steps within enough
    omega
  | succ turns ih =>
    intro bound left cursor steps within enough long leaves
    have inside {operator : Operator} {ending : Ending} {reached : Cursor σ}
        (here : tokens[cursor.position]? = some (.operator operator))
        (called : right (operator.precedence + 1) cursor.advance = (ending, reached)) :
        ∃ bound', bound = bound' + 1 ∧
          Progress tokens (operator.precedence + 1) inner cursor.advance (ending, reached) ∧
          Agrees tokens source cursor.state
            (reader (operator.precedence + 1) (tokens.drop (cursor.position + 1)))
            (ending, reached) := by
      have behind := (List.getElem?_eq_some_iff.mp here).1
      exact ⟨bound - 1, by omega, called ▸ rightProgress _ cursor.advance behind,
        called ▸ rightAgrees _ cursor.advance behind⟩
    have turn := operatorsTurn tokens source right least turns left cursor
    generalize evaluateOperators tokens source right least (turns + 1) left cursor = result
      at turn ⊢
    cases turn with
    | done loose =>
      rw [readOperators_of_head fun operator head => loose operator (List.head?_drop ▸ head)]
      exact .value rfl rfl leaves
    | failed here tight called failed =>
      obtain ⟨bound, rfl, -, agrees⟩ := inside here called
      rw [drop_of_getElem? here]
      cases agrees with
      | value => cases failed
      | fault _ incomplete ran =>
        rw [readOperators_fault tight incomplete]
        exact .fault failed rfl fun stack => by rw [leaves.run, ran]
      | refused _ fails =>
        exact .refused failed
          ((leaves.fails fails).of_front (prefix_readOperators_operator tight _))
    | refused here tight called applied =>
      obtain ⟨bound, rfl, -, agrees⟩ := inside here called
      rw [drop_of_getElem? here]
      obtain ⟨complete, -, rightLeaves⟩ := agrees.of_value
      rw [readOperators_operator tight complete]
      refine .refused rfl (Fails.of_front (fun rest stack => ?_) (prefix_readOperators _ _ _ _ _))
      rw [leaves.run_apply rightLeaves, applied]
    | @further operator operand value reached after here tight called applied =>
      obtain ⟨bound, rfl, progress, agrees⟩ := inside here called
      rw [drop_of_getElem? here]
      obtain ⟨complete, rest, rightLeaves⟩ := agrees.of_value
      have further : cursor.position + 1 < reached.position := (progress.value rfl).1
      rw [readOperators_operator tight complete, rest]
      refine ih bound value { reached with state := after } _ progress.within
        (by dsimp only; omega) (by dsimp only; omega) fun rest stack => ?_
      rw [leaves.run_apply rightLeaves, applied]
      rfl

end Operators

section Groups

variable {tokens : List Token} {source : Source σ}

/-- The steps that are there stay in front of those of the groups. -/
theorem prefix_readGroups (group : List Token → Reading) (bound : Nat) (operandRead : Bool)
    (steps : List Step) (ts : List Token) :
    steps <+: (readGroups group bound operandRead steps ts).steps := by
  fun_induction readGroups group bound operandRead steps ts with
  | case1 => exact (List.prefix_append _ _).trans (List.prefix_append _ _)
  | case2 bound operandRead steps rest inner complete after joined other ih =>
    exact (List.prefix_append _ _).trans ((List.prefix_append _ _).trans ih)
  | case3 => exact List.prefix_append _ _
  | case4 => exact List.prefix_rfl

/-- The steps of a group are noted whether or not it is complete. -/
theorem prefix_readGroups_opening (group : List Token → Reading) (bound : Nat)
    (operandRead : Bool) (steps : List Step) (rest : List Token) :
    steps ++ (group rest).steps <+:
      (readGroups group (bound + 1) operandRead steps (.opening :: rest)).steps := by
  unfold readGroups
  dsimp only
  split
  · split
    · exact List.prefix_append _ _
    · exact (List.prefix_append _ _).trans (prefix_readGroups _ _ _ _ _)
  · exact List.prefix_rfl

/-- Groups are evaluated as they are read. -/
theorem evaluateGroups_agrees {group : Call σ} {reader : List Token → Reading} {inner : Nat}
    {state : σ}
    (groupProgress : ∀ cursor : Cursor σ, cursor.position ≤ tokens.length →
      Progress tokens 1 inner cursor (group cursor))
    (groupAgrees : ∀ cursor : Cursor σ, cursor.position ≤ tokens.length →
      Agrees tokens source cursor.state (reader (tokens.drop cursor.position)) (group cursor))
    (turns : Nat) :
    ∀ (bound : Nat) (value : Option Binary64) (cursor : Cursor σ) (steps : List Step),
      cursor.position ≤ tokens.length → tokens.length < cursor.position + turns →
      tokens.length ≤ cursor.position + bound → Leaves source steps state value cursor.state →
      Agrees tokens source state
        (readGroups reader bound value.isSome steps (tokens.drop cursor.position))
        (evaluateGroups tokens group turns value cursor) := by
  induction turns with
  | zero =>
    intro bound value cursor steps within enough
    omega
  | succ turns ih =>
    intro bound value cursor steps within enough long leaves
    have inside {ending : Ending} {reached : Cursor σ}
        (here : tokens[cursor.position]? = some .opening)
        (called : group cursor.advance = (ending, reached)) :
        ∃ bound', bound = bound' + 1 ∧
          Progress tokens 1 inner cursor.advance (ending, reached) ∧
          Agrees tokens source cursor.state (reader (tokens.drop (cursor.position + 1)))
            (ending, reached) := by
      have behind := (List.getElem?_eq_some_iff.mp here).1
      exact ⟨bound - 1, by omega, called ▸ groupProgress cursor.advance behind,
        called ▸ groupAgrees cursor.advance behind⟩
    have turn := groupsTurn tokens group turns value cursor
    generalize evaluateGroups tokens group (turns + 1) value cursor = result at turn ⊢
    cases turn with
    | done other =>
      rw [readGroups_of_head_ne (List.head?_drop ▸ other)]
      cases value with
      | none => exact .fault rfl rfl leaves.state_run
      | some number => exact .value rfl rfl leaves
    | failed here called failed =>
      obtain ⟨bound, rfl, -, agrees⟩ := inside here called
      rw [drop_of_getElem? here]
      cases agrees with
      | value => cases failed
      | fault _ incomplete ran =>
        rw [readGroups_fault incomplete]
        exact .fault failed rfl fun stack => by rw [leaves.run, ran]
      | refused _ fails =>
        exact .refused failed ((leaves.fails fails).of_front (prefix_readGroups_opening ..))
    | @joined number reached text here called joins =>
      obtain ⟨bound, rfl, progress, agrees⟩ := inside here called
      rw [drop_of_getElem? here]
      obtain ⟨complete, rest, groupLeaves⟩ := agrees.of_value
      have closes := (progress.value rfl).2.closes_passClosing
      rw [drop_of_getElem? joins, ← rest] at closes
      rw [readGroups_numeral complete closes]
      refine .fault rfl rfl fun stack => ?_
      rw [(leaves.withGroup groupLeaves).state_run, reached.state_passClosing]
    | @further number reached here called apart =>
      obtain ⟨bound, rfl, progress, agrees⟩ := inside here called
      rw [drop_of_getElem? here]
      obtain ⟨complete, rest, groupLeaves⟩ := agrees.of_value
      obtain ⟨moved, stops⟩ := progress.value rfl
      have moved : cursor.position + 1 < reached.position := moved
      have closes_le := (reached.before_passClosing tokens).position_le
      have closes := stops.closes_passClosing
      rw [← rest] at closes
      rw [readGroups_opening complete closes fun text head =>
        apart text (List.head?_drop ▸ head)]
      refine ih bound (some _) (reached.passClosing tokens) _
        (reached.passClosing_le progress.within) (by omega) (by omega) ?_
      rw [reached.state_passClosing]
      exact leaves.withGroup groupLeaves

end Groups

section Evaluation

variable {tokens : List Token}

/-- The steps of an operand stay in front of those of its expression. -/
theorem prefix_readExpression (depth least : Nat) (ts : List Token) :
    (readOperand depth ts).steps <+: (readExpression (depth + 1) least ts).steps := by
  unfold readExpression
  dsimp only
  split
  · exact prefix_readOperators _ _ _ _ _
  · exact List.prefix_rfl

/-- Every call agrees with the reading of the tokens before it. -/
theorem agrees (lexed : Lexed tokens) (source : Source σ) (depth : Nat) :
    (∀ (least : Nat) (cursor : Cursor σ), cursor.position ≤ tokens.length →
      Agrees tokens source cursor.state (readExpression depth least (tokens.drop cursor.position))
        (evaluateExpression tokens source depth least cursor)) ∧
    ∀ cursor : Cursor σ, cursor.position ≤ tokens.length →
      Agrees tokens source cursor.state (readOperand depth (tokens.drop cursor.position))
        (evaluateOperand tokens source depth cursor) := by
  induction depth with
  | zero =>
    exact ⟨fun least cursor _ => .fault rfl rfl fun _ => rfl,
      fun cursor _ => .fault rfl rfl fun _ => rfl⟩
  | succ depth ih =>
    obtain ⟨expressions, operands⟩ := ih
    obtain ⟨expressionsProgress, operandsProgress⟩ := progress lexed source depth
    refine ⟨fun least cursor within => ?_, fun cursor within => ?_⟩
    · have operand := operands cursor within
      have progress := operandsProgress cursor within
      unfold evaluateExpression
      split
      · next left reached called =>
        rw [called] at operand progress
        have reached_le := progress.within
        obtain ⟨complete, rest, leaves⟩ := operand.of_value
        rw [readExpression, if_pos complete, rest, List.length_drop]
        exact evaluateOperators_agrees expressionsProgress expressions _ _ left reached _
          reached_le (by omega) (by omega) leaves
      · next other =>
        have failed := value?_eq_none other
        generalize evaluateOperand tokens source depth cursor = result at operand failed ⊢
        cases operand with
        | value => cases failed
        | fault _ incomplete ran =>
          rw [readExpression, if_neg (by simp [incomplete])]
          exact .fault failed incomplete ran
        | refused _ fails =>
          exact .refused failed (fails.of_front (prefix_readExpression depth least _))
    · unfold evaluateOperand
      split
      · next text here =>
        have behind := (List.getElem?_eq_some_iff.mp here).1
        rw [drop_of_getElem? here, readOperand]
        cases numeralValue? text with
        | none => exact .fault rfl rfl fun _ => rfl
        | some value =>
          dsimp only
          rw [List.length_drop]
          exact evaluateGroups_agrees (expressionsProgress 1) (expressions 1) _ _ (some value)
            cursor.advance [.push value] behind (by omega)
            (by simp only [Cursor.advance]; omega) fun _ _ => rfl
      · next here =>
        rw [readOperand_of_head_ne (by simp [here]), List.length_drop]
        exact evaluateGroups_agrees (expressionsProgress 1) (expressions 1) _ _ none cursor []
          within (by omega) (by omega) fun _ _ => rfl
      · next noNumeral noGroup =>
        rw [readOperand_of_head_ne (by simpa using noNumeral),
          readGroups_of_head_ne (by simpa using noGroup)]
        exact .fault rfl rfl fun _ => rfl

/-- **A text comes to the same value in one pass as in two**, and leaves the source in the same
state. -/
theorem Agrees.value_eq {source : Source σ} {state : σ} {reading : Reading}
    {result : Ending × Cursor σ} (agrees : Agrees tokens source state reading result) :
    reading.value source state = (result.1.value?, result.2.state) := by
  cases agrees with
  | value complete _ leaves =>
    have ran := leaves [] []
    rw [List.append_nil] at ran
    simp only [Reading.value, ran, run, complete]
    rfl
  | fault failed incomplete ran =>
    have state_run := ran []
    rw [failed, ← state_run]
    unfold Reading.value
    split
    · next ran => simp only [incomplete, Bool.false_eq_true, ↓reduceIte, ran]
    · next ran => rw [ran]
  | refused failed fails =>
    have ran := fails [] []
    rw [List.append_nil] at ran
    simp only [Reading.value, ran, failed]

end Evaluation

/-- **Every call of the pass over a text makes progress**, from whatever position it begins and
however deeply it may nest; nesting deeper changes nothing where it is deep enough, and the call
gives the value of what is read there. So the evaluation of a text moves on at most once for
every token. -/
theorem calls_progress (source : Source σ) (text : String) (least depth : Nat) (state : σ)
    (start : Cursor σ) (within : start.position ≤ (tokens text.toList).length) :
    let ts := tokens text.toList
    let expression := evaluateExpression ts source depth least start
    let operand := evaluateOperand ts source depth start
    let whole := evaluateExpression ts source maxDepth 1 ⟨0, 0, state⟩
    (Progress ts least (depth - 1) start expression ∧
      (expression.1 ≠ .tooDeep → ∀ deeper, depth ≤ deeper →
        evaluateExpression ts source deeper least start = expression) ∧
      (readExpression depth least (ts.drop start.position)).value source start.state =
        (expression.1.value?, expression.2.state)) ∧
    (Progress ts 5 depth start operand ∧
      (operand.1 ≠ .tooDeep → ∀ deeper, depth ≤ deeper →
        evaluateOperand ts source deeper start = operand) ∧
      (readOperand depth (ts.drop start.position)).value source start.state =
        (operand.1.value?, operand.2.state)) ∧
    evaluate source text state = (whole.1.value?, whole.2.state) ∧
      whole.2.advances ≤ ts.length := by
  intro ts expression operand whole
  have lexed : Lexed ts := lexed_tokens text.toList
  obtain ⟨expressions, operands⟩ := progress lexed source depth
  obtain ⟨expressionsAgree, operandsAgree⟩ := agrees lexed source depth
  have first := (progress lexed source maxDepth).1 1 ⟨0, 0, state⟩ (Nat.zero_le _)
  have agreed := (agrees lexed source maxDepth).1 1 ⟨0, 0, state⟩ (Nat.zero_le _)
  refine ⟨⟨expressions least start within, fun shallow deeper le => ?_,
      (expressionsAgree least start within).value_eq⟩,
    ⟨operands start within, fun shallow deeper le => ?_,
      (operandsAgree start within).value_eq⟩, agreed.value_eq, ?_⟩
  · exact (extends_of_le ts source le).1 least start shallow
  · exact (extends_of_le ts source le).2 start shallow
  · have advances : whole.2.advances + 0 = 0 + whole.2.position := first.before.advances
    have whole_within : whole.2.position ≤ ts.length := first.within
    omega

/-- From the group behind the first numeral: the call passes it and stops at the operator. -/
theorem calls_progress_group :
    (tokens "2(3+4) d (6".toList).length = 9 ∧
      let operand := evaluateOperand (tokens "2(3+4) d (6".toList)
        (⟨fun _ state => (1, state)⟩ : Source Unit) 20 ⟨1, 1, ()⟩
      let whole := evaluateExpression (tokens "2(3+4) d (6".toList)
        (⟨fun _ state => (1, state)⟩ : Source Unit) maxDepth 1 ⟨0, 0, ()⟩
      operand.1.value? = some 7 ∧ 1 < operand.2.position ∧
        Stops 5 ((tokens "2(3+4) d (6".toList).drop operand.2.position) ∧
        whole.2.advances ≤ (tokens "2(3+4) d (6".toList).length := by
  obtain ⟨-, ⟨progress, -, -⟩, -, advances⟩ := calls_progress
    (⟨fun _ state => (1, state)⟩ : Source Unit) "2(3+4) d (6" 1 20 () ⟨1, 1, ()⟩ (by decide)
  obtain ⟨moved, stops⟩ := progress.value (by decide +kernel)
  exact ⟨by decide, by decide +kernel, moved, stops, advances⟩

end Dice

end DiceLedger
