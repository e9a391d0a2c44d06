import DiceLedger.Dice.Evaluation
import DiceLedger.Proofs.Dice.ReadingLoops

/-! # Evaluating while reading

An expression can be evaluated in the pass that reads it: `evaluateExpression` and
`evaluateOperand` move a cursor over the tokens and apply every operator as soon as both of its
operands have values. Nothing but the position bounds the loops of the pass, and a call without
a value leaves that anywhere. Every call makes progress all the same (`DiceLedger.Dice.Progress`,
`DiceLedger.Dice.progress`).
-/

namespace DiceLedger

namespace Dice

variable {σ : Type}

/-- Where a pass stands among the tokens, how often it has moved on, and the state of the
source. -/
structure Cursor (σ : Type) where
  position : Nat
  advances : Nat
  state : σ

def Cursor.advance (cursor : Cursor σ) : Cursor σ :=
  { cursor with position := cursor.position + 1, advances := cursor.advances + 1 }

/-- How a call ends. -/
inductive Ending where
  | value (number : Binary64)
  | nothing
  /-- Calls nest deeper than they may. -/
  | tooDeep
  /-- A loop takes more turns than there are tokens. -/
  | endless

def Ending.value? : Ending → Option Binary64
  | .value number => some number
  | _ => none

def Ending.ofOption : Option Binary64 → Ending
  | some number => .value number
  | none => .nothing

/-- What a call makes of a cursor. -/
abbrev Call (σ : Type) := Cursor σ → Ending × Cursor σ

theorem value?_eq_none {result : Ending × Cursor σ}
    (other : ∀ number cursor, result = (.value number, cursor) → False) :
    result.1.value? = none := by
  obtain ⟨ending, cursor⟩ := result
  cases ending with
  | value number => exact (other number cursor rfl).elim
  | _ => rfl

section Pass

variable (tokens : List Token) (source : Source σ)

/-- Passes the parenthesis that closes a group, if it is there. -/
def Cursor.passClosing (cursor : Cursor σ) : Cursor σ :=
  if tokens[cursor.position]? = some .closing then cursor.advance else cursor

/-- Multiplies a value by those of the groups that follow it. -/
def evaluateGroups (group : Call σ) : (turns : Nat) → Option Binary64 → Call σ
  | 0, _, cursor => (.endless, cursor)
  | turns + 1, value, cursor =>
    match tokens[cursor.position]? with
    | some .opening =>
      match group cursor.advance with
      | (.value inner, cursor) =>
        let cursor := cursor.passClosing tokens
        match tokens[cursor.position]? with
        | some (.numeral _) => (.nothing, cursor)
        | _ => evaluateGroups group turns (some ((value.map (· * inner)).getD inner)) cursor
      | other => other
    | _ => (.ofOption value, cursor)

/-- Applies the operators that bind at least as tightly as `least` to a value. -/
def evaluateOperators (right : Nat → Call σ) (least : Nat) : (turns : Nat) → Binary64 → Call σ
  | 0, _, cursor => (.endless, cursor)
  | turns + 1, left, cursor =>
    match tokens[cursor.position]? with
    | some (.operator operator) =>
      if least ≤ operator.precedence then
        match right (operator.precedence + 1) cursor.advance with
        | (.value operand, cursor) =>
          match apply source operator left operand cursor.state with
          | (some value, state) =>
            evaluateOperators right least turns value { cursor with state := state }
          | (none, state) => (.nothing, { cursor with state := state })
        | other => other
      else (.value left, cursor)
    | _ => (.value left, cursor)

mutual

/-- Evaluates operands joined by operators that bind at least as tightly as `least`. -/
def evaluateExpression : (depth : Nat) → (least : Nat) → Call σ
  | 0, _, cursor => (.tooDeep, cursor)
  | depth + 1, least, cursor =>
    match evaluateOperand depth cursor with
    | (.value left, cursor) =>
      evaluateOperators tokens source (evaluateExpression depth) least (tokens.length + 1) left
        cursor
    | other => other

/-- Evaluates a numeral or a group, and the groups that follow it. -/
def evaluateOperand : (depth : Nat) → Call σ
  | 0, cursor => (.tooDeep, cursor)
  | depth + 1, cursor =>
    match tokens[cursor.position]? with
    | some (.numeral text) =>
      match numeralValue? text with
      | some value =>
        evaluateGroups tokens (evaluateExpression depth 1) (tokens.length + 1) (some value)
          cursor.advance
      | none => (.nothing, cursor.advance)
    | some .opening =>
      evaluateGroups tokens (evaluateExpression depth 1) (tokens.length + 1) none cursor
    | _ => (.nothing, cursor)

end

end Pass

section Turns

variable (tokens : List Token)

/-- What one turn of `evaluateGroups` can come to. -/
inductive GroupsTurn (group : Call σ) (turns : Nat) (value : Option Binary64)
    (cursor : Cursor σ) : Ending × Cursor σ → Prop
  | done (other : tokens[cursor.position]? ≠ some .opening) :
    GroupsTurn group turns value cursor (.ofOption value, cursor)
  | failed {ending : Ending} {reached : Cursor σ} (here : tokens[cursor.position]? = some .opening)
    (called : group cursor.advance = (ending, reached)) (failed : ending.value? = none) :
    GroupsTurn group turns value cursor (ending, reached)
  | joined {inner : Binary64} {reached : Cursor σ} {text : List Char}
    (here : tokens[cursor.position]? = some .opening)
    (called : group cursor.advance = (.value inner, reached))
    (joins : tokens[(reached.passClosing tokens).position]? = some (.numeral text)) :
    GroupsTurn group turns value cursor (.nothing, reached.passClosing tokens)
  | further {inner : Binary64} {reached : Cursor σ}
    (here : tokens[cursor.position]? = some .opening)
    (called : group cursor.advance = (.value inner, reached))
    (apart : ∀ text, tokens[(reached.passClosing tokens).position]? ≠ some (.numeral text)) :
    GroupsTurn group turns value cursor
      (evaluateGroups tokens group turns (some ((value.map (· * inner)).getD inner))
        (reached.passClosing tokens))

/-- One more group is what `GroupsTurn` says. -/
theorem groupsTurn (group : Call σ) (turns : Nat) (value : Option Binary64) (cursor : Cursor σ) :
    GroupsTurn tokens group turns value cursor
      (evaluateGroups tokens group (turns + 1) value cursor) := by
  unfold evaluateGroups
  split
  · next here =>
    split
    · next inner reached called =>
      dsimp only
      split
      · next joins => exact .joined here called joins
      · next apart => exact .further here called apart
    · next result failed =>
      exact .failed here rfl (value?_eq_none failed)
  · next other => exact .done other

/-- What one turn of `evaluateOperators` can come to. -/
inductive OperatorsTurn (source : Source σ) (right : Nat → Call σ) (least turns : Nat)
    (left : Binary64) (cursor : Cursor σ) : Ending × Cursor σ → Prop
  | done (loose : ∀ operator, tokens[cursor.position]? = some (.operator operator) →
      operator.precedence < least) :
    OperatorsTurn source right least turns left cursor (.value left, cursor)
  | failed {operator : Operator} {ending : Ending} {reached : Cursor σ}
    (here : tokens[cursor.position]? = some (.operator operator))
    (tight : least ≤ operator.precedence)
    (called : right (operator.precedence + 1) cursor.advance = (ending, reached))
    (failed : ending.value? = none) :
    OperatorsTurn source right least turns left cursor (ending, reached)
  | refused {operator : Operator} {operand : Binary64} {reached : Cursor σ} {state : σ}
    (here : tokens[cursor.position]? = some (.operator operator))
    (tight : least ≤ operator.precedence)
    (called : right (operator.precedence + 1) cursor.advance = (.value operand, reached))
    (applied : apply source operator left operand reached.state = (none, state)) :
    OperatorsTurn source right least turns left cursor (.nothing, { reached with state := state })
  | further {operator : Operator} {operand value : Binary64} {reached : Cursor σ} {state : σ}
    (here : tokens[cursor.position]? = some (.operator operator))
    (tight : least ≤ operator.precedence)
    (called : right (operator.precedence + 1) cursor.advance = (.value operand, reached))
    (applied : apply source operator left operand reached.state = (some value, state)) :
    OperatorsTurn source right least turns left cursor
      (evaluateOperators tokens source right least turns value { reached with state := state })

/-- One more operator is what `OperatorsTurn` says. -/
theorem operatorsTurn (source : Source σ) (right : Nat → Call σ) (least turns : Nat)
    (left : Binary64) (cursor : Cursor σ) :
    OperatorsTurn tokens source right least turns left cursor
      (evaluateOperators tokens source right least (turns + 1) left cursor) := by
  unfold evaluateOperators
  split
  · next operator here =>
    split
    · next tight =>
      split
      · next operand reached called =>
        split
        · next value state applied => exact .further here tight called applied
        · next state applied => exact .refused here tight called applied
      · next result failed =>
        refine .failed here tight rfl ?_
        cases ending : (right (operator.precedence + 1) cursor.advance).1 with
        | value number => exact (failed number _ (Prod.ext ending rfl)).elim
        | _ => rfl
    · next loose =>
      refine .done fun other same => ?_
      obtain rfl := Token.operator.inj (Option.some.inj (here.symm.trans same))
      exact Nat.lt_of_not_le loose
  · next other => exact .done fun operator same => (other operator same).elim

end Turns

section Moving

variable {tokens : List Token}

/-- One cursor is behind another or at it, by as many tokens as the other has moved on since. -/
structure Cursor.Before (start cursor : Cursor σ) : Prop where
  position_le : start.position ≤ cursor.position
  advances : cursor.advances + start.position = start.advances + cursor.position

namespace Cursor

variable {first second third : Cursor σ}

theorem before_refl (cursor : Cursor σ) : cursor.Before cursor := ⟨Nat.le_refl _, rfl⟩

theorem Before.trans (early : first.Before second) (late : second.Before third) :
    first.Before third := by
  obtain ⟨early_le, early⟩ := early
  obtain ⟨late_le, late⟩ := late
  exact ⟨Nat.le_trans early_le late_le, by omega⟩

theorem Before.withState (before : first.Before second) {state : σ} :
    first.Before { second with state := state } := ⟨before.position_le, before.advances⟩

/-- Taking a token goes forward. -/
theorem before_advance (cursor : Cursor σ) : cursor.Before cursor.advance := by
  refine ⟨Nat.le_succ _, ?_⟩
  simp only [advance]
  omega

/-- Passing a closing parenthesis goes forward, or stays. -/
theorem before_passClosing (tokens : List Token) (cursor : Cursor σ) :
    cursor.Before (cursor.passClosing tokens) := by
  unfold passClosing
  split
  · exact cursor.before_advance
  · exact cursor.before_refl

theorem state_passClosing (tokens : List Token) (cursor : Cursor σ) :
    (cursor.passClosing tokens).state = cursor.state := by
  unfold passClosing
  split
  · rfl
  · rfl

theorem passClosing_le (cursor : Cursor σ) (within : cursor.position ≤ tokens.length) :
    (cursor.passClosing tokens).position ≤ tokens.length := by
  unfold passClosing
  split
  · next closing => exact (List.getElem?_eq_some_iff.mp closing).1
  · exact within

end Cursor

/-- The tokens from a position on begin with the one there. -/
theorem drop_of_getElem? {position : Nat} {token : Token}
    (here : tokens[position]? = some token) :
    tokens.drop position = token :: tokens.drop (position + 1) := by
  obtain ⟨within, same⟩ := List.getElem?_eq_some_iff.mp here
  rw [List.drop_eq_getElem_cons within, same]

/-- Behind the last position no tokens are left. -/
theorem drop_of_getElem?_eq_none {position : Nat} (ends : tokens[position]? = none) :
    tokens.drop position = [] :=
  List.drop_eq_nil_of_le (List.getElem?_eq_none_iff.mp ends)

/-- No numeral stands behind a numeral. -/
theorem getElem?_ne_numeral (lexed : Lexed tokens) {position : Nat} {text : List Char}
    (here : tokens[position]? = some (.numeral text)) (other : List Char) :
    tokens[position + 1]? ≠ some (.numeral other) := by
  intro next
  have behind := lexed.suffix (List.drop_suffix position tokens)
  rw [drop_of_getElem? here, drop_of_getElem? next] at behind
  exact behind.head_of_numeral other rfl

/-- What a call that begins at `start` comes to, when calls may nest `spare` deep in it: it does
not move back, it does not pass the end, its loops end, and it nests at most twice for every
token; with a value, it has moved on and stands where an expression can stop. -/
structure Progress (tokens : List Token) (least spare : Nat) (start : Cursor σ)
    (result : Ending × Cursor σ) : Prop where
  before : start.Before result.2
  within : result.2.position ≤ tokens.length
  ends : result.1 ≠ .endless
  shallow : 2 * (tokens.length - start.position) < spare → result.1 ≠ .tooDeep
  value : result.1.value?.isSome →
    start.position < result.2.position ∧ Stops least (tokens.drop result.2.position)

namespace Progress

variable {least spare : Nat} {start cursor : Cursor σ}

/-- A call that fails may do so anywhere among the tokens. -/
theorem nothing (before : start.Before cursor) (within : cursor.position ≤ tokens.length) :
    Progress tokens least spare start (.nothing, cursor) :=
  ⟨before, within, by simp, by simp, by simp [Ending.value?]⟩

/-- A call without depth to spare fails where it stands. -/
theorem tooDeep (within : start.position ≤ tokens.length) :
    Progress tokens least 0 start (.tooDeep, start) :=
  ⟨start.before_refl, within, by simp, fun deep => absurd deep (Nat.not_lt_zero _),
    by simp [Ending.value?]⟩

/-- A call that fails because a call within it does. -/
theorem failed {other inner : Nat} {result : Ending × Cursor σ}
    (progress : Progress tokens other inner cursor result) (failed : result.1.value? = none)
    (before : start.Before cursor)
    (deep : 2 * (tokens.length - start.position) < spare →
      2 * (tokens.length - cursor.position) < inner) :
    Progress tokens least spare start result where
  before := before.trans progress.before
  within := progress.within
  ends := progress.ends
  shallow enough := progress.shallow (deep enough)
  value valued := by simp [failed] at valued

end Progress

/-- Neither a group nor a numeral stands here. -/
theorem stops_drop {position : Nat} (other : tokens[position]? ≠ some .opening)
    (apart : ∀ text, tokens[position]? ≠ some (.numeral text)) :
    Stops 5 (tokens.drop position) := by
  cases here : tokens[position]? with
  | none =>
    rw [drop_of_getElem?_eq_none here]
    trivial
  | some token =>
    rw [drop_of_getElem? here]
    cases token with
    | numeral text => exact absurd here (apart text)
    | operator operator => exact Nat.lt_succ_of_le operator.precedence_le
    | opening => exact absurd here other
    | closing => trivial

/-- Where an operand stops, an expression stops if no operator goes on with it. -/
theorem stops_of_loose {position least : Nat} (stops : Stops 5 (tokens.drop position))
    (loose : ∀ operator, tokens[position]? = some (.operator operator) →
      operator.precedence < least) : Stops least (tokens.drop position) := by
  cases here : tokens[position]? with
  | none =>
    rw [drop_of_getElem?_eq_none here]
    trivial
  | some token =>
    rw [drop_of_getElem? here] at stops ⊢
    cases token with
    | numeral text => exact stops
    | operator operator => exact loose operator here
    | opening => exact stops
    | closing => trivial

/-- A group ends at its closing parenthesis or where the tokens end. -/
theorem Stops.closes_passClosing {cursor : Cursor σ}
    (stops : Stops 1 (tokens.drop cursor.position)) :
    Closes (tokens.drop cursor.position) (tokens.drop (cursor.passClosing tokens).position) := by
  unfold Cursor.passClosing
  split
  · next closing => exact Or.inl (drop_of_getElem? closing)
  · next other =>
    obtain ⟨us, closing | ends⟩ := stops.exists_closes
    · exact absurd (by rw [← List.head?_drop, closing, List.head?_cons]) other
    · rw [ends.1]
      exact Or.inr ⟨rfl, rfl⟩

/-- Groups behind an operand go forward, by the depth and the tokens that are left. -/
theorem evaluateGroups_progress {group : Call σ} {inner spare : Nat} (le : spare ≤ inner + 2)
    (groupProgress : ∀ cursor : Cursor σ, cursor.position ≤ tokens.length →
      Progress tokens 1 inner cursor (group cursor))
    {start : Cursor σ} (turns : Nat) :
    ∀ (value : Option Binary64) (cursor : Cursor σ), start.Before cursor →
      cursor.position ≤ tokens.length → tokens.length < cursor.position + turns →
      (value.isSome → start.position < cursor.position) →
      (value.isSome → ∀ text, tokens[cursor.position]? ≠ some (.numeral text)) →
      Progress tokens 5 spare start (evaluateGroups tokens group turns value cursor) := by
  induction turns with
  | zero =>
    intro value cursor before within enough
    omega
  | succ turns ih =>
    intro value cursor before within enough moved apart
    have opened := before.trans cursor.before_advance
    have before_le := before.position_le
    have inside {ending : Ending} {reached : Cursor σ}
        (here : tokens[cursor.position]? = some .opening)
        (called : group cursor.advance = (ending, reached)) :
        Progress tokens 1 inner cursor.advance (ending, reached) :=
      called ▸ groupProgress _ (List.getElem?_eq_some_iff.mp here).1
    have turn := groupsTurn tokens group turns value cursor
    generalize evaluateGroups tokens group (turns + 1) value cursor = result at turn ⊢
    cases turn with
    | done other =>
      cases value with
      | none => exact .nothing before within
      | some number =>
        exact ⟨before, within, by simp [Ending.ofOption], by simp [Ending.ofOption],
          fun _ => ⟨moved rfl, stops_drop other (apart rfl)⟩⟩
    | failed here called failed =>
      have here_lt := (List.getElem?_eq_some_iff.mp here).1
      exact (inside here called).failed failed opened fun deep => by
        simp only [Cursor.advance]
        omega
    | @joined value reached text here called joins =>
      have progress := inside here called
      exact .nothing (opened.trans (progress.before.trans (reached.before_passClosing tokens)))
        (reached.passClosing_le progress.within)
    | @further value reached here called apart =>
      have progress := inside here called
      -- The group holds a token, so one turn less is still enough.
      have moved : cursor.position + 1 < reached.position := (progress.value rfl).1
      have closes := reached.before_passClosing tokens
      have closes_le := closes.position_le
      exact ih _ _ (opened.trans (progress.before.trans closes))
        (reached.passClosing_le progress.within) (by omega) (fun _ => by omega) fun _ => apart

/-- Operators behind an operand go forward, by the depth and the tokens that are left. -/
theorem evaluateOperators_progress {source : Source σ} {right : Nat → Call σ}
    {least inner spare : Nat} (le : spare ≤ inner + 2)
    (rightProgress : ∀ (least : Nat) (cursor : Cursor σ), cursor.position ≤ tokens.length →
      Progress tokens least inner cursor (right least cursor))
    {start : Cursor σ} (turns : Nat) :
    ∀ (left : Binary64) (cursor : Cursor σ), start.Before cursor →
      cursor.position ≤ tokens.length → tokens.length < cursor.position + turns →
      start.position < cursor.position → Stops 5 (tokens.drop cursor.position) →
      Progress tokens least spare start
        (evaluateOperators tokens source right least turns left cursor) := by
  induction turns with
  | zero =>
    intro left cursor before within enough
    omega
  | succ turns ih =>
    intro left cursor before within enough moved stops
    have passed := before.trans cursor.before_advance
    have inside {operator : Operator} {ending : Ending} {reached : Cursor σ}
        (here : tokens[cursor.position]? = some (.operator operator))
        (called : right (operator.precedence + 1) cursor.advance = (ending, reached)) :
        Progress tokens (operator.precedence + 1) inner cursor.advance (ending, reached) :=
      called ▸ rightProgress _ _ (List.getElem?_eq_some_iff.mp here).1
    have turn := operatorsTurn tokens source right least turns left cursor
    generalize evaluateOperators tokens source right least (turns + 1) left cursor = result
      at turn ⊢
    cases turn with
    | done loose =>
      exact ⟨before, within, by simp, by simp, fun _ => ⟨moved, stops_of_loose stops loose⟩⟩
    | failed here tight called failed =>
      have here_lt := (List.getElem?_eq_some_iff.mp here).1
      exact (inside here called).failed failed passed fun deep => by
        simp only [Cursor.advance]
        omega
    | refused here tight called applied =>
      have progress := inside here called
      exact .nothing (passed.trans progress.before).withState progress.within
    | @further operator operand value reached state here tight called applied =>
      have progress := inside here called
      obtain ⟨further, stops⟩ := progress.value rfl
      have further : cursor.position + 1 < reached.position := further
      exact ih value { reached with state := state } (passed.trans progress.before).withState
        progress.within (by dsimp only; omega) (by dsimp only; omega)
        (stops.mono (Nat.succ_le_succ operator.precedence_le))

/-- **Every call makes progress.** An expression nests its first operand. -/
theorem progress (lexed : Lexed tokens) (source : Source σ) (depth : Nat) :
    (∀ (least : Nat) (cursor : Cursor σ), cursor.position ≤ tokens.length →
      Progress tokens least (depth - 1) cursor
        (evaluateExpression tokens source depth least cursor)) ∧
    ∀ cursor : Cursor σ, cursor.position ≤ tokens.length →
      Progress tokens 5 depth cursor (evaluateOperand tokens source depth cursor) := by
  induction depth with
  | zero => exact ⟨fun least cursor within => .tooDeep within, fun cursor within => .tooDeep within⟩
  | succ depth ih =>
    obtain ⟨expressions, operands⟩ := ih
    refine ⟨fun least cursor within => ?_, fun cursor within => ?_⟩
    · have progress := operands cursor within
      unfold evaluateExpression
      split
      · next left reached called =>
        rw [called] at progress
        obtain ⟨moved, stops⟩ := progress.value rfl
        exact evaluateOperators_progress (by omega) expressions _ left reached progress.before
          progress.within (by omega) moved stops
      · next other => exact progress.failed (value?_eq_none other) cursor.before_refl id
    · unfold evaluateOperand
      split
      · next text here =>
        have within := (List.getElem?_eq_some_iff.mp here).1
        split
        · next value numeral =>
          exact evaluateGroups_progress (by omega) (expressions 1) _ (some value) cursor.advance
            cursor.before_advance within (by simp only [Cursor.advance]; omega)
            (fun _ => Nat.lt_succ_self _) fun _ => getElem?_ne_numeral lexed here
        · exact .nothing cursor.before_advance within
      · exact evaluateGroups_progress (by omega) (expressions 1) _ none cursor cursor.before_refl
          within (by omega) nofun nofun
      · exact .nothing cursor.before_refl within

end Moving

section Deeper

variable {tokens : List Token} {source : Source σ}

/-- A call that may nest deeper, and comes to the same unless the first nests too deeply. -/
def Call.Extends (deeper call : Call σ) : Prop :=
  ∀ cursor, (call cursor).1 ≠ .tooDeep → deeper cursor = call cursor

theorem Call.Extends.trans {first second third : Call σ} (late : third.Extends second)
    (early : second.Extends first) : third.Extends first := by
  intro cursor shallow
  have same := early cursor shallow
  rw [late cursor (same ▸ shallow), same]

/-- Deeper calls for the groups give a deeper call. -/
theorem evaluateGroups_extends {deeper group : Call σ} (extending : deeper.Extends group)
    (turns : Nat) (value : Option Binary64) :
    Call.Extends (evaluateGroups tokens deeper turns value)
      (evaluateGroups tokens group turns value) := by
  induction turns generalizing value with
  | zero => exact fun cursor _ => rfl
  | succ turns ih =>
    intro cursor shallow
    unfold evaluateGroups at shallow ⊢
    split at shallow
    · have same : deeper cursor.advance = group cursor.advance :=
        extending cursor.advance fun deep => by
          have passed : group cursor.advance = (.tooDeep, _) := Prod.ext deep rfl
          rw [passed] at shallow
          exact shallow rfl
      rw [same]
      generalize group cursor.advance = result at shallow ⊢
      obtain ⟨ending, reached⟩ := result
      cases ending with
      | value inner =>
        dsimp only at shallow ⊢
        split at shallow
        · rfl
        · exact ih _ _ shallow
      | _ => rfl
    · rfl

/-- Deeper calls for the operands on the right give a deeper call. -/
theorem evaluateOperators_extends {deeper right : Nat → Call σ}
    (extending : ∀ least, (deeper least).Extends (right least)) (least turns : Nat)
    (left : Binary64) :
    Call.Extends (evaluateOperators tokens source deeper least turns left)
      (evaluateOperators tokens source right least turns left) := by
  induction turns generalizing left with
  | zero => exact fun cursor _ => rfl
  | succ turns ih =>
    intro cursor shallow
    unfold evaluateOperators at shallow ⊢
    split at shallow
    · next operator here =>
      by_cases tight : least ≤ operator.precedence
      · simp only [if_pos tight] at shallow ⊢
        have same : deeper (operator.precedence + 1) cursor.advance =
            right (operator.precedence + 1) cursor.advance :=
          extending _ cursor.advance fun deep => by
            have passed : right (operator.precedence + 1) cursor.advance = (.tooDeep, _) :=
              Prod.ext deep rfl
            rw [passed] at shallow
            exact shallow rfl
        rw [same]
        generalize right (operator.precedence + 1) cursor.advance = result at shallow ⊢
        obtain ⟨ending, reached⟩ := result
        cases ending with
        | value operand =>
          dsimp only at shallow ⊢
          split at shallow
          · exact ih _ _ shallow
          · rfl
        | _ => rfl
      · simp only [if_neg tight]
    · rfl

/-- A call that does not nest too deeply comes to the same however deep it may nest. -/
theorem extends_succ (tokens : List Token) (source : Source σ) (depth : Nat) :
    (∀ least, Call.Extends (evaluateExpression tokens source (depth + 1) least)
      (evaluateExpression tokens source depth least)) ∧
    Call.Extends (evaluateOperand tokens source (depth + 1))
      (evaluateOperand tokens source depth) := by
  induction depth with
  | zero => exact ⟨fun least cursor shallow => absurd rfl shallow,
      fun cursor shallow => absurd rfl shallow⟩
  | succ depth ih =>
    obtain ⟨expressions, operands⟩ := ih
    refine ⟨fun least cursor shallow => ?_, fun cursor shallow => ?_⟩
    · rw [evaluateExpression] at shallow
      rw [evaluateExpression, evaluateExpression.eq_def _ _ (depth + 1)]
      have same : evaluateOperand tokens source (depth + 1) cursor =
          evaluateOperand tokens source depth cursor :=
        operands cursor fun deep => by
          have passed : evaluateOperand tokens source depth cursor = (.tooDeep, _) :=
            Prod.ext deep rfl
          rw [passed] at shallow
          exact shallow rfl
      rw [same]
      dsimp only
      split
      · next left reached called =>
        rw [called] at shallow
        exact evaluateOperators_extends expressions least _ left reached shallow
      · rfl
    · rw [evaluateOperand] at shallow
      rw [evaluateOperand, evaluateOperand.eq_def _ _ (depth + 1)]
      dsimp only
      split at shallow
      · split at shallow
        · exact evaluateGroups_extends (expressions 1) _ _ _ shallow
        · rfl
      · exact evaluateGroups_extends (expressions 1) _ _ _ shallow
      · rfl

/-- More depth changes no call that did not run out of it. -/
theorem extends_of_le (tokens : List Token) (source : Source σ) {depth deeper : Nat}
    (le : depth ≤ deeper) :
    (∀ least, Call.Extends (evaluateExpression tokens source deeper least)
      (evaluateExpression tokens source depth least)) ∧
    Call.Extends (evaluateOperand tokens source deeper)
      (evaluateOperand tokens source depth) := by
  induction le with
  | refl => exact ⟨fun _ _ _ => rfl, fun _ _ => rfl⟩
  | @step deeper _ ih =>
    have last := extends_succ tokens source deeper
    exact ⟨fun least => (last.1 least).trans (ih.1 least), last.2.trans ih.2⟩

end Deeper

end Dice

end DiceLedger
