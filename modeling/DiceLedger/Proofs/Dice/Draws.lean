import DiceLedger.Proofs.Binary64.Whole
import DiceLedger.Proofs.Dice.Phrase

/-! # What an evaluation draws

A source that is recorded gives the values that it gives unrecorded
(`DiceLedger.Dice.evaluate_recorded`). Dice of whole numbers draw as many times as they are, or
do not roll (`DiceLedger.Dice.roll_ofNat_draws`); operands in order draw one after another, up to
the first without a result (`DiceLedger.Dice.Draws.applyInOrder`).
-/

namespace DiceLedger

namespace Dice

open scoped Binary64

variable {σ : Type}

namespace Source

/-- The state behind draws from dice of so many sides each. -/
def after (source : Source σ) (sides : List Nat) (state : σ) : σ :=
  sides.foldl (fun state sides => (source.draw sides state).2) state

theorem after_append (source : Source σ) (first later : List Nat) (state : σ) :
    source.after (first ++ later) state = source.after later (source.after first state) :=
  List.foldl_append

/-- Throwing dice draws as many times as there are dice. -/
theorem addDraws_state (source : Source σ) (sides count sum : Nat) (state : σ) :
    (source.addDraws sides count sum state).2 =
      source.after (List.replicate count sides) state := by
  induction count generalizing sum state with
  | zero => rfl
  | succ count ih =>
      rw [addDraws, ih]
      rfl

/-- A recording remembers the dice that were drawn from. -/
theorem recorded_after_draws (source : Source σ) (sides : List Nat) (recording : Recording σ) :
    (source.recorded.after sides recording).draws.reverse.map Prod.fst =
      recording.draws.reverse.map Prod.fst ++ sides := by
  induction sides generalizing recording with
  | nil => exact (List.append_nil _).symm
  | cons first rest ih =>
      refine (ih _).trans ?_
      simp only [recorded, List.reverse_cons, List.map_append, List.map_cons, List.map_nil,
        List.append_assoc, List.singleton_append]

end Source

/-- A result of a recorded source, and the one without the recording. -/
structure SameResult {α : Type} (recorded : α × Source.Recording σ) (plain : α × σ) : Prop where
  value : recorded.1 = plain.1
  state : recorded.2.state = plain.2

/-- Recording changes neither the sum of dice nor the source. -/
theorem addDraws_recorded (source : Source σ) (sides count sum : Nat)
    (recording : Source.Recording σ) :
    SameResult (source.recorded.addDraws sides count sum recording)
      (source.addDraws sides count sum recording.state) := by
  induction count generalizing sum recording with
  | zero => exact ⟨rfl, rfl⟩
  | succ count ih => exact ih _ _

/-- Recording changes neither the result of a roll nor the source. -/
theorem roll_recorded (source : Source σ) (count faces : Binary64)
    (recording : Source.Recording σ) :
    SameResult (roll source.recorded count faces recording)
      (roll source count faces recording.state) := by
  unfold roll
  split
  · exact ⟨rfl, rfl⟩
  · split
    · next dice sides _ _ =>
      split
      · exact ⟨rfl, rfl⟩
      · obtain ⟨value, state⟩ := addDraws_recorded source sides dice 0 recording
        exact ⟨congrArg (some ∘ Binary64.ofNat) value, state⟩
    · exact ⟨rfl, rfl⟩

/-- Recording changes neither the result of an operator nor the source. -/
theorem apply_recorded (source : Source σ) (operator : Operator) (left right : Binary64)
    (recording : Source.Recording σ) :
    SameResult (apply source.recorded operator left right recording)
      (apply source operator left right recording.state) := by
  cases operator with
  | roll => exact roll_recorded source left right recording
  | _ => exact ⟨rfl, rfl⟩

/-- Recording changes neither the result of steps nor the source. -/
theorem run_recorded (source : Source σ) (steps : List Step) (stack : List Binary64)
    (recording : Source.Recording σ) :
    SameResult (run source.recorded steps stack recording)
      (run source steps stack recording.state) := by
  induction steps generalizing stack recording with
  | nil => exact ⟨rfl, rfl⟩
  | cons step rest ih =>
      cases step with
      | push value => exact ih _ _
      | apply operator =>
          match stack with
          | [] => exact ⟨rfl, rfl⟩
          | [_] => exact ⟨rfl, rfl⟩
          | right :: left :: stack =>
              have same := apply_recorded source operator left right recording
              rw [run, run]
              generalize apply source.recorded operator left right recording = noted at same ⊢
              generalize apply source operator left right recording.state = plain at same ⊢
              obtain ⟨found, later⟩ := noted
              obtain ⟨_, _⟩ := plain
              obtain ⟨rfl, rfl⟩ := same
              cases found with
              | none => exact ⟨rfl, rfl⟩
              | some value => exact ih _ _

/-- Recording a source changes neither values nor states. -/
theorem evaluate_recorded (source : Source σ) (text : String)
    (recording : Source.Recording σ) :
    SameResult (evaluate source.recorded text recording)
      (evaluate source text recording.state) := by
  have same := run_recorded source (read text.toList).steps [] recording
  rw [evaluate, evaluate, Reading.value, Reading.value]
  generalize run source.recorded (read text.toList).steps [] recording = noted at same ⊢
  generalize run source (read text.toList).steps [] recording.state = plain at same ⊢
  obtain ⟨found, later⟩ := noted
  obtain ⟨_, _⟩ := plain
  obtain ⟨rfl, rfl⟩ := same
  rcases found with _ | _ | ⟨value, rest⟩ <;> exact ⟨rfl, rfl⟩

theorem maxDice_lt : maxDice < 2 ^ (52 : Nat) := by decide

/-- A whole number counts dice, or sides, unless it is too great. -/
theorem diceCount?_ofNat (n : Nat) :
    diceCount? (Binary64.ofNat n).roundHalfAway = if n ≤ maxDice then some n else none := by
  have wide : maxDice < 2 ^ (53 : Nat) := by decide
  rcases Binary64.roundHalfAway_ofNat n with ⟨small, rounded⟩ | ⟨great, far⟩
  · have wider : n < 2 ^ (53 : Nat) := Nat.lt_trans small (by decide)
    have nonneg : (0 : Binary64).le (.ofNat n) = true := by
      rw [← decide_eq_true (Nat.zero_le n)]
      exact Binary64.le_ofNat (by decide) wider
    rw [rounded, diceCount?, nonneg, Binary64.le_ofNat wider wide, Bool.true_and,
      Binary64.truncate?_ofNat wider]
    simp only [decide_eq_true_eq, Option.map_some, Int.toNat_natCast]
  · have more : ¬n ≤ maxDice := Nat.not_le.mpr (Nat.lt_of_lt_of_le maxDice_lt great)
    rw [diceCount?, far.le_ofNat maxDice_lt, Bool.and_false, if_neg more]
    rfl

/-- A whole number of sides is a single one only if it is one. -/
theorem eqv_one_ofNat (n : Nat) :
    (Binary64.ofNat n).abs.roundHalfAway.eqv 1 = decide (n = 1) := by
  rw [Binary64.abs_ofNat]
  rcases Binary64.roundHalfAway_ofNat n with ⟨small, rounded⟩ | ⟨great, far⟩
  · rw [rounded]
    exact Binary64.eqv_ofNat (Nat.lt_trans small (by decide)) (by decide)
  · refine (far.eqv_ofNat (by decide : 1 < 2 ^ (52 : Nat))).trans ?_
    exact (decide_eq_false (by omega)).symm

/-- Only one is rounded to one. -/
theorem several_ofNat {n : Nat} (other : n ≠ 1) :
    (Binary64.ofNat n).abs.roundHalfAway.eqv 1 = false := by
  rw [eqv_one_ofNat]
  exact decide_eq_false other

section Roll

variable (source : Source σ) {count faces : Binary64} (state : σ)

/-- Dice with a single side only multiply. -/
theorem roll_of_single (single : faces.abs.roundHalfAway.eqv 1 = true) :
    roll source count faces state = (some (count * faces), state) := by
  rw [roll, if_pos single]

variable (several : faces.abs.roundHalfAway.eqv 1 = false)

include several

/-- **Dice that can be counted are thrown**, each of the given sides, and their sum is rounded to
the nearest double. -/
theorem roll_of_counts {dice sides : Nat} (counted : diceCount? count.roundHalfAway = some dice)
    (sided : diceCount? faces.roundHalfAway = some sides) (some : sides ≠ 0) :
    roll source count faces state =
      (.some (.ofNat (source.addDraws sides dice 0 state).1),
        (source.addDraws sides dice 0 state).2) := by
  rw [roll, if_neg (by rw [several]; decide), counted, sided]
  exact if_neg some

/-- Dice without sides have no value, and are not thrown. -/
theorem roll_of_no_sides (sided : diceCount? faces.roundHalfAway = some 0) :
    roll source count faces state = (none, state) := by
  rw [roll, if_neg (by rw [several]; decide), sided]
  cases diceCount? count.roundHalfAway <;> rfl

/-- Dice or sides that cannot be counted have no value, and nothing is thrown. -/
theorem roll_of_uncounted
    (uncounted : diceCount? count.roundHalfAway = none ∨ diceCount? faces.roundHalfAway = none) :
    roll source count faces state = (none, state) := by
  rw [roll, if_neg (by rw [several]; decide)]
  rcases uncounted with none | none
  · rw [none]
  · rw [none]
    cases diceCount? count.roundHalfAway <;> rfl

end Roll

/-- Dice that are not too many and have sides, but not too many, are thrown. -/
theorem roll_ofNat (source : Source σ) (state : σ) {dice sides : Nat}
    (countable : dice ≤ maxDice) (sided : 2 ≤ sides) (within : sides ≤ maxDice) :
    roll source (.ofNat dice) (.ofNat sides) state =
      (some (.ofNat (source.addDraws sides dice 0 state).1),
        (source.addDraws sides dice 0 state).2) := by
  have several := several_ofNat (n := sides) (by omega)
  have many := diceCount?_ofNat dice
  have faced := diceCount?_ofNat sides
  rw [if_pos countable] at many
  rw [if_pos within] at faced
  exact roll_of_counts source state several many faced (by omega)

/-- The sides that so many dice of so many sides draw from: a die of one side is not drawn. -/
def rolledSides (count faces : Nat) : List Nat :=
  if faces < 2 then [] else List.replicate count faces

/-- A result behind draws from dice of the given sides: from all of them when it has a value,
and otherwise from the first of them. -/
def Draws (source : Source σ) (sides : List Nat) (state : σ)
    (result : Option Binary64 × σ) : Prop :=
  ∃ drawn, drawn <+: sides ∧ result.2 = source.after drawn state ∧
    (result.1.isSome → drawn = sides)

section Draws

variable {source : Source σ} {state : σ}

/-- Nothing drawn, and no dice to draw from. -/
theorem Draws.nothing (value : Option Binary64) : Draws source [] state (value, state) :=
  ⟨[], List.prefix_rfl, rfl, fun _ => rfl⟩

/-- Nothing drawn, and no value. -/
theorem Draws.stopped (sides : List Nat) : Draws source sides state (none, state) :=
  ⟨[], List.nil_prefix, rfl, nofun⟩

/-- Only rolling draws. -/
theorem apply_state {operator : Operator} (other : operator ≠ .roll) (x y : Binary64) :
    (apply source operator x y state).2 = state := by
  cases operator with
  | roll => exact absurd rfl other
  | _ => rfl

/-- The operands of an operator other than rolling draw one after another. -/
theorem Draws.applyInOrder {operator : Operator} (other : operator ≠ .roll)
    {left right : σ → Option Binary64 × σ} {first second : List Nat}
    (leftDraws : ∀ state, Draws source first state (left state))
    (rightDraws : ∀ state, Draws source second state (right state)) (state : σ) :
    Draws source (first ++ second) state (applyInOrder source operator left right state) := by
  obtain ⟨drawn, front, middle, whole⟩ := leftDraws state
  unfold Dice.applyInOrder
  generalize left state = result at middle whole ⊢
  obtain ⟨_ | x, reached⟩ := result
  · exact ⟨drawn, front.trans (List.prefix_append _ _), middle, nofun⟩
  · obtain rfl := whole rfl
    obtain ⟨further, back, last, all⟩ := rightDraws reached
    dsimp only at middle ⊢
    generalize right reached = result at last all ⊢
    have both : drawn ++ further <+: drawn ++ second :=
      (List.prefix_append_right_inj drawn).mpr back
    rw [middle, ← Source.after_append] at last
    obtain ⟨_ | y, ended⟩ := result
    · exact ⟨drawn ++ further, both, last, nofun⟩
    · obtain rfl := all rfl
      exact ⟨drawn ++ further, both, (apply_state other x y).trans last, fun _ => rfl⟩

/-- Dice of whole numbers draw as often as they are many, or do not roll. -/
theorem roll_ofNat_draws (count faces : Nat) :
    Draws source (rolledSides count faces) state
      (roll source (.ofNat count) (.ofNat faces) state) := by
  by_cases single : faces = 1
  · rw [roll_of_single source state (by rw [eqv_one_ofNat, single]; rfl), single]
    exact Draws.nothing _
  · have several := several_ofNat single
    by_cases within : count ≤ maxDice ∧ faces ≤ maxDice
    · rcases Nat.eq_zero_or_pos faces with rfl | some
      · rw [roll_of_no_sides source state several (diceCount?_ofNat 0)]
        exact Draws.stopped _
      · rw [roll_ofNat source state within.1 (by omega) within.2, rolledSides,
          if_neg (by omega : ¬faces < 2)]
        exact ⟨_, List.prefix_rfl, source.addDraws_state faces count 0 state, fun _ => rfl⟩
    · have uncounted : diceCount? (Binary64.ofNat count).roundHalfAway = none ∨
          diceCount? (Binary64.ofNat faces).roundHalfAway = none := by
        rw [diceCount?_ofNat, diceCount?_ofNat]
        simp only [ite_eq_right_iff, reduceCtorEq, imp_false]
        exact Decidable.not_and_iff_not_or_not.mp within
      rw [roll_of_uncounted source state several uncounted]
      exact Draws.stopped _

/-- Dice that are not too many and have sides, but not too many, have a value. -/
theorem roll_ofNat_isSome {count faces : Nat} (countable : count ≤ maxDice) (sided : 2 ≤ faces)
    (within : faces ≤ maxDice) :
    (roll source (.ofNat count) (.ofNat faces) state).1.isSome := by
  rw [roll_ofNat source state countable sided within]
  rfl

end Draws

end Dice

end DiceLedger
