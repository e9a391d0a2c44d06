/-! # Sources of dice

A source draws a number for a die of so many sides and moves on to its next state.
Nothing is assumed of what it draws; `Source.Fair` says that draws lie between one
and the number of sides. A source can be recorded: the recording remembers how often
it was asked and for which dice.
-/

namespace DiceLedger

namespace Dice

structure Source (σ : Type) where
  /-- The number drawn for a die of `sides` sides, and the state after it. -/
  draw : (sides : Nat) → σ → Nat × σ

namespace Source

variable {σ : Type}

/-- Every draw is a face of its die. -/
def Fair (source : Source σ) : Prop :=
  ∀ sides state, 0 < sides →
    1 ≤ (source.draw sides state).1 ∧ (source.draw sides state).1 ≤ sides

/-- Adds `count` draws from dice of `sides` sides to `sum`. -/
def addDraws (source : Source σ) (sides : Nat) : (count : Nat) → (sum : Nat) → σ → Nat × σ
  | 0, sum, state => (sum, state)
  | count + 1, sum, state =>
    let (value, state) := source.draw sides state
    source.addDraws sides count (sum + value) state

/-- The draws made so far, latest first, each with the sides of its die. -/
structure Recording (σ : Type) where
  state : σ
  draws : List (Nat × Nat)

/-- The same source, remembering every draw. -/
def recorded (source : Source σ) : Source (Recording σ) where
  draw sides recording :=
    let (value, state) := source.draw sides recording.state
    (value, ⟨state, (sides, value) :: recording.draws⟩)

end Source

end Dice

end DiceLedger
