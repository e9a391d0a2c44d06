import DiceLedger.Dice.Operation
import DiceLedger.Dice.Reading

/-! # Evaluating an expression

The steps read from a text are run in order on a stack. The first step without a
result ends the run; the dice rolled until then stay rolled, and likewise when the
text turns out to be no expression.
-/

namespace DiceLedger

namespace Dice

variable {σ : Type}

/-- Runs steps on a stack of numbers, latest first. -/
def run (source : Source σ) : List Step → List Binary64 → σ → Option (List Binary64) × σ
  | [], stack, state => (some stack, state)
  | .push value :: steps, stack, state => run source steps (value :: stack) state
  | .apply operator :: steps, right :: left :: stack, state =>
    match apply source operator left right state with
    | (some value, state) => run source steps (value :: stack) state
    | (none, state) => (none, state)
  | .apply _ :: _, _, state => (none, state)

/-- The value of a reading, if the whole of it has one. -/
def Reading.value (source : Source σ) (reading : Reading) (state : σ) : Option Binary64 × σ :=
  match run source reading.steps [] state with
  | (some (value :: _), state) => (if reading.complete then some value else none, state)
  | (_, state) => (none, state)

/-- The value of an expression in a text, and the source after its dice. -/
def evaluate (source : Source σ) (text : String) (state : σ) : Option Binary64 × σ :=
  (read text.toList).value source state

end Dice

end DiceLedger
