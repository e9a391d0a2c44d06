import DiceLedger.Binary64.Bits
import DiceLedger.Dice.Source
import DiceLedger.Dice.Token

/-! # What the operators do

Every operator takes two numbers and gives a number or nothing: division by zero,
powers whose size leaves the 64-bit range, and dice that cannot be rolled have no
result. Only rolling draws from the source.
-/

namespace DiceLedger

namespace Dice

/-- The greatest count of dice, and of sides, that can be rolled. -/
def maxDice : Nat := 4294967295

/-- The least and the greatest 64-bit whole number. -/
def minWhole : Int := -9223372036854775808
def maxWhole : Int := 9223372036854775807

/-- The whole number that stands for a base when its power is checked: rounded up,
brought into the 64-bit range, zero for not-a-number. -/
def checkedBase (base : Binary64) : Int :=
  match base with
  | .nan => 0
  | .infinity negative => if negative then minWhole else maxWhole
  | .finite .. =>
    match base.ceil? with
    | some whole => max minWhole (min maxWhole whole)
    | none => 0

/-- Multiplies `result` by `base` the given number of times, stopping with `false` as
soon as the product leaves the 64-bit range. -/
def productsFit (base : Int) : Nat → Int → Bool
  | 0, _ => true
  | count + 1, result =>
    let next := result * base
    if minWhole ≤ next ∧ next ≤ maxWhole then productsFit base count next else false

/-- Whether the power of the whole numbers above base and exponent stays within 64
bits. -/
def powerFits (base exponent : Binary64) : Bool :=
  let whole := checkedBase base
  if whole = -1 ∨ whole = 0 ∨ whole = 1 then true
  else productsFit whole (exponent.ceil?.getD 0).toNat 1

/-- Raises to a power. The exponent lies strictly between zero and `maxDice`, and a
finite base has a finite power. -/
def power? (base exponent : Binary64) : Option Binary64 :=
  if (0 : Binary64).lt exponent && exponent.lt (.ofNat maxDice) && powerFits base exponent then
    let value := base.pow exponent
    if base.isFinite && !value.isFinite then none else some value
  else none

/-- A count of dice or sides, when it is a whole number from zero to `maxDice`. -/
def diceCount? (value : Binary64) : Option Nat :=
  if (0 : Binary64).le value && value.le (.ofNat maxDice) then value.truncate?.map Int.toNat
  else none

variable {σ : Type}

/-- Rolls dice: both operands are rounded, a half away from zero, and the faces drawn
are added up. Dice with a single side, negative or not, only multiply. -/
def roll (source : Source σ) (count faces : Binary64) (state : σ) : Option Binary64 × σ :=
  if (faces.abs.roundHalfAway).eqv 1 then (some (count * faces), state)
  else
    match diceCount? count.roundHalfAway, diceCount? faces.roundHalfAway with
    | some dice, some sides =>
      if sides = 0 then (none, state)
      else
        let (sum, state) := source.addDraws sides dice 0 state
        (some (.ofNat sum), state)
    | _, _ => (none, state)

/-- Applies an operator; `none` when it has no result. -/
def apply (source : Source σ) (operator : Operator) (left right : Binary64) (state : σ) :
    Option Binary64 × σ :=
  match operator with
  | .add => (some (left + right), state)
  | .subtract => (some (left - right), state)
  | .multiply => (some (left * right), state)
  | .divide => (if right.eqv 0 then none else some (left / right), state)
  | .power => (power? left right, state)
  | .roll => roll source left right state

end Dice

end DiceLedger
