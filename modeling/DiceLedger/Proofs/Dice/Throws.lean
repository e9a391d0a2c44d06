import DiceLedger.Proofs.Dice.Draws
import Mathlib.Algebra.GroupWithZero.Nat

/-! # Dice that are thrown one after another

A source throws dice of one number of sides one after another (`DiceLedger.Dice.Source.throws`).
Rolling adds these numbers up, a recording remembers them, and those of a fair source lie within
their dice (`DiceLedger.Dice.Source.Fair.sum_throws`).
-/

namespace DiceLedger

namespace Dice

variable {σ : Type}

namespace Source

/-- What so many dice of so many sides show, one after another. -/
def throws (source : Source σ) (sides : Nat) : (count : Nat) → σ → List Nat × σ
  | 0, state => ([], state)
  | count + 1, state =>
    let (value, state) := source.draw sides state
    let (values, state) := source.throws sides count state
    (value :: values, state)

section

variable (source : Source σ) (sides count : Nat)

theorem throws_succ (state : σ) :
    source.throws sides (count + 1) state =
      ((source.draw sides state).1 :: (source.throws sides count (source.draw sides state).2).1,
        (source.throws sides count (source.draw sides state).2).2) :=
  rfl

theorem length_throws (state : σ) : (source.throws sides count state).1.length = count := by
  induction count generalizing state with
  | zero => rfl
  | succ count ih => rw [throws_succ, List.length_cons, ih]

/-- Rolling adds up what is thrown. -/
theorem addDraws_eq (sum : Nat) (state : σ) :
    source.addDraws sides count sum state =
      (sum + (source.throws sides count state).1.sum, (source.throws sides count state).2) := by
  induction count generalizing sum state with
  | zero => rfl
  | succ count ih =>
      rw [throws_succ, List.sum_cons, ← Nat.add_assoc]
      exact ih _ _

/-- A recording remembers what is thrown. -/
theorem throws_recorded (recording : Recording σ) :
    source.recorded.throws sides count recording =
      ((source.throws sides count recording.state).1,
        ⟨(source.throws sides count recording.state).2,
          ((source.throws sides count recording.state).1.map (sides, ·)).reverse ++
            recording.draws⟩) := by
  induction count generalizing recording with
  | zero => rfl
  | succ count ih =>
      rw [throws_succ, throws_succ, ih, List.map_cons, List.reverse_cons, List.append_assoc]
      rfl

end

variable {source : Source σ} {sides : Nat}

/-- A fair source throws faces of its dice. -/
theorem Fair.mem_throws (fair : source.Fair) (sided : 0 < sides) (count : Nat) (state : σ) :
    ∀ value ∈ (source.throws sides count state).1, 1 ≤ value ∧ value ≤ sides := by
  induction count generalizing state with
  | zero => exact List.forall_mem_nil _
  | succ count ih => exact List.forall_mem_cons.mpr ⟨fair sides state sided, ih _⟩

/-- Together dice show at least as much as they are many, and at most all of their sides. -/
theorem Fair.sum_throws (fair : source.Fair) (sided : 0 < sides) (count : Nat) (state : σ) :
    count ≤ (source.throws sides count state).1.sum ∧
      (source.throws sides count state).1.sum ≤ count * sides := by
  induction count generalizing state with
  | zero => exact ⟨Nat.zero_le _, Nat.zero_le _⟩
  | succ count ih =>
      have first := fair sides state sided
      have later := ih (source.draw sides state).2
      rw [throws_succ, List.sum_cons, Nat.succ_mul]
      omega

end Source

end Dice

end DiceLedger
