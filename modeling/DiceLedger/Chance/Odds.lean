import DiceLedger.Dice.Evaluation

/-! # Odds

How often an expression reaches a threshold, by repeated trials that pass one source
from trial to trial. A trial without a value is no pass.
-/

namespace DiceLedger

namespace Chance

open Dice

variable {σ : Type}

/-- Whether one trial of an expression reaches the threshold. -/
def trialPasses (source : Source σ) (expression : String) (threshold : Binary64) (state : σ) :
    Bool × σ :=
  match evaluate source expression state with
  | (some value, state) => (threshold.le value, state)
  | (none, state) => (false, state)

/-- Adds to `passed` the passes of so many trials. -/
def addPasses (source : Source σ) (expression : String) (threshold : Binary64) :
    (trials : Nat) → (passed : Nat) → σ → Nat × σ
  | 0, passed, state => (passed, state)
  | trials + 1, passed, state =>
    match trialPasses source expression threshold state with
    | (true, state) => addPasses source expression threshold trials (passed + 1) state
    | (false, state) => addPasses source expression threshold trials passed state

/-- The number of passes among so many trials. -/
def countPasses (source : Source σ) (expression : String) (threshold : Binary64) (trials : Nat)
    (state : σ) : Nat × σ :=
  addPasses source expression threshold trials 0 state

/-- A part of a whole in percent. -/
def percent (part whole : Nat) : Binary64 := .ofRatio part whole * 100

/-- The outcome of an estimate. -/
structure OddsEstimate where
  expression : String
  threshold : Binary64
  trials : Nat
  passes : Nat
  percent : Binary64
  deriving DecidableEq

/-- A number of trials or repetitions that is not positive. -/
structure NotPositive where
  count : Int
  deriving DecidableEq, Repr

def NotPositive.message (what : String) (fault : NotPositive) : String :=
  what ++ " must be positive, got " ++ toString fault.count

/-- Estimates the odds that an expression reaches a threshold. -/
def estimateOdds (source : Source σ) (expression : String) (threshold : Binary64) (trials : Int)
    (state : σ) : Except NotPositive (OddsEstimate × σ) :=
  if trials ≤ 0 then .error ⟨trials⟩
  else
    let (passes, state) := countPasses source expression threshold trials.toNat state
    .ok (⟨expression, threshold, trials.toNat, passes, percent passes trials.toNat⟩, state)

end Chance

end DiceLedger
