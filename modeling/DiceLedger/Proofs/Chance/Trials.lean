import DiceLedger.Chance.Odds
import DiceLedger.Proofs.Binary64.Order
import DiceLedger.Proofs.Dice.Draws

/-! # Repeated trials

An expression is tried again and again with one source, and every trial leaves a value or none
(`DiceLedger.Chance.trialValues`). What is drawn hangs on the expression alone: odds are counted
over these values afterwards (`DiceLedger.Chance.countPasses_eq`), and further trials go on from
where the first ones left the source (`DiceLedger.Chance.trialValues_add`). -/

namespace DiceLedger

namespace Chance

open Dice

variable {σ : Type}

/-- The values of so many evaluations, one after another with one source. -/
def trialValues (source : Source σ) (expression : String) :
    (trials : Nat) → σ → List (Option Binary64) × σ
  | 0, state => ([], state)
  | trials + 1, state =>
    let (value, state) := evaluate source expression state
    let (values, state) := trialValues source expression trials state
    (value :: values, state)

/-- Whether a trial has a value that is not below the threshold. -/
def reaches (threshold : Binary64) (value : Option Binary64) : Bool := value.any (threshold.le ·)

section

variable (source : Source σ) (expression : String) (threshold : Binary64)

theorem trialValues_succ (trials : Nat) (state : σ) :
    trialValues source expression (trials + 1) state =
      ((evaluate source expression state).1 ::
          (trialValues source expression trials (evaluate source expression state).2).1,
        (trialValues source expression trials (evaluate source expression state).2).2) :=
  rfl

theorem length_trialValues (trials : Nat) (state : σ) :
    (trialValues source expression trials state).1.length = trials := by
  induction trials generalizing state with
  | zero => rfl
  | succ trials ih => rw [trialValues_succ, List.length_cons, ih]

/-- Further trials go on where the first ones left the source. -/
theorem trialValues_add (first later : Nat) (state : σ) :
    trialValues source expression (first + later) state =
      ((trialValues source expression first state).1 ++
          (trialValues source expression later (trialValues source expression first state).2).1,
        (trialValues source expression later (trialValues source expression first state).2).2) := by
  induction first generalizing state with
  | zero => rw [Nat.zero_add, trialValues, List.nil_append]
  | succ first ih =>
      rw [Nat.succ_add, trialValues_succ, trialValues_succ, ih, List.cons_append]

/-- Recording a source changes no trial. -/
theorem trialValues_recorded (trials : Nat) (recording : Source.Recording σ) :
    SameResult (trialValues source.recorded expression trials recording)
      (trialValues source expression trials recording.state) := by
  induction trials generalizing recording with
  | zero => exact ⟨rfl, rfl⟩
  | succ trials ih =>
      have now := evaluate_recorded source expression recording
      have later := ih (evaluate source.recorded expression recording).2
      rw [now.state] at later
      exact ⟨congrArg₂ List.cons now.value later.value, later.state⟩

/-- A trial passes if its value reaches the threshold. -/
theorem trialPasses_eq (state : σ) :
    trialPasses source expression threshold state =
      (reaches threshold (evaluate source expression state).1,
        (evaluate source expression state).2) := by
  unfold trialPasses
  rcases evaluate source expression state with ⟨_ | value, next⟩ <;> rfl

/-- The trials that pass are those whose values reach the threshold. -/
theorem addPasses_eq (trials passed : Nat) (state : σ) :
    addPasses source expression threshold trials passed state =
      (passed + (trialValues source expression trials state).1.countP (reaches threshold),
        (trialValues source expression trials state).2) := by
  induction trials generalizing passed state with
  | zero => rfl
  | succ trials ih =>
      rw [addPasses, trialPasses_eq, trialValues_succ, List.countP_cons]
      cases reaches threshold (evaluate source expression state).1 with
      | true =>
          dsimp only
          rw [ih, if_pos rfl, Nat.add_assoc, Nat.add_comm 1]
      | false =>
          dsimp only
          rw [ih, if_neg Bool.false_ne_true, Nat.add_zero]

/-- Passes are counted over the values of the trials. -/
theorem countPasses_eq (trials : Nat) (state : σ) :
    countPasses source expression threshold trials state =
      ((trialValues source expression trials state).1.countP (reaches threshold),
        (trialValues source expression trials state).2) := by
  rw [countPasses, addPasses_eq, Nat.zero_add]

end

/-- Dice that show their faces in turn. -/
def inTurn : Source Nat := ⟨fun sides state => (state % sides + 1, state + 1)⟩

/-- A value that reaches a threshold reaches every lower one. -/
theorem reaches_of_le {lower upper : Binary64} (below : lower.le upper = true)
    {value : Option Binary64} (reached : reaches upper value = true) :
    reaches lower value = true := by
  cases value with
  | none => cases reached
  | some value => exact Binary64.le_trans below reached

end Chance

end DiceLedger
