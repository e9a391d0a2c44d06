import DiceLedger.Binary64.Display
import DiceLedger.Chance.Luck
import DiceLedger.Chance.Superlative
import DiceLedger.Ingest

/-! # Simulations over stored rolls

The simulations of this folder, run over what a store holds and with the usual number of
trials unless another is given, and with the notices that they give.
-/

namespace DiceLedger

namespace Chance

open Dice

variable {σ : Type}

/-- Why a simulation gives no answer. -/
inductive Fault where
  | store (fault : StoreFault)
  | trials (fault : NotPositive)
  | repetitions (fault : NotPositive)
  deriving DecidableEq, Repr

def part : String := "core.simulation"

def info (text : String) : Notice := ⟨.info, part, text⟩

/-- A count of the caller's, unless it is zero, or the usual one. -/
def countOr (count : Option Int) (usual : Int) : Int :=
  match count with
  | some n => if n = 0 then usual else n
  | none => usual

/-- A simulation's answer and the source after it. -/
abbrev Simulated (σ α : Type) := Noted (Except Fault α) × σ

def runOdds (source : Source σ) (counts : TrialCounts) (expression : String)
    (threshold : Binary64) (trials : Option Int) (state : σ) : Simulated σ OddsEstimate :=
  match estimateOdds source expression threshold (countOr trials counts.odds) state with
  | .error fault => (⟨[], .error (.trials fault)⟩, state)
  | .ok (estimate, state) =>
    let notice := info ("Odds for " ++ expression ++ " >= " ++ threshold.display ++ ": " ++
      toString estimate.passes ++ "/" ++ toString estimate.trials ++ " passes")
    (⟨[notice], .ok estimate⟩, state)

def runLuck (source : Source σ) (counts : TrialCounts) (store : Store)
    (senders : List CampaignSender) (repetitions : Option Int) (state : σ) :
    Simulated σ (Option LuckReport) :=
  match store.singleDice senders with
  | .error fault => (⟨[], .error (.store fault)⟩, state)
  | .ok dice =>
    let notice := info ("Replaying " ++ toString dice.length ++ " recorded dice")
    match compareLuck source dice (countOr repetitions counts.luck) state with
    | .error fault => (⟨[notice], .error (.repetitions fault)⟩, state)
    | .ok (report, state) => (⟨[notice], .ok report⟩, state)

/-- The notice on a formula that does not evaluate. -/
def skippedFormula (formula : String) : Notice :=
  ⟨.debug, part, "Skipping " ++ Text.quoted formula ++ ": the evaluator cannot replay it"⟩

def runSuperlative (source : Source σ) (counts : TrialCounts) (store : Store)
    (worst precise : Bool) (state : σ) : Simulated σ (Option Superlative) :=
  let trials := if precise then counts.precise else counts.quick
  match store.rolls with
  | .error fault => (⟨[], .error (.store fault)⟩, state)
  | .ok rolls =>
    let notice := info ("Searching " ++ toString rolls.length ++ " recorded rolls with " ++
      toString trials ++ " trials each")
    match findSuperlative source rolls trials worst state with
    | .error fault => (⟨[notice], .error (.trials fault)⟩, state)
    | .ok (search, state) =>
      (⟨notice :: search.skipped.map skippedFormula, .ok search.answer⟩, state)

end Chance

end DiceLedger
