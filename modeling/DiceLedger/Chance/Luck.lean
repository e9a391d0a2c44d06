import DiceLedger.Chance.Odds
import DiceLedger.Dice.Roll

/-! # Luck

Recorded dice are replayed and compared with what they showed: a replay that comes
out higher beats the record, an equal one ties with it. A die that cannot be rolled
neither beats nor ties.
-/

namespace DiceLedger

namespace Chance

open Dice

variable {σ : Type}

/-- How many replays beat and tied with the record. -/
structure Replays where
  beaten : Nat
  tied : Nat
  deriving DecidableEq, Repr

/-- Counts one replay. -/
def Replays.add (replays : Replays) (value : Option Binary64) (outcome : Int) : Replays :=
  match value.bind (·.compareInt? outcome) with
  | some .gt => { replays with beaten := replays.beaten + 1 }
  | some .eq => { replays with tied := replays.tied + 1 }
  | _ => replays

/-- The expression that rolls a die again. -/
def replayExpression (die : Die) : String := "1d" ++ toString die.faces

/-- Replays a die the given number of times, adding to the counts. -/
def replayDie (source : Source σ) (die : Die) : (repetitions : Nat) → Replays → σ → Replays × σ
  | 0, replays, state => (replays, state)
  | repetitions + 1, replays, state =>
    let (value, state) := evaluate source (replayExpression die) state
    replayDie source die repetitions (replays.add value die.outcome) state

/-- Replays every die in order. -/
def replayDice (source : Source σ) (repetitions : Nat) :
    List Die → Replays → σ → Replays × σ
  | [], replays, state => (replays, state)
  | die :: rest, replays, state =>
    let (replays, state) := replayDie source die repetitions replays state
    replayDice source repetitions rest replays state

/-- Luck over all replays. "Beaten" counts replays higher than the record, so a lower
rate means more luck; the last figure is luck in percent of perfect luck. -/
structure LuckReport where
  rolled : Nat
  beaten : Nat
  tied : Nat
  lost : Nat
  beatenPercent : Binary64
  tiedPercent : Binary64
  percentOfPerfect : Binary64
  deriving DecidableEq

/-- The report on counted replays; percentages have two places. -/
def LuckReport.ofReplays (rolled : Nat) (replays : Replays) : LuckReport :=
  let beatenRate := Binary64.ofRatio replays.beaten rolled
  let tiedRate := Binary64.ofRatio replays.tied rolled
  { rolled := rolled
    beaten := replays.beaten
    tied := replays.tied
    lost := rolled - replays.beaten - replays.tied
    beatenPercent := (beatenRate * 100).roundHundredths
    tiedPercent := (tiedRate * 100).roundHundredths
    percentOfPerfect := 100 - ((beatenRate + tiedRate / 2) * 100).roundHundredths }

/-- Compares recorded dice with as many replays of each; nothing for no dice. -/
def compareLuck (source : Source σ) (dice : List Die) (repetitions : Int) (state : σ) :
    Except NotPositive (Option LuckReport × σ) :=
  if repetitions ≤ 0 then .error ⟨repetitions⟩
  else
    let (replays, state) := replayDice source repetitions.toNat dice ⟨0, 0⟩ state
    let rolled := dice.length * repetitions.toNat
    .ok (if rolled = 0 then none else some (.ofReplays rolled replays), state)

end Chance

end DiceLedger
