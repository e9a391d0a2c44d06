import DiceLedger.Chance.Odds
import DiceLedger.Post

/-! # The least likely roll

Among recorded rolls, the one that was least likely to come out as well, or as badly,
as it did. Only formulas that can be rolled again take part: they name dice, use no
modifier that the evaluator lacks, and evaluate once to a value. Formulas that fail
that one evaluation are reported in order.
-/

namespace DiceLedger

namespace Chance

open Dice

variable {σ : Type}

/-- Parts of a formula that cannot be rolled again: keep and drop, reroll, and fudge
dice. -/
def unsupportedParts : List (List Char) := [['k'], ['r', 'o'], ['d', 'F']]

/-- Whether a formula names dice and holds nothing unsupported. -/
def isReproducible (formula : String) : Bool :=
  formula.toList.contains 'd' && !unsupportedParts.any fun part => Text.hasPart part formula.toList

/-- How likely a roll was to come out at least as extreme as it did. The worst rolls
are those that few trials fail to exceed by one. -/
def percentAsExtreme (source : Source σ) (roll : RecordedRoll) (trials : Nat) (worst : Bool)
    (state : σ) : Binary64 × σ :=
  if worst then
    let (better, state) := countPasses source roll.formula (roll.outcome + 1) trials state
    (100 - percent better trials, state)
  else
    let (passes, state) := countPasses source roll.formula roll.outcome trials state
    (percent passes trials, state)

/-- A roll and how likely it was, in percent. -/
structure Superlative where
  roll : RecordedRoll
  percent : Binary64
  deriving DecidableEq

/-- The rolls that can be rolled again, each with its percentage, and the formulas
that turned out not to evaluate. -/
structure Candidates where
  found : List Superlative
  skipped : List String

/-- Goes through the rolls in order with one source. -/
def candidates (source : Source σ) (trials : Nat) (worst : Bool) :
    List RecordedRoll → σ → Candidates × σ
  | [], state => (⟨[], []⟩, state)
  | roll :: rest, state =>
    if isReproducible roll.formula then
      match evaluate source roll.formula state with
      | (some _, state) =>
        let (percent, state) := percentAsExtreme source roll trials worst state
        let (others, state) := candidates source trials worst rest state
        (⟨⟨roll, percent⟩ :: others.found, others.skipped⟩, state)
      | (none, state) =>
        let (others, state) := candidates source trials worst rest state
        (⟨others.found, roll.formula :: others.skipped⟩, state)
    else candidates source trials worst rest state

/-- The first of the candidates with the least percentage. -/
def leastLikely (best : Superlative) : List Superlative → Superlative
  | [] => best
  | next :: rest => leastLikely (if next.percent.lt best.percent then next else best) rest

/-- A search's answer with the formulas it passed over. -/
structure Search where
  answer : Option Superlative
  skipped : List String

/-- Finds the least likely roll, the worst or the best. -/
def findSuperlative (source : Source σ) (rolls : List RecordedRoll) (trials : Int) (worst : Bool)
    (state : σ) : Except NotPositive (Search × σ) :=
  if trials ≤ 0 then .error ⟨trials⟩
  else
    let (candidates, state) := candidates source trials.toNat worst rolls state
    let answer := match candidates.found with
      | [] => none
      | first :: rest => some (leastLikely first rest)
    .ok (⟨answer, candidates.skipped⟩, state)

end Chance

end DiceLedger
