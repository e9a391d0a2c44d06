import DiceLedger.Binary64.Basic
import DiceLedger.Text.Loose

/-! # Recorded rolls

A die that was rolled, and a roll: a formula, its total and its dice in the order in
which the formula names them.
-/

namespace DiceLedger

/-- One die: how many faces it has and the one it landed on. -/
structure Die where
  faces : Int
  outcome : Int
  deriving DecidableEq, Repr

/-- One evaluated formula. -/
structure Roll where
  formula : LooseText
  outcome : Binary64
  dice : List Die
  deriving DecidableEq

end DiceLedger
