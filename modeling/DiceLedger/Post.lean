import DiceLedger.Calendar.Timestamp
import DiceLedger.Dice.Roll
import DiceLedger.Json.Basic

/-! # Posts

What every transcript is read into, whatever platform it came from: one entry with
its sender, time, text and rolls. `RecordedRoll` is a roll of a stored post together
with where and when it was made.
-/

namespace DiceLedger

/-- One entry of a transcript. The content is text, save where a record holds another
value in its place. A record may also write halves of characters into its texts. -/
structure Post where
  id : LooseText
  sender : LooseText
  time : Timestamp
  content : Json
  isMessage : Bool
  rolls : List Roll

/-- A stored roll with its campaign, sender and time. -/
structure RecordedRoll where
  campaign : String
  sender : String
  formula : String
  outcome : Binary64
  time : Timestamp
  deriving DecidableEq

end DiceLedger
