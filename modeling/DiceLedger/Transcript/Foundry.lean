import DiceLedger.Transcript.Entry

/-! # Foundry logs

A Foundry log holds one JSON record on every line. Records without chat content and
whispers are passed over; so are lines that are no records, with a notice. The times of
records are absolute, so no offset plays a part.
-/

namespace DiceLedger

namespace Transcript

namespace Foundry

/-- The result of taking a record apart. -/
abbrev Taken (α : Type) := Except RecordFault α

/-- A shape mismatch as a fault of the record. -/
def expect {α : Type} (result : Except Json.Mismatch α) : Taken α :=
  result.mapError .mismatch

/-- The type of records that only show an item. -/
def itemCardType : String := "0"

/-- The class of the terms of a roll that hold dice. -/
def dieClass : String := "Die"

/-- The dice of one term with their results; a term of another class has none. -/
def termDice (term : Json) : Taken (List Die) := do
  let kind ← expect (term.fieldOr "class" .null)
  if !kind.sameName (.string dieClass) then return []
  let faces ← expect do (← term.require "faces").toWhole
  let results ← expect do (← term.fieldOr "results" (.array [])).items
  results.mapM fun result => do
    let outcome ← expect do (← result.require "result").toWhole
    return ⟨faces, outcome⟩

/-- What a roll is read from. Older records hold it as JSON text. -/
def rollValue : Json → Taken Json
  | .string text => (Json.readLetters text.letters).mapError .text
  | other => .ok other

/-- One roll of a record. -/
def readRoll (payload : Json) : Taken Roll := do
  let value ← rollValue payload
  let terms ← expect do (← value.fieldOr "terms" (.array [])).items
  let dice ← terms.mapM termDice
  let formula ← expect (value.require "formula")
  let total ← expect do (← value.require "total").toDouble
  return { formula := formula.display, outcome := total, dice := dice.flatten }

/-- The time of a record, in milliseconds since 1970. -/
def readTime (millis : Json) : Taken Timestamp := do
  let millis ← expect millis.toWhole
  (Timestamp.ofEpochMillis millis).mapError .time

/-- The rolls of a record, if it has any. -/
def recordRolls (payloads : Json) : Taken (List Roll) :=
  if payloads.isTruthy then do (← expect payloads.items).mapM readRoll else .ok []

/-- The post of a record, if it holds one that everybody may read. -/
def readRecord (record : Json) : Taken (Option Post) := do
  let kind ← expect (record.fieldOr "type" .null)
  if kind.display = itemCardType then return none
  let whisper ← expect (record.fieldOr "whisper" .null)
  if whisper.isTruthy then return none
  let payloads ← expect (record.fieldOr "rolls" .null)
  let rolls ← recordRolls payloads
  let id ← expect (record.require "_id")
  let sender ← expect do (← record.require "speaker").require "alias"
  let time ← readTime (← expect (record.require "timestamp"))
  let content ← expect (record.fieldOr "content" .null)
  return some
    { id := id.display
      sender := sender.display
      time := time
      content := if content.isTruthy then content else .string ""
      isMessage := !payloads.isTruthy
      rolls := rolls }

/-- Whether a record with this fault is passed over; a number out of range is not, nor
are values nested too deep. -/
def isPassedOver : RecordFault → Bool
  | .mismatch .tooLarge => false
  | .mismatch _ => true
  | .text .tooDeep => false
  | .text _ => true
  | .time .outsideCalendar => true
  | .time _ => false

def part : String := "adapters.foundry_log"

def unreadableLine : Notice := ⟨.debug, part, "Skipping unparseable Foundry line"⟩

def malformedRecord (id : Json) : Notice :=
  ⟨.debug, part, "Skipping malformed Foundry record " ++ id.display.shown⟩

/-- The entry of one line. -/
def readLine (line : List Char) : Entry :=
  let text := Text.trim line
  if text.isEmpty then .skipped
  else
    match Json.read text with
    | .error .malformed => .skippedWith unreadableLine
    | .error .tooManyDigits => .fault .tooManyDigits
    | .error .tooDeep => .fault .tooDeep
    | .ok (.object fields) =>
      match readRecord (.object fields) with
      | .ok (some post) => .post post
      | .ok none => .skipped
      | .error fault =>
        if isPassedOver fault then
          .skippedWith (malformedRecord ((Json.lookup? "_id" fields).getD .null))
        else .fault (.record fault)
    | .ok _ => .skipped

/-- The entries of a log. -/
def read (lines : List (List Char)) : List Entry := lines.map readLine

end Foundry

end Transcript

end DiceLedger
