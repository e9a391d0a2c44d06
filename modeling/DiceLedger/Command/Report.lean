import DiceLedger.Chance.History
import DiceLedger.Ingest

/-! # What the commands print

The lines that tell of results: counts with commas between groups of three digits, values
with six significant digits, percentages with two or three places or with as many as they
need.
-/

namespace DiceLedger

namespace Command

open Chance (LuckReport OddsEstimate Superlative)

/-- Lines as text. -/
def text (lines : List String) : String := String.join (lines.map (· ++ "\n"))

/-- The banner above an ingestion. -/
def banner : List String :=
  ["       ",
   "██████╗░ ░█████╗░ ██╗░░░░░ ██╗░░░░░ ░█████╗░ ░█████╗░ ██╗░░░░░ ██╗░░░░░",
   "██╔══██╗ ██╔══██╗ ██║░░░░░ ██║░░░░░ ██╔══██╗ ██╔══██╗ ██║░░░░░ ██║░░░░░",
   "██████╔╝ ██║░░██║ ██║░░░░░ ██║░░░░░ ██║░░╚═╝ ███████║ ██║░░░░░ ██║░░░░░",
   "██╔══██╗ ██║░░██║ ██║░░░░░ ██║░░░░░ ██║░░██╗ ██╔══██║ ██║░░░░░ ██║░░░░░",
   "██║░░██║ ╚█████╔╝ ███████╗ ███████╗ ╚█████╔╝ ██║░░██║ ███████╗ ███████╗",
   "╚═╝░░╚═╝ ░╚════╝░ ╚══════╝ ╚══════╝ ░╚════╝░ ╚═╝░░╚═╝ ╚══════╝ ╚══════╝"]

/-- The notice before an ingestion. -/
def campaignsNotice (campaigns : List Campaign) : Notice :=
  ⟨.info, "app", toString campaigns.length ++ " campaigns are configured"⟩

def ingestLine (campaign : String) (counts : Ingest.Counts) : String :=
  campaign ++ ": " ++ grouped counts.saved ++ " new posts (" ++ grouped counts.skipped ++
    " already stored)"

def senderLine (campaign sender : LooseText) : LooseText := campaign ++ ": " ++ sender

def allMappedLine : String := "Every sender is mapped to a player"

def rollLine (expression : String) : Option Binary64 → String
  | some value => expression ++ ": " ++ value.general
  | none => "Could not interpret " ++ Text.quoted expression

def oddsLine (estimate : OddsEstimate) : String :=
  grouped estimate.passes ++ " of " ++ grouped estimate.trials ++ " rolls of " ++
    estimate.expression ++ " reached " ++ estimate.threshold.general ++ " (" ++
    estimate.percent.fixed 2 ++ "%)"

def luckLines (player : String) : Option LuckReport → List String
  | none => ["No rolls recorded for " ++ player]
  | some report =>
    ["Rolled " ++ grouped report.rolled ++ " dice",
     "Beat " ++ player ++ " " ++ grouped report.beaten ++ " times (" ++
       report.beatenPercent.display ++ "%)",
     "Tied " ++ grouped report.tied ++ " times (" ++ report.tiedPercent.display ++ "%)",
     "Luck: " ++ report.percentOfPerfect.display ++ "% of perfect"]

def superlativeLine (campaigns : List Campaign) (worst : Bool) : Option Superlative → LooseText
  | none => "No reproducible rolls recorded"
  | some found =>
    let roll := found.roll
    let player := Campaign.playerForSender campaigns roll.campaign roll.sender
    (if worst then "Worst roll: " else "Best roll: ") ++ player.display ++ " in " ++
      Text.quoted roll.campaign ++ " at " ++ roll.time.display ++ " rolled " ++ roll.formula ++
      " = " ++ roll.outcome.general ++ " (~" ++ found.percent.fixed 3 ++ "% chance)"

end Command

end DiceLedger
