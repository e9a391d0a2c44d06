import DiceLedger.Binary64.Basic
import DiceLedger.Binary64.Bits
import DiceLedger.Binary64.Decimal
import DiceLedger.Binary64.Display
import DiceLedger.Calendar.Date
import DiceLedger.Calendar.Stamp
import DiceLedger.Calendar.Timestamp
import DiceLedger.Campaign
import DiceLedger.Chance.History
import DiceLedger.Chance.Luck
import DiceLedger.Chance.Odds
import DiceLedger.Chance.Superlative
import DiceLedger.Command.Arguments
import DiceLedger.Command.Failure
import DiceLedger.Command.Grammar
import DiceLedger.Command.LogSetup
import DiceLedger.Command.Report
import DiceLedger.Command.Run
import DiceLedger.Dice.Evaluation
import DiceLedger.Dice.Operation
import DiceLedger.Dice.Reading
import DiceLedger.Dice.Roll
import DiceLedger.Dice.Source
import DiceLedger.Dice.Term
import DiceLedger.Dice.Token
import DiceLedger.Host.Basic
import DiceLedger.Host.Memory
import DiceLedger.Host.Path
import DiceLedger.Ingest
import DiceLedger.Json.Access
import DiceLedger.Json.Basic
import DiceLedger.Json.Reader
import DiceLedger.Json.Written
import DiceLedger.Main
import DiceLedger.Markup.EntityTable
import DiceLedger.Markup.Reference
import DiceLedger.Markup.Token
import DiceLedger.Markup.Tree
import DiceLedger.Notice
import DiceLedger.Post
import DiceLedger.Proofs.Binary64.Whole
import DiceLedger.Proofs.Calendar.Day
import DiceLedger.Proofs.Calendar.Local
import DiceLedger.Proofs.Calendar.Universal
import DiceLedger.Proofs.Calendar.Written
import DiceLedger.Proofs.Campaign.Players
import DiceLedger.Proofs.Chance.Faithful
import DiceLedger.Proofs.Chance.NoBetter
import DiceLedger.Proofs.Chance.Odds
import DiceLedger.Proofs.Chance.Replay
import DiceLedger.Proofs.Dice.Acceptance
import DiceLedger.Proofs.Dice.Dealing
import DiceLedger.Proofs.Dice.FreeText
import DiceLedger.Proofs.Dice.Modifiers
import DiceLedger.Proofs.Dice.OnePassAgrees
import DiceLedger.Proofs.Dice.PowerRange
import DiceLedger.Proofs.Dice.PowerTurns
import DiceLedger.Proofs.Dice.Printing
import DiceLedger.Proofs.Dice.Reattaching
import DiceLedger.Proofs.Dice.RollBounds
import DiceLedger.Proofs.Dice.RoundedDice
import DiceLedger.Proofs.Dice.WrittenTerms
import DiceLedger.Proofs.FantasyGrounds.Annotation
import DiceLedger.Proofs.FantasyGrounds.Banners
import DiceLedger.Proofs.FantasyGrounds.Faults
import DiceLedger.Proofs.FantasyGrounds.Numbering
import DiceLedger.Proofs.FantasyGrounds.TrailingBlanks
import DiceLedger.Proofs.Foundry.Lines
import DiceLedger.Proofs.Ingest.Aborted
import DiceLedger.Proofs.Ingest.Campaigns
import DiceLedger.Proofs.Ingest.Keeping
import DiceLedger.Proofs.Ingest.Repeated
import DiceLedger.Proofs.Ingest.Report
import DiceLedger.Proofs.Ingest.Unmapped
import DiceLedger.Proofs.Json.Access
import DiceLedger.Proofs.Roll20.CarryForward
import DiceLedger.Proofs.Roll20.Interruption
import DiceLedger.Proofs.Roll20.Isolation
import DiceLedger.Proofs.Roll20.Partition
import DiceLedger.Proofs.Roll20.PlainText
import DiceLedger.Proofs.Roll20.Privacy
import DiceLedger.Proofs.Roll20.StampedEntries
import DiceLedger.Proofs.Store.Ledger
import DiceLedger.Proofs.Store.Linking
import DiceLedger.Proofs.Store.Saving
import DiceLedger.Proofs.Transcript.Answers
import DiceLedger.Proofs.Transcript.AnyCut
import DiceLedger.Proofs.Transcript.BrokenTag
import DiceLedger.Proofs.Transcript.Consistent
import DiceLedger.Proofs.Transcript.Growth
import DiceLedger.Proofs.Transcript.QuotedValues
import DiceLedger.Settings.Basic
import DiceLedger.Settings.EnvironmentFile
import DiceLedger.Store
import DiceLedger.Store.Written
import DiceLedger.Text.Blank
import DiceLedger.Text.Cluster
import DiceLedger.Text.ClusterTable
import DiceLedger.Text.Digit
import DiceLedger.Text.Numeral
import DiceLedger.Text.Printable
import DiceLedger.Text.Quoted
import DiceLedger.Text.Ranges
import DiceLedger.Text.Utf8
import DiceLedger.Transcript.Entry
import DiceLedger.Transcript.FantasyGrounds
import DiceLedger.Transcript.Format
import DiceLedger.Transcript.Foundry
import DiceLedger.Transcript.Roll20.Archive
import DiceLedger.Transcript.Roll20.Message
import DiceLedger.Transcript.TagDepth
