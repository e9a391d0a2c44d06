import DiceLedger.Json.Access

/-! # Campaigns and their players

A campaign has a name, a log and, for every player, the senders under which the player
posted. Names of players and senders are unique inside a campaign only. The settings
may write a name as any value; text names compare as text.
-/

namespace DiceLedger

structure Campaign where
  name : LooseText
  log : Json
  timezoneOffset : Option Int
  /-- The players with the senders of each, in the order of their first mention. -/
  aliases : List (Json × List Json)

namespace Campaign

open Json (Mismatch)

/-- Adds senders to a player, who keeps an old place. -/
def addSenders (player : Json) (senders : List Json) :
    List (Json × List Json) → List (Json × List Json)
  | [] => [(player, senders)]
  | (other, old) :: rest =>
    if other.sameName player then (other, old ++ senders) :: rest
    else (other, old) :: addSenders player senders rest

/-- The items of a value that counts as present; otherwise there are none. -/
def itemsOf (value : Json) : Except Mismatch (List Json) :=
  if value.isTruthy then value.items else .ok []

/-- Reads aliases; entries without a player are left out. -/
def readAliases : List Json → List (Json × List Json) → Except Mismatch (List (Json × List Json))
  | [], aliases => .ok aliases
  | entry :: rest, aliases => do
    let player ← entry.fieldOr "player" .null
    if !player.isTruthy then readAliases rest aliases
    else if !player.isName then .error .wrongKind
    else
      let senders ← itemsOf (← entry.fieldOr "senders" .null)
      readAliases rest (addSenders player senders aliases)

def readOffset : Json → Except Mismatch (Option Int)
  | .null => .ok none
  | value => value.toWhole.map some

/-- The campaign of one entry of the settings; an entry that is switched off or has no
log makes none. -/
def ofEntry? (name : LooseText) (entry : Json) : Except Mismatch (Option Campaign) := do
  let enabled ← entry.fieldOr "enabled" (.bool true)
  if !enabled.isTruthy then return none
  let log ← entry.fieldOr "log" .null
  if !log.isTruthy then return none
  let rawOffset ← entry.fieldOr "timezone_offset" .null
  let aliases ← readAliases (← itemsOf (← entry.fieldOr "aliases" .null)) []
  let timezoneOffset ← readOffset rawOffset
  return some { name, log, timezoneOffset, aliases }

/-- The campaigns of the settings, in order. -/
def ofEntries : List (LooseText × Json) → Except Mismatch (List Campaign)
  | [] => .ok []
  | (name, entry) :: rest => do
    let first ← ofEntry? name entry
    let others ← ofEntries rest
    return first.toList ++ others

def sendersOf (campaign : Campaign) (player : Json) : List Json :=
  ((campaign.aliases.find? fun entry => entry.1.sameName player).map (·.2)).getD []

/-- Whether some player of the campaign posts under a name. -/
def isMapped (campaign : Campaign) (sender : LooseText) : Bool :=
  campaign.aliases.any fun entry => entry.2.any (·.sameName (.string sender))

/-- The first player of the campaign who posts under a name. -/
def playerOf? (campaign : Campaign) (sender : LooseText) : Option Json :=
  (campaign.aliases.find? fun entry => entry.2.any (·.sameName (.string sender))).map (·.1)

end Campaign

/-- A sender inside a campaign. -/
structure CampaignSender where
  campaign : LooseText
  sender : Json

def CampaignSender.same (a b : CampaignSender) : Bool :=
  a.campaign = b.campaign && a.sender.same b.sender

namespace Campaign

/-- Appends the senders that are not in the list yet. -/
def addNew (known : List CampaignSender) : List CampaignSender → List CampaignSender
  | [] => known
  | next :: rest =>
    addNew (if known.any (·.same next) then known else known ++ [next]) rest

/-- The senders of a player in all campaigns, each once. A player without any is looked
for under the player's own name in every campaign. -/
def sendersForPlayer (campaigns : List Campaign) (player : Json) : List CampaignSender :=
  let listed := addNew [] (campaigns.flatMap fun campaign =>
    (campaign.sendersOf player).map (⟨campaign.name, ·⟩))
  if listed.isEmpty then campaigns.map (⟨·.name, player⟩) else listed

/-- The player behind a sender of the campaign with that name, or the sender. -/
def playerForSender (campaigns : List Campaign) (name sender : LooseText) : Json :=
  ((campaigns.filter (·.name = name)).findSome? (·.playerOf? sender)).getD (.string sender)

end Campaign

/-- How often the simulations repeat their trials. -/
structure TrialCounts where
  odds : Int := 100000
  luck : Int := 10
  quick : Int := 1000
  precise : Int := 100000
  deriving DecidableEq, Repr

namespace TrialCounts

open Json (Mismatch)

/-- One count of the settings, or its usual value. -/
def readCount (settings : Json) (name : String) (usual : Int) : Except Mismatch Int := do
  (← settings.fieldOr name (.integer usual)).toWhole

/-- The counts of the settings; a missing one has its usual value. -/
def ofSettings (settings : Json) : Except Mismatch TrialCounts := do
  let usual : TrialCounts := {}
  let odds ← readCount settings "odds_trials" usual.odds
  let luck ← readCount settings "luck_repetitions" usual.luck
  let quick ← readCount settings "quick_trials" usual.quick
  let precise ← readCount settings "precise_trials" usual.precise
  return { odds, luck, quick, precise }

end TrialCounts

end DiceLedger
