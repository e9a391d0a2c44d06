import DiceLedger.Proofs.Calendar.Written
import DiceLedger.Proofs.Json.Access
import DiceLedger.Proofs.Store.Saving
import Mathlib.Data.List.Basic

/-! # Rows that lead to one another

A row of rolls leads to the row of its post, and a row of dice to the row of its roll
(`DiceLedger.Store.Tables.Linked`). Rows that are written later never change what an earlier
one leads to, so the answers about a post's rolls and dice stand behind those about the posts
saved before it and are never mixed with them.
-/

namespace DiceLedger

namespace Store

/-- A post that is offered to the store for a campaign. -/
structure Offer where
  campaign : String
  post : Post

namespace Offer

/-- The row that an offer leaves in the table of posts. -/
def row (offer : Offer) : PostRow :=
  ⟨offer.campaign, offer.post.id, offer.post.sender, offer.post.time.display⟩

/-- The row of a roll of an offer, under its number. -/
def rollRow (offer : Offer) (number : Nat) (roll : Roll) : RollRow :=
  ⟨number, offer.campaign, offer.post.id, roll.formula, keptOutcome roll.outcome⟩

/-- What is known later of a roll of an offer. -/
def recorded (offer : Offer) (roll : Roll) : RecordedRoll :=
  ⟨offer.campaign, offer.post.sender.shown, roll.formula.shown, keptOutcome roll.outcome,
    offer.post.time⟩

/-- All dice of an offer, roll after roll. -/
def dice (offer : Offer) : List Die := offer.post.rolls.flatMap (·.dice)

/-- Whether an offer is by one of the senders. -/
def isBy (keys : List (LooseText × LooseText)) (offer : Offer) : Bool :=
  keys.contains (↑offer.campaign, offer.post.sender)

end Offer

/-- Every row leads to the row it belongs to, and a new roll has a new number. -/
structure Tables.Linked (tables : Tables) : Prop where
  rolls : ∀ roll ∈ tables.rolls, (Tables.postOf? tables roll).isSome
  numbers : ∀ roll ∈ tables.rolls, roll.number ≤ tables.rolls.length
  dice : ∀ row ∈ tables.dice, (tables.rolls.find? (·.number = row.rollNumber)).isSome

/-- The tables with the row of an offer's post. -/
def Tables.withRow (tables : Tables) (offer : Offer) : Tables :=
  { tables with posts := tables.posts ++ [offer.row] }

/-- The tables with one more roll of an offer's post, and its dice. -/
def Tables.withRoll (tables : Tables) (offer : Offer) (roll : Roll) : Tables :=
  let number := tables.rolls.length + 1
  { tables with
    rolls := tables.rolls ++ [offer.rollRow number roll]
    dice := tables.dice ++ roll.dice.map (⟨number, ·⟩) }

theorem Tables.postOf?_withRoll (tables : Tables) (offer : Offer) (roll : Roll) (row : RollRow) :
    Tables.postOf? (Tables.withRoll tables offer roll) row = Tables.postOf? tables row := rfl

/-- The tables with all rolls of an offer's post. -/
def Tables.withRollsOf (tables : Tables) (offer : Offer) (rolls : List Roll) : Tables :=
  Tables.withRolls offer.campaign offer.post.id rolls tables

theorem Tables.withRollsOf_nil (tables : Tables) (offer : Offer) :
    Tables.withRollsOf tables offer [] = tables := rfl

theorem Tables.withRollsOf_cons (tables : Tables) (offer : Offer) (roll : Roll)
    (rest : List Roll) :
    Tables.withRollsOf tables offer (roll :: rest) =
      Tables.withRollsOf (Tables.withRoll tables offer roll) offer rest := rfl

/-- A post is written as a row, and then its rolls. -/
theorem Tables.withPost_eq (tables : Tables) (offer : Offer) :
    Tables.withPost tables offer.campaign offer.post =
      Tables.withRollsOf (Tables.withRow tables offer) offer offer.post.rolls := rfl

section Row

variable {tables : Tables} (linked : Tables.Linked tables) (offer : Offer)

include linked

/-- A new post takes no roll from the post it belongs to. -/
theorem Tables.Linked.postOf?_withRow {roll : RollRow} (member : roll ∈ tables.rolls) :
    Tables.postOf? (Tables.withRow tables offer) roll = Tables.postOf? tables roll := by
  have found := linked.rolls roll member
  simp only [Tables.postOf?, Tables.withRow, List.find?_append] at found ⊢
  exact Option.or_of_isSome found

/-- The row of a new post leaves all rows with theirs. -/
theorem Tables.Linked.withRow : Tables.Linked (Tables.withRow tables offer) where
  rolls := by
    intro roll member
    rw [linked.postOf?_withRow offer member]
    exact linked.rolls roll member
  numbers := linked.numbers
  dice := linked.dice

/-- The row of a new post has no rolls yet. -/
theorem Tables.Linked.postedRolls_withRow :
    Tables.postedRolls (Tables.withRow tables offer) = Tables.postedRolls tables := by
  apply List.filterMap_congr
  intro roll member
  rw [linked.postOf?_withRow offer member]

/-- The row of a new post has no dice yet. -/
theorem Tables.Linked.diceOf_withRow (keys : List (LooseText × LooseText)) :
    diceOf (Tables.withRow tables offer) keys = diceOf tables keys := by
  apply List.filterMap_congr
  intro die member
  obtain ⟨roll, found⟩ := Option.isSome_iff_exists.mp (linked.dice die member)
  have kept : (Tables.withRow tables offer).rolls = tables.rolls := rfl
  simp only [kept, found, Option.bind_eq_bind, Option.bind_some,
    linked.postOf?_withRow offer (List.mem_of_find?_eq_some found)]

end Row

/-- The row of an offer is the one that its campaign and identifier lead to. -/
def Tables.Leads (tables : Tables) (offer : Offer) : Prop :=
  tables.posts.find? (fun row => row.campaign = offer.campaign && row.id = offer.post.id) =
    some offer.row

section Roll

variable {tables : Tables} (linked : Tables.Linked tables) {offer : Offer}
  (leads : Tables.Leads tables offer) (roll : Roll)

/-- A new roll takes no die from the roll it belongs to. -/
theorem Tables.Linked.find?_withRoll (linked : Tables.Linked tables) {die : DieRow}
    (member : die ∈ tables.dice) :
    (Tables.withRoll tables offer roll).rolls.find? (·.number = die.rollNumber) =
      tables.rolls.find? (·.number = die.rollNumber) := by
  simp only [Tables.withRoll, List.find?_append]
  exact Option.or_of_isSome (linked.dice die member)

/-- The dice of a new roll lead to it. -/
theorem Tables.Linked.find?_withRoll_new (linked : Tables.Linked tables) :
    (Tables.withRoll tables offer roll).rolls.find? (·.number = tables.rolls.length + 1) =
      some (offer.rollRow (tables.rolls.length + 1) roll) := by
  -- Numbers in use are at most the number of rolls, so the next one is free.
  have unused : tables.rolls.find? (·.number = tables.rolls.length + 1) = none := by
    rw [List.find?_eq_none]
    intro other member
    have bound := linked.numbers other member
    rw [decide_eq_true_eq]
    omega
  simp only [Tables.withRoll, List.find?_append, unused, Option.none_or, List.find?_cons,
    decide_true, Offer.rollRow]

include leads

/-- The rows of an offer's rolls lead to its row. -/
theorem Tables.Leads.postOf?_rollRow (number : Nat) :
    Tables.postOf? tables (offer.rollRow number roll) = some offer.row := leads

/-- A roll leaves the row of its offer where it is led to. -/
theorem Tables.Leads.withRoll : Tables.Leads (Tables.withRoll tables offer roll) offer := leads

/-- A new roll is answered after all others, with the time its post was given. -/
theorem Tables.Leads.rolls_withRoll :
    rolls ⟨some (Tables.withRoll tables offer roll)⟩ =
      (rolls ⟨some tables⟩).map (· ++ [offer.recorded roll]) := by
  have posted : Tables.postedRolls (Tables.withRoll tables offer roll) =
      Tables.postedRolls tables ++ [(offer.row, offer.rollRow (tables.rolls.length + 1) roll)] := by
    have row : (Tables.withRoll tables offer roll).rolls =
        tables.rolls ++ [offer.rollRow (tables.rolls.length + 1) roll] := rfl
    simp only [Tables.postedRolls, Tables.postOf?_withRoll, row, List.filterMap_append,
      List.filterMap_cons, List.filterMap_nil, leads.postOf?_rollRow, Option.map_some]
  -- The row holds the time as text only: this is where writing and reading it meet.
  have read : recordedRoll offer.row (offer.rollRow (tables.rolls.length + 1) roll) =
      .ok (offer.recorded roll) := by
    simp only [recordedRoll, Offer.row, Timestamp.ofText?_display]
    rfl
  simp only [rolls, posted, List.mapM_append, List.mapM_cons, List.mapM_nil, read]
  cases (Tables.postedRolls tables).mapM fun posted => recordedRoll posted.1 posted.2 <;> rfl

include linked

/-- A roll of a post that is there leaves all rows with theirs. -/
theorem Tables.Linked.withRoll : Tables.Linked (Tables.withRoll tables offer roll) where
  rolls := by
    intro other member
    rcases List.mem_append.mp member with old | new
    · exact linked.rolls other old
    · obtain rfl := List.mem_singleton.mp new
      exact Option.isSome_iff_exists.mpr ⟨offer.row, leads⟩
  numbers := by
    intro other member
    have length : (Tables.withRoll tables offer roll).rolls.length =
        tables.rolls.length + 1 := List.length_append
    rw [length]
    rcases List.mem_append.mp member with old | new
    · exact Nat.le_succ_of_le (linked.numbers other old)
    · obtain rfl := List.mem_singleton.mp new
      exact Nat.le_refl _
  dice := by
    intro die member
    rcases List.mem_append.mp member with old | new
    · rw [linked.find?_withRoll roll old]
      exact linked.dice die old
    · obtain ⟨_, _, rfl⟩ := List.mem_map.mp new
      rw [linked.find?_withRoll_new roll]
      rfl

/-- The dice of a new roll are answered after all others, to whoever asks for its sender. -/
theorem Tables.Linked.diceOf_withRoll (keys : List (LooseText × LooseText)) :
    diceOf (Tables.withRoll tables offer roll) keys =
      diceOf tables keys ++ (if offer.isBy keys then roll.dice else []) := by
  have dice : (Tables.withRoll tables offer roll).dice =
      tables.dice ++ roll.dice.map (⟨tables.rolls.length + 1, ·⟩) := rfl
  rw [diceOf, dice, List.filterMap_append]
  -- Old dice lead where they led before; the new ones lead to the new roll and its post.
  congr 1
  · apply List.filterMap_congr
    intro die member
    simp only [linked.find?_withRoll roll member, Tables.postOf?_withRoll]
  · have wanted : keys.contains (↑offer.row.campaign, offer.row.sender) = offer.isBy keys := rfl
    rw [List.filterMap_map]
    simp only [Function.comp_def, linked.find?_withRoll_new roll, Tables.postOf?_withRoll,
      leads.postOf?_rollRow, Option.bind_eq_bind, Option.bind_some, wanted]
    by_cases asked : offer.isBy keys = true
    · simp only [asked, ↓reduceIte, List.filterMap_some]
    · simp only [asked, Bool.false_eq_true, ↓reduceIte, List.filterMap_none]

end Roll

section Rolls

variable {tables : Tables} {offer : Offer} (leads : Tables.Leads tables offer)
  (rest : List Roll)

include leads

/-- Rolls that are written are told behind those from before. -/
theorem Tables.Leads.rolls_withRollsOf :
    rolls ⟨some (Tables.withRollsOf tables offer rest)⟩ =
      (rolls ⟨some tables⟩).map (· ++ rest.map offer.recorded) := by
  induction rest generalizing tables with
  | nil => exact (Except.map_append_nil _).symm
  | cons roll rest ih =>
      rw [Tables.withRollsOf_cons, ih (leads.withRoll roll), leads.rolls_withRoll roll,
        Except.map_append_append]
      rfl

/-- Rolls of a post that is there leave all rows with theirs. -/
theorem Tables.Linked.withRollsOf (linked : Tables.Linked tables) :
    Tables.Linked (Tables.withRollsOf tables offer rest) := by
  induction rest generalizing tables with
  | nil => exact linked
  | cons roll rest ih => exact ih (leads.withRoll roll) (linked.withRoll leads roll)

/-- Dice that are written are told behind those from before, to who asks for their sender. -/
theorem Tables.Linked.diceOf_withRollsOf (linked : Tables.Linked tables)
    (keys : List (LooseText × LooseText)) :
    diceOf (Tables.withRollsOf tables offer rest) keys =
      diceOf tables keys ++ (if offer.isBy keys then rest.flatMap (·.dice) else []) := by
  induction rest generalizing tables with
  | nil => rw [Tables.withRollsOf_nil, List.flatMap_nil, ite_self, List.append_nil]
  | cons roll rest ih =>
      rw [Tables.withRollsOf_cons, ih (leads.withRoll roll) (linked.withRoll leads roll),
        linked.diceOf_withRoll leads, List.append_assoc]
      split
      · rw [List.flatMap_cons]
      · rfl

end Rolls

section Post

variable {tables : Tables} (offer : Offer)
  (absent : Tables.has tables offer.campaign offer.post.id = false)

include absent

/-- No older row stands in front of that of a new post, since none has its identifier. -/
theorem Tables.leads_withRow : Tables.Leads (Tables.withRow tables offer) offer := by
  have unknown : tables.posts.find?
      (fun row => row.campaign = offer.campaign && row.id = offer.post.id) = none := by
    rw [List.find?_eq_none]
    intro row member held
    have present : Tables.has tables offer.campaign offer.post.id = true :=
      List.any_eq_true.mpr ⟨row, member, held⟩
    rw [absent] at present
    cases present
  simp only [Tables.Leads, Tables.withRow, List.find?_append, unknown, Option.none_or,
    List.find?_cons, Offer.row, decide_true, Bool.and_self]

/-- A post that is written leaves all rows with theirs. -/
theorem Tables.Linked.withPost (linked : Tables.Linked tables) :
    Tables.Linked (Tables.withPost tables offer.campaign offer.post) := by
  rw [Tables.withPost_eq]
  exact (linked.withRow offer).withRollsOf (Tables.leads_withRow offer absent) _

/-- The rolls of a new post are answered after all others. -/
theorem Tables.Linked.rolls_withPost (linked : Tables.Linked tables) :
    Store.rolls ⟨some (Tables.withPost tables offer.campaign offer.post)⟩ =
      (Store.rolls ⟨some tables⟩).map (· ++ offer.post.rolls.map offer.recorded) := by
  have kept : Store.rolls ⟨some (Tables.withRow tables offer)⟩ =
      Store.rolls ⟨some tables⟩ := by
    simp only [Store.rolls, linked.postedRolls_withRow]
  rw [Tables.withPost_eq, (Tables.leads_withRow offer absent).rolls_withRollsOf, kept]

/-- So are its dice, to whoever asks for its sender. -/
theorem Tables.Linked.diceOf_withPost (linked : Tables.Linked tables)
    (keys : List (LooseText × LooseText)) :
    diceOf (Tables.withPost tables offer.campaign offer.post) keys =
      diceOf tables keys ++ (if offer.isBy keys then offer.dice else []) := by
  rw [Tables.withPost_eq,
    (linked.withRow offer).diceOf_withRollsOf (Tables.leads_withRow offer absent),
    linked.diceOf_withRow, Offer.dice]

end Post

end Store

end DiceLedger
