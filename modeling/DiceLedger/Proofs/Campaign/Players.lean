import DiceLedger.Campaign
import DiceLedger.Proofs.Json.Access
import DiceLedger.Proofs.Json.Names
import Mathlib.Data.List.Nodup

/-! # Players and the senders they post under

The aliases of a campaign have one entry for every player (`DiceLedger.Campaign.Tabled`), however
often the settings mention the player. So the player who is found behind a sender is one who is
looked up with that sender, and the senders of a player are those the player is listed with, each
once (`DiceLedger.Campaign.players_and_senders_agree`).
-/

namespace DiceLedger

open Json (Mismatch sameName_iff sameName_refl sameName_string same_string)

namespace Campaign

/-- Aliases with one entry for every player. -/
structure Tabled (aliases : List (Json × List Json)) : Prop where
  players : ∀ player ∈ aliases.map (·.1), player.isName = true
  once : ((aliases.map (·.1)).map Json.name?).Nodup

theorem tabled_nil : Tabled [] :=
  ⟨fun _ member => (List.not_mem_nil member).elim, List.nodup_nil⟩

/-- Adding senders keeps the players in their places; a new one goes to the end. -/
theorem players_addSenders (player : Json) (senders : List Json)
    (aliases : List (Json × List Json)) :
    (addSenders player senders aliases).map (·.1) =
      if (aliases.map (·.1)).any (·.sameName player) then aliases.map (·.1)
      else aliases.map (·.1) ++ [player] := by
  induction aliases with
  | nil => rfl
  | cons first rest ih =>
      obtain ⟨other, old⟩ := first
      by_cases same : other.sameName player = true
      · simp only [addSenders, same, ↓reduceIte, List.map_cons, List.any_cons, Bool.true_or]
      · have differs := Bool.eq_false_iff.mpr same
        simp only [addSenders, differs, Bool.false_eq_true, ↓reduceIte, List.map_cons,
          List.any_cons, Bool.false_or, ih]
        split
        · rfl
        · rfl

/-- Senders are added to the entry of their player, or to a new one. -/
theorem Tabled.addSenders {aliases : List (Json × List Json)} (tabled : Tabled aliases)
    {player : Json} (named : player.isName = true) (senders : List Json) :
    Tabled (addSenders player senders aliases) := by
  by_cases present : (aliases.map (·.1)).any (·.sameName player) = true
  · have kept : (Campaign.addSenders player senders aliases).map (·.1) = aliases.map (·.1) := by
      rw [players_addSenders, if_pos present]
    exact ⟨kept ▸ tabled.players, kept ▸ tabled.once⟩
  · have longer : (Campaign.addSenders player senders aliases).map (·.1) =
        aliases.map (·.1) ++ [player] := by
      rw [players_addSenders, if_neg present]
    constructor
    · rw [longer]
      intro other member
      rcases List.mem_append.mp member with old | new
      · exact tabled.players other old
      · obtain rfl := List.mem_singleton.mp new
        exact named
    · rw [longer, List.map_append, List.map_singleton, List.nodup_append]
      refine ⟨tabled.once, List.nodup_singleton _, ?_⟩
      intro key member other added same
      obtain rfl := List.mem_singleton.mp added
      obtain ⟨old, held, rfl⟩ := List.mem_map.mp member
      have equal := sameName_iff.mpr ⟨tabled.players old held, same⟩
      exact present (List.any_eq_true.mpr ⟨old, held, equal⟩)

/-- Reading aliases keeps one entry for every player. -/
theorem Tabled.readAliases {entries : List Json} {aliases read : List (Json × List Json)}
    (tabled : Tabled aliases) (done : readAliases entries aliases = .ok read) : Tabled read := by
  induction entries generalizing aliases with
  | nil =>
      obtain rfl := Except.ok.inj done
      exact tabled
  | cons entry rest ih =>
      obtain ⟨player, -, done⟩ := Except.bind_eq_ok.mp done
      split at done
      · exact ih tabled done
      split at done
      · cases done
      · next named =>
        obtain ⟨listed, -, done⟩ := Except.bind_eq_ok.mp done
        obtain ⟨senders, -, done⟩ := Except.bind_eq_ok.mp done
        rw [Bool.not_eq_true', Bool.not_eq_false] at named
        exact ih (tabled.addSenders named senders) done

/-- A campaign of the settings has its own name, and one entry for every player. -/
theorem ofEntry?_eq_ok {name : LooseText} {entry : Json} {campaign : Campaign}
    (made : ofEntry? name entry = .ok (some campaign)) :
    campaign.name = name ∧ Tabled campaign.aliases := by
  obtain ⟨enabled, -, made⟩ := Except.bind_eq_ok.mp made
  split at made
  · cases made
  obtain ⟨log, -, made⟩ := Except.bind_eq_ok.mp made
  split at made
  · cases made
  obtain ⟨rawOffset, -, made⟩ := Except.bind_eq_ok.mp made
  obtain ⟨listed, -, made⟩ := Except.bind_eq_ok.mp made
  obtain ⟨entries, -, made⟩ := Except.bind_eq_ok.mp made
  obtain ⟨aliases, read, made⟩ := Except.bind_eq_ok.mp made
  obtain ⟨offset, -, made⟩ := Except.bind_eq_ok.mp made
  obtain rfl := Option.some.inj (Except.ok.inj made)
  exact ⟨rfl, tabled_nil.readAliases read⟩

/-- Campaigns have their players in tables, and names of their own when the entries of the
settings do. -/
theorem ofEntries_eq_ok {entries : List (LooseText × Json)} {campaigns : List Campaign}
    (built : ofEntries entries = .ok campaigns) :
    (campaigns.map (·.name)).Sublist (entries.map (·.1)) ∧
      ∀ campaign ∈ campaigns, Tabled campaign.aliases := by
  induction entries generalizing campaigns with
  | nil =>
      obtain rfl := Except.ok.inj built
      exact ⟨List.Sublist.refl [], fun _ member => (List.not_mem_nil member).elim⟩
  | cons first rest ih =>
      obtain ⟨name, entry⟩ := first
      obtain ⟨made, here, built⟩ := Except.bind_eq_ok.mp built
      obtain ⟨others, later, built⟩ := Except.bind_eq_ok.mp built
      obtain rfl := Except.ok.inj built
      obtain ⟨names, tabled⟩ := ih later
      cases made with
      | none => exact ⟨names.cons name, tabled⟩
      | some campaign =>
          obtain ⟨rfl, own⟩ := ofEntry?_eq_ok here
          refine ⟨names.cons_cons campaign.name, ?_⟩
          intro other member
          rcases List.mem_cons.mp member with rfl | old
          · exact own
          · exact tabled other old

/-- The aliases of a campaign list a sender under a player. -/
def Lists (campaign : Campaign) (player : Json) (sender : LooseText) : Prop :=
  ∃ entry ∈ campaign.aliases, entry.1.sameName player = true ∧ .string sender ∈ entry.2

/-- A player has one entry. -/
theorem Tabled.unique {aliases : List (Json × List Json)} (tabled : Tabled aliases) {player : Json}
    {a b : Json × List Json} (memberA : a ∈ aliases) (memberB : b ∈ aliases)
    (sameA : a.1.sameName player = true) (sameB : b.1.sameName player = true) : a = b := by
  have key : a.1.name? = b.1.name? := (sameName_iff.mp sameA).2.trans (sameName_iff.mp sameB).2.symm
  have once := tabled.once
  rw [List.map_map] at once
  exact List.inj_on_of_nodup_map once memberA memberB key

/-- Looking a player up gives the senders that are listed under the player. -/
theorem mem_sendersOf {campaign : Campaign} (tabled : Tabled campaign.aliases) (player : Json)
    (sender : LooseText) :
    .string sender ∈ campaign.sendersOf player ↔ campaign.Lists player sender := by
  unfold sendersOf
  cases found : campaign.aliases.find? fun entry => entry.1.sameName player with
  | none =>
      constructor
      · exact fun member => (List.not_mem_nil member).elim
      · rintro ⟨entry, member, same, -⟩
        exact absurd same (List.find?_eq_none.mp found entry member)
  | some entry =>
      have member := List.mem_of_find?_eq_some found
      have same := List.find?_some found
      constructor
      · exact fun listed => ⟨entry, member, same, listed⟩
      · rintro ⟨other, memberToo, sameToo, listed⟩
        obtain rfl := tabled.unique memberToo member sameToo same
        exact listed

/-- A text has the same name as itself alone. -/
theorem any_sameName_string {senders : List Json} {sender : LooseText} :
    senders.any (·.sameName (.string sender)) = true ↔ .string sender ∈ senders := by
  rw [List.any_eq_true]
  constructor
  · rintro ⟨other, member, same⟩
    rw [← sameName_string.mp same]
    exact member
  · exact fun member => ⟨_, member, sameName_string.mpr rfl⟩

/-- A sender is mapped if some player lists it. -/
theorem isMapped_iff {campaign : Campaign} {sender : LooseText} :
    campaign.isMapped sender = true ↔ ∃ entry ∈ campaign.aliases, .string sender ∈ entry.2 := by
  simp only [isMapped, List.any_eq_true (l := campaign.aliases), any_sameName_string]

/-- The player found behind a mapped sender has an entry that lists the sender. -/
theorem playerOf?_eq_some {campaign : Campaign} {sender : LooseText} {player : Json}
    (found : campaign.playerOf? sender = some player) :
    ∃ entry ∈ campaign.aliases, entry.1 = player ∧ .string sender ∈ entry.2 := by
  obtain ⟨entry, first, rfl⟩ := Option.map_eq_some_iff.mp found
  have listed : entry.2.any (·.sameName (.string sender)) = true := by
    have held := List.find?_some first
    exact held
  exact ⟨entry, List.mem_of_find?_eq_some first, rfl, any_sameName_string.mp listed⟩

/-- A sender has a player exactly when it is mapped. -/
theorem playerOf?_isSome (campaign : Campaign) (sender : LooseText) :
    (campaign.playerOf? sender).isSome = campaign.isMapped sender := by
  rw [playerOf?, Option.isSome_map, isMapped, Bool.eq_iff_iff, List.find?_isSome, List.any_eq_true]

end Campaign

/-- A pair with a text for a sender is the same as itself only. -/
theorem CampaignSender.same_iff {a b : CampaignSender} {text : LooseText}
    (written : b.sender = .string text) : a.same b = true ↔ a = b := by
  obtain ⟨campaign, sender⟩ := a
  obtain ⟨other, _⟩ := b
  cases written
  rw [CampaignSender.same, Bool.and_eq_true, decide_eq_true_eq, same_string,
    CampaignSender.mk.injEq]

namespace Campaign

theorem addNew_cons (known : List CampaignSender) (next : CampaignSender)
    (rest : List CampaignSender) :
    addNew known (next :: rest) =
      addNew (if known.any (·.same next) then known else known ++ [next]) rest := rfl

/-- No pair is added twice. -/
theorem pairwise_addNew {known : List CampaignSender}
    (apart : known.Pairwise fun a b => a.same b = false) (more : List CampaignSender) :
    (addNew known more).Pairwise fun a b => a.same b = false := by
  induction more generalizing known with
  | nil => exact apart
  | cons next rest ih =>
      rw [addNew_cons]
      apply ih
      split
      · exact apart
      · next new =>
        rw [List.pairwise_append]
        refine ⟨apart, List.pairwise_singleton _ _, ?_⟩
        intro other member added same
        obtain rfl := List.mem_singleton.mp same
        apply Bool.eq_false_iff.mpr
        exact fun equal => new (List.any_eq_true.mpr ⟨other, member, equal⟩)

/-- Of pairs with texts for senders none is lost. -/
theorem mem_addNew {known more : List CampaignSender}
    (texts : ∀ pair ∈ more, ∃ text, pair.sender = .string text) (pair : CampaignSender) :
    pair ∈ addNew known more ↔ pair ∈ known ∨ pair ∈ more := by
  induction more generalizing known with
  | nil => simp only [addNew, List.not_mem_nil, or_false]
  | cons next rest ih =>
      rw [addNew_cons, ih fun other member => texts other (List.mem_cons_of_mem _ member)]
      obtain ⟨text, written⟩ := texts next List.mem_cons_self
      by_cases present : known.any (·.same next) = true
      · obtain ⟨other, held, same⟩ := List.any_eq_true.mp present
        obtain rfl := (CampaignSender.same_iff written).mp same
        rw [if_pos present, List.mem_cons]
        constructor
        · exact Or.imp_right .inr
        · rintro (old | rfl | later)
          · exact .inl old
          · exact .inl held
          · exact .inr later
      · rw [if_neg present, List.mem_append, List.mem_singleton, List.mem_cons, or_assoc]

/-- All senders in the aliases are texts. -/
def Texts (campaign : Campaign) : Prop :=
  ∀ entry ∈ campaign.aliases, ∀ sender ∈ entry.2, ∃ text, sender = .string text

/-- The pairs under which a player is listed, campaign by campaign. -/
def listedPairs (campaigns : List Campaign) (player : Json) : List CampaignSender :=
  campaigns.flatMap fun campaign => (campaign.sendersOf player).map (⟨campaign.name, ·⟩)

/-- A player has the pairs under which it is listed, and its own name in each campaign if there are
none. -/
theorem sendersForPlayer_eq (campaigns : List Campaign) (player : Json) :
    sendersForPlayer campaigns player =
      if (addNew [] (listedPairs campaigns player)).isEmpty then
        campaigns.map (⟨·.name, player⟩)
      else addNew [] (listedPairs campaigns player) := rfl

section Listed

variable {campaigns : List Campaign} (tabled : ∀ campaign ∈ campaigns, Tabled campaign.aliases)
  (texts : ∀ campaign ∈ campaigns, campaign.Texts)

include texts

/-- The senders that a player lists are texts. -/
theorem exists_text_of_mem_listedPairs {player : Json} :
    ∀ pair ∈ listedPairs campaigns player, ∃ text, pair.sender = .string text := by
  intro pair member
  obtain ⟨campaign, held, listed⟩ := List.mem_flatMap.mp member
  obtain ⟨sender, own, rfl⟩ := List.mem_map.mp listed
  unfold sendersOf at own
  cases found : campaign.aliases.find? fun entry => entry.1.sameName player with
  | none =>
      rw [found] at own
      exact (List.not_mem_nil own).elim
  | some entry =>
      rw [found] at own
      exact texts campaign held entry (List.mem_of_find?_eq_some found) sender own

include tabled

/-- A pair is a campaign and a sender that the player lists there. -/
theorem mem_listedPairs {player : Json} {pair : CampaignSender} :
    pair ∈ listedPairs campaigns player ↔
      ∃ campaign ∈ campaigns, ∃ sender, campaign.Lists player sender ∧
        pair = ⟨campaign.name, .string sender⟩ := by
  constructor
  · intro member
    obtain ⟨text, written⟩ := exists_text_of_mem_listedPairs texts pair member
    obtain ⟨campaign, held, listed⟩ := List.mem_flatMap.mp member
    obtain ⟨sender, own, rfl⟩ := List.mem_map.mp listed
    cases written
    exact ⟨campaign, held, text, (mem_sendersOf (tabled campaign held) _ _).mp own, rfl⟩
  · rintro ⟨campaign, held, sender, lists, rfl⟩
    apply List.mem_flatMap.mpr
    exact ⟨campaign, held,
      List.mem_map_of_mem ((mem_sendersOf (tabled campaign held) _ _).mpr lists)⟩

/-- A player who is listed anywhere has the pairs of the listings. -/
theorem mem_sendersForPlayer {player : Json}
    (listed : ∃ campaign ∈ campaigns, ∃ sender, campaign.Lists player sender)
    (pair : CampaignSender) :
    pair ∈ sendersForPlayer campaigns player ↔
      ∃ campaign ∈ campaigns, ∃ sender, campaign.Lists player sender ∧
        pair = ⟨campaign.name, .string sender⟩ := by
  have all : ∀ pair, pair ∈ addNew [] (listedPairs campaigns player) ↔
      pair ∈ listedPairs campaigns player := by
    intro pair
    rw [mem_addNew (exists_text_of_mem_listedPairs texts)]
    simp only [List.not_mem_nil, false_or]
  have some : ¬ (addNew [] (listedPairs campaigns player)).isEmpty = true := by
    obtain ⟨campaign, held, sender, lists⟩ := listed
    have member := (all _).mpr ((mem_listedPairs tabled texts).mpr
      ⟨campaign, held, sender, lists, rfl⟩)
    intro none
    rw [List.isEmpty_iff.mp none] at member
    exact List.not_mem_nil member
  rw [sendersForPlayer_eq, if_neg some, all, mem_listedPairs tabled texts]

/-- A player who is listed nowhere is looked for under the player's own name everywhere. -/
theorem sendersForPlayer_of_not_listed {player : Json}
    (nowhere : ∀ campaign ∈ campaigns, ∀ sender, ¬ campaign.Lists player sender) :
    sendersForPlayer campaigns player = campaigns.map (⟨·.name, player⟩) := by
  have none : listedPairs campaigns player = [] := by
    apply List.eq_nil_iff_forall_not_mem.mpr
    intro pair member
    obtain ⟨campaign, held, sender, lists, -⟩ := (mem_listedPairs tabled texts).mp member
    exact nowhere campaign held sender lists
  rw [sendersForPlayer_eq, none]
  rfl

end Listed

/-- The pairs of a player differ, where the campaigns differ in their names. -/
theorem pairwise_sendersForPlayer {campaigns : List Campaign}
    (distinct : (campaigns.map (·.name)).Nodup) (player : Json) :
    (sendersForPlayer campaigns player).Pairwise fun a b => a.same b = false := by
  rw [sendersForPlayer_eq]
  split
  · rw [List.pairwise_map]
    apply (List.pairwise_map.mp distinct).imp
    intro a b differ
    rw [CampaignSender.same, decide_eq_false differ, Bool.false_and]
  · exact pairwise_addNew List.Pairwise.nil _

/-- Of campaigns with distinct names one has a given name. -/
theorem filter_name_eq {campaigns : List Campaign} (distinct : (campaigns.map (·.name)).Nodup)
    {campaign : Campaign} (member : campaign ∈ campaigns) :
    campaigns.filter (·.name = campaign.name) = [campaign] := by
  induction campaigns with
  | nil => exact (List.not_mem_nil member).elim
  | cons first rest ih =>
      obtain ⟨new, later⟩ := List.nodup_cons.mp distinct
      rcases List.mem_cons.mp member with rfl | held
      · have none : rest.filter (·.name = campaign.name) = [] := by
          apply List.filter_eq_nil_iff.mpr
          intro other there same
          exact new (List.mem_map.mpr ⟨other, there, of_decide_eq_true same⟩)
        rw [List.filter_cons, if_pos (decide_eq_true rfl), none]
      · have differs : ¬ decide (first.name = campaign.name) = true := by
          intro same
          exact new (List.mem_map.mpr ⟨campaign, held, (of_decide_eq_true same).symm⟩)
        rw [List.filter_cons, if_neg differs, ih later held]

/-- A sender belongs to the player of its campaign that lists it, or to itself. -/
theorem playerForSender_eq {campaigns : List Campaign} (distinct : (campaigns.map (·.name)).Nodup)
    {campaign : Campaign} (member : campaign ∈ campaigns) (sender : LooseText) :
    playerForSender campaigns campaign.name sender =
      (campaign.playerOf? sender).getD (.string sender) := by
  rw [playerForSender, filter_name_eq distinct member, List.findSome?_singleton]

/-- **The resolution of players and senders agrees with itself.** Of campaigns that come from
settings whose names differ, and whose senders are texts: a sender that is mapped belongs to a
player whom the aliases of the campaign list with the sender, and who is looked up with it in
turn; one that is not stands for itself. A player is looked up with all pairs under which the
aliases list the player, each once, and with the own name in every campaign if there are none. -/
theorem players_and_senders_agree (entries : List (LooseText × Json)) (campaigns : List Campaign)
    (distinct : (entries.map (·.1)).Nodup) (built : ofEntries entries = .ok campaigns)
    (texts : ∀ campaign ∈ campaigns, campaign.Texts) :
    (∀ campaign ∈ campaigns, ∀ sender,
      (campaign.isMapped sender = true →
        ∃ entry ∈ campaign.aliases, .string sender ∈ entry.2 ∧
          entry.1 = playerForSender campaigns campaign.name sender ∧
          ⟨campaign.name, .string sender⟩ ∈ sendersForPlayer campaigns entry.1) ∧
      (campaign.isMapped sender = false →
        playerForSender campaigns campaign.name sender = .string sender)) ∧
    ∀ player : Json, player.isName = true →
      (sendersForPlayer campaigns player).Pairwise (fun a b => a.same b = false) ∧
      ((∃ campaign ∈ campaigns, ∃ sender, campaign.Lists player sender) →
        ∀ pair, pair ∈ sendersForPlayer campaigns player ↔
          ∃ campaign ∈ campaigns, ∃ sender, campaign.Lists player sender ∧
            pair = ⟨campaign.name, .string sender⟩) ∧
      ((¬ ∃ campaign ∈ campaigns, ∃ sender, campaign.Lists player sender) →
        sendersForPlayer campaigns player = campaigns.map (⟨·.name, player⟩)) := by
  obtain ⟨names, tabled⟩ := ofEntries_eq_ok built
  have own : (campaigns.map (·.name)).Nodup := distinct.sublist names
  refine ⟨?_, ?_⟩
  · intro campaign member sender
    rw [← playerOf?_isSome, playerForSender_eq own member]
    cases found : campaign.playerOf? sender with
    | none => exact ⟨fun mapped => (Bool.false_ne_true mapped).elim, fun _ => rfl⟩
    | some player =>
        refine ⟨fun _ => ?_, fun unmapped => (Bool.noConfusion unmapped)⟩
        obtain ⟨entry, held, rfl, listed⟩ := playerOf?_eq_some found
        have named := (tabled campaign member).players entry.1 (List.mem_map_of_mem held)
        have lists : campaign.Lists entry.1 sender := ⟨entry, held, sameName_refl named, listed⟩
        refine ⟨entry, held, listed, rfl, ?_⟩
        apply (mem_sendersForPlayer tabled texts ⟨campaign, member, sender, lists⟩ _).mpr
        exact ⟨campaign, member, sender, lists, rfl⟩
  · intro player _
    refine ⟨pairwise_sendersForPlayer own player, ?_, ?_⟩
    · exact fun listed pair => mem_sendersForPlayer tabled texts listed pair
    · intro nowhere
      apply sendersForPlayer_of_not_listed tabled texts
      exact fun campaign held sender lists => nowhere ⟨campaign, held, sender, lists⟩

/-- Settings in which a player has two entries, two players share a sender, and a campaign is
switched off. -/
def sharedSettings : List (LooseText × Json) :=
  let moria := Json.array
    [.object [("player", "Sam"), ("senders", .array ["Gimli", "Gimli (GM)"])],
      .object [("player", "Ana"), ("senders", .array ["Legolas", "Gimli"])],
      .object [("player", "Sam"), ("senders", .array ["Boromir", "Gimli"])]]
  let rohan := Json.array [.object [("player", "Sam"), ("senders", .array ["Eomer"])]]
  [("Moria", .object [("log", "moria.html"), ("aliases", moria)]),
    ("Rohan", .object [("log", "rohan.db"), ("aliases", rohan)]),
    ("Paused", .object [("log", "paused.html"), ("enabled", .bool false)])]

def sharedCampaigns : List Campaign :=
  [⟨"Moria", "moria.html", none,
      [("Sam", ["Gimli", "Gimli (GM)", "Boromir", "Gimli"]), ("Ana", ["Legolas", "Gimli"])]⟩,
    ⟨"Rohan", "rohan.db", none, [("Sam", ["Eomer"])]⟩]

/-- Two campaigns that share players, and a player who is listed in neither. -/
theorem players_and_senders_agree_of_shared :
    ((sharedSettings.map (·.1)).Nodup ∧ ofEntries sharedSettings = .ok sharedCampaigns ∧
      ∀ campaign ∈ sharedCampaigns, campaign.Texts) ∧
    (∃ campaign ∈ sharedCampaigns, campaign.isMapped "Gimli" = true ∧
      ∃ entry ∈ campaign.aliases, .string "Gimli" ∈ entry.2 ∧
        entry.1 = playerForSender sharedCampaigns campaign.name "Gimli" ∧
        ⟨campaign.name, .string "Gimli"⟩ ∈ sendersForPlayer sharedCampaigns entry.1) ∧
    (sendersForPlayer sharedCampaigns "Sam").Pairwise (fun a b => a.same b = false) := by
  have distinct : (sharedSettings.map (·.1)).Nodup := by decide
  have built : ofEntries sharedSettings = .ok sharedCampaigns := rfl
  have texts : ∀ campaign ∈ sharedCampaigns, campaign.Texts := by
    intro campaign member entry held sender listed
    simp only [sharedCampaigns, List.mem_cons, List.not_mem_nil, or_false] at member
    rcases member with rfl | rfl
    · simp only [List.mem_cons, List.not_mem_nil, or_false] at held
      rcases held with rfl | rfl
      · simp only [List.mem_cons, List.not_mem_nil, or_false] at listed
        rcases listed with rfl | rfl | rfl | rfl <;> exact ⟨_, rfl⟩
      · simp only [List.mem_cons, List.not_mem_nil, or_false] at listed
        rcases listed with rfl | rfl <;> exact ⟨_, rfl⟩
    · obtain rfl := List.mem_singleton.mp held
      obtain rfl := List.mem_singleton.mp listed
      exact ⟨_, rfl⟩
  obtain ⟨senders, players⟩ :=
    players_and_senders_agree sharedSettings sharedCampaigns distinct built texts
  refine ⟨⟨distinct, built, texts⟩, ?_, (players "Sam" rfl).1⟩
  have mapped : (sharedCampaigns.head (List.cons_ne_nil _ _)).isMapped "Gimli" = true := by decide
  exact ⟨_, List.head_mem _, mapped, (senders _ (List.head_mem _) "Gimli").1 mapped⟩

end Campaign

end DiceLedger
