import DiceLedger.Proofs.Json.Access
import DiceLedger.Proofs.Store.Ledger
import DiceLedger.Proofs.Store.Transaction

/-! # The history of one campaign

A store tells of a campaign the identifiers of its posts, its rolls, and the dice of its senders
(`DiceLedger.Store.historyOf`). A post that is saved for another campaign leaves that alone,
whatever identifier and sender it has (`DiceLedger.Store.historyOf_attempt_other`), and what a
post of the campaign adds to it depends on nothing else
(`DiceLedger.Store.historyOf_attempt_own`). So the calls of one campaign may stand between those
of any others (`DiceLedger.Store.historyOf_calls`).
-/

namespace DiceLedger

namespace Store

/-- Rows lead to one another and hold no halves of characters, and the kept times can be read
back. -/
structure Tables.Sound (tables : Tables) : Prop where
  linked : Tables.Linked tables
  plain : Tables.Plain tables
  readable : ∃ answered, rolls ⟨some tables⟩ = .ok answered

def Sound (store : Store) : Prop := ∀ tables, store.tables = some tables → Tables.Sound tables

/-- A post that can be held leaves the tables sound. -/
theorem Tables.Sound.withPost {tables : Tables} (sound : Tables.Sound tables) (offer : Offer)
    (absent : Tables.has tables offer.campaign offer.post.id = false) (kept : offer.post.Kept) :
    Tables.Sound (Tables.withPost tables offer.campaign offer.post) where
  linked := sound.linked.withPost offer absent
  plain := sound.plain.withPost offer.campaign kept
  readable := by
    obtain ⟨answered, read⟩ := sound.readable
    exact ⟨_, by rw [sound.linked.rolls_withPost offer absent, read]; rfl⟩

/-- An attempt to save leaves the store sound, whatever comes of it. -/
theorem Sound.attempt {store : Store} (sound : store.Sound) (campaign : String) (post : Post) :
    (store.attempt campaign post).2.Sound := by
  obtain ⟨_ | tables⟩ := store
  · exact sound
  · rcases attempt_cases tables campaign post with left | ⟨absent, kept, wrote⟩
    · rw [left]
      exact sound
    · rw [wrote]
      rintro later ⟨⟩
      exact (sound tables rfl).withPost ⟨campaign, post⟩ absent kept

theorem Sound.prepare {store : Store} (sound : store.Sound) : store.prepare.Sound := by
  obtain ⟨_ | tables⟩ := store
  · rintro later ⟨⟩
    exact ⟨Tables.shows_nil.linked, Tables.plain_nil, [], rfl⟩
  · exact sound

/-- A call to save leaves what the attempt leaves. -/
theorem after_save (store : Store) (offer : Offer) :
    after store (.save offer) = (store.attempt offer.campaign offer.post).2 := by
  simp only [after, save]
  rcases tried : store.attempt offer.campaign offer.post with ⟨fault | ended, left⟩
  · exact (attempt_of_fault tried).symm
  · rfl

/-- Every call leaves the store sound. -/
theorem Sound.after {store : Store} (sound : store.Sound) (call : Call) :
    (after store call).Sound := by
  cases call with
  | prepare => exact sound.prepare
  | save offer =>
      rw [after_save]
      exact sound.attempt _ _

/-- Calls leave the store sound. -/
theorem Sound.calls {store : Store} (sound : store.Sound) (calls : List Call) :
    (calls.foldl Store.after store).Sound := by
  induction calls generalizing store with
  | nil => exact sound
  | cons call rest ih => exact ih (sound.after call)

theorem sound_unprepared : unprepared.Sound := by
  rintro tables ⟨⟩

/-- The dice that an offer adds for senders. -/
def Offer.diceFor (offer : Offer) (senders : List CampaignSender) : List Die :=
  match lookupKeys senders with
  | .ok keys => if offer.isBy keys then offer.dice else []
  | .error _ => []

end Store

/-- What is told of one campaign. -/
@[ext] structure CampaignHistory where
  ids : Except StoreFault (List LooseText)
  rolls : Except StoreFault (List RecordedRoll)
  dice : List CampaignSender → Except StoreFault (List Die)

/-- A history with one more offer of its campaign, behind all others. -/
def CampaignHistory.withOffer (history : CampaignHistory) (offer : Store.Offer) :
    CampaignHistory where
  ids := history.ids.map (· ++ [offer.post.id])
  rolls := history.rolls.map (· ++ offer.post.rolls.map offer.recorded)
  dice := fun senders =>
    (history.dice senders).map
      (· ++ offer.diceFor (senders.filter (·.campaign = offer.campaign)))

namespace Store

/-- What a store tells of a campaign. Rolls of others are passed over, and so are senders of
others when dice are asked for. -/
def historyOf (store : Store) (campaign : String) : CampaignHistory where
  ids := store.knownIds campaign
  rolls := store.rolls.map fun rolls => rolls.filter (·.campaign = campaign)
  dice := fun senders => store.singleDice (senders.filter (·.campaign = campaign))

/-- The identifiers of a campaign are those of its rows. -/
theorem historyOf_ids (tables : Tables) (campaign : String) :
    (historyOf ⟨some tables⟩ campaign).ids =
      .ok ((tables.posts.filter (·.campaign = campaign)).map (·.id)) := rfl

/-- Where a history is the same, so are the identifiers that the tables have. -/
theorem has_congr {a b : Tables} {campaign : String}
    (alike : historyOf ⟨some a⟩ campaign = historyOf ⟨some b⟩ campaign) (id : LooseText) :
    Tables.has a campaign id = Tables.has b campaign id := by
  have ids := congrArg CampaignHistory.ids alike
  rw [historyOf_ids, historyOf_ids] at ids
  rw [Bool.eq_iff_iff, Tables.has_iff_mem, Tables.has_iff_mem, Except.ok.inj ids]

/-- Senders are looked up in their own campaigns. -/
theorem campaign_of_mem_lookupKeys {senders : List CampaignSender}
    {keys : List (LooseText × LooseText)} (found : lookupKeys senders = .ok keys) :
    ∀ key ∈ keys, ∃ sender ∈ senders, sender.campaign = key.1 := by
  induction senders generalizing keys with
  | nil =>
      obtain rfl := Except.ok.inj found
      exact fun _ member => (List.not_mem_nil member).elim
  | cons sender rest ih =>
      obtain ⟨campaign, encoded, found⟩ := Except.bind_eq_ok.mp found
      obtain ⟨-, rfl⟩ := encodable_eq_ok_iff.mp encoded
      obtain ⟨text, -, found⟩ := Except.bind_eq_ok.mp found
      obtain ⟨others, later, found⟩ := Except.bind_eq_ok.mp found
      obtain rfl := Except.ok.inj found
      intro key member
      rcases List.mem_append.mp member with here | there
      · obtain ⟨name, -, rfl⟩ := Option.map_eq_some_iff.mp (Option.mem_toList.mp here)
        exact ⟨sender, List.mem_cons_self, rfl⟩
      · obtain ⟨other, held, same⟩ := ih later key there
        exact ⟨other, List.mem_cons_of_mem _ held, same⟩

/-- Senders of other campaigns are given no dice of an offer. -/
theorem Offer.diceFor_of_elsewhere {offer : Offer} {senders : List CampaignSender}
    (elsewhere : ∀ sender ∈ senders, sender.campaign ≠ offer.campaign) :
    offer.diceFor senders = [] := by
  unfold Offer.diceFor
  split
  · next keys found =>
    rw [if_neg]
    intro asked
    obtain ⟨sender, member, same⟩ :=
      campaign_of_mem_lookupKeys found _ (List.contains_iff_mem.mp asked)
    exact elsewhere sender member same
  · rfl

section Post

variable {tables : Tables} (offer : Offer) (linked : Tables.Linked tables)
  (absent : Tables.has tables offer.campaign offer.post.id = false)

include linked absent

/-- A new post adds its dice for those who ask for its sender. -/
theorem singleDice_withPost (senders : List CampaignSender) :
    singleDice ⟨some (Tables.withPost tables offer.campaign offer.post)⟩ senders =
      (singleDice ⟨some tables⟩ senders).map (· ++ offer.diceFor senders) := by
  cases senders with
  | nil => simp [singleDice, Except.map, Offer.diceFor, lookupKeys, Offer.isBy]
  | cons sender rest =>
      simp only [singleDice, List.isEmpty_cons, Bool.false_eq_true, ↓reduceIte, Offer.diceFor]
      cases lookupKeys (sender :: rest) with
      | error fault => rfl
      | ok keys => simp only [Except.map, linked.diceOf_withPost offer absent]

/-- A new post leaves the histories of other campaigns alone. -/
theorem historyOf_withPost_other {campaign : String} (elsewhere : offer.campaign ≠ campaign) :
    historyOf ⟨some (Tables.withPost tables offer.campaign offer.post)⟩ campaign =
      historyOf ⟨some tables⟩ campaign := by
  apply CampaignHistory.ext
  · simp only [historyOf, knownIds, Tables.withPost_posts, List.filter_append, List.filter_cons,
      elsewhere, decide_false, Bool.false_eq_true, ↓reduceIte, List.filter_nil, List.append_nil]
  · have foreign : (offer.post.rolls.map offer.recorded).filter (·.campaign = campaign) = [] := by
      apply List.filter_eq_nil_iff.mpr
      intro recorded member
      obtain ⟨roll, -, rfl⟩ := List.mem_map.mp member
      rw [decide_eq_true_eq]
      exact elsewhere
    simp only [historyOf, linked.rolls_withPost offer absent, Except.map_filter_append, foreign,
      Except.map_append_nil]
  · funext senders
    have nothing : offer.diceFor (senders.filter (·.campaign = campaign)) = [] := by
      apply Offer.diceFor_of_elsewhere
      intro sender member same
      have own := of_decide_eq_true (List.mem_filter.mp member).2
      exact elsewhere (LooseText.text.inj (same.symm.trans own))
    simp only [historyOf, singleDice_withPost offer linked absent, nothing,
      Except.map_append_nil]

/-- A new post stands behind the others in the history of its own campaign. -/
theorem historyOf_withPost_own :
    historyOf ⟨some (Tables.withPost tables offer.campaign offer.post)⟩ offer.campaign =
      (historyOf ⟨some tables⟩ offer.campaign).withOffer offer := by
  apply CampaignHistory.ext
  · simp only [historyOf, knownIds, CampaignHistory.withOffer, Tables.withPost_posts,
      List.filter_append, List.filter_cons, decide_true, ↓reduceIte, List.filter_nil,
      List.map_append, List.map_cons, List.map_nil, Except.map]
  · have own : (offer.post.rolls.map offer.recorded).filter
        (·.campaign = offer.campaign) = offer.post.rolls.map offer.recorded := by
      apply List.filter_eq_self.mpr
      intro recorded member
      obtain ⟨roll, -, rfl⟩ := List.mem_map.mp member
      exact decide_eq_true rfl
    simp only [historyOf, CampaignHistory.withOffer, linked.rolls_withPost offer absent,
      Except.map_filter_append, own]
  · funext senders
    exact singleDice_withPost offer linked absent _

end Post

/-- Saving a post for another campaign leaves the history of a campaign alone. -/
theorem historyOf_attempt_other {store : Store} (sound : store.Sound) {other campaign : String}
    (elsewhere : other ≠ campaign) (post : Post) :
    (store.attempt other post).2.historyOf campaign = store.historyOf campaign := by
  obtain ⟨_ | tables⟩ := store
  · rfl
  · rcases attempt_cases tables other post with left | ⟨absent, -, wrote⟩
    · rw [left]
    · rw [wrote]
      exact historyOf_withPost_other ⟨other, post⟩ (sound tables rfl).linked absent elsewhere

/-- Where two stores tell the same of a campaign, saving a post for it ends alike, and they
tell the same of it afterwards. -/
theorem historyOf_attempt_own {a b : Store} {campaign : String} (soundA : a.Sound)
    (soundB : b.Sound) (alike : a.historyOf campaign = b.historyOf campaign) (post : Post) :
    (a.attempt campaign post).1 = (b.attempt campaign post).1 ∧
      (a.attempt campaign post).2.historyOf campaign =
        (b.attempt campaign post).2.historyOf campaign := by
  obtain ⟨_ | first⟩ := a
  · obtain ⟨_ | second⟩ := b
    · exact ⟨rfl, rfl⟩
    · cases congrArg CampaignHistory.ids alike
  · obtain ⟨_ | second⟩ := b
    · cases congrArg CampaignHistory.ids alike
    · have same := has_congr alike post.id
      refine ⟨attempt_ended same, ?_⟩
      by_cases new : Tables.has second campaign post.id = false ∧ post.Kept
      · obtain ⟨absent, kept⟩ := new
        have absentToo : Tables.has first campaign post.id = false := same.trans absent
        rw [attempt_of_new absent kept, attempt_of_new absentToo kept]
        calc historyOf ⟨some (Tables.withPost first campaign post)⟩ campaign
            = (historyOf ⟨some first⟩ campaign).withOffer ⟨campaign, post⟩ :=
              historyOf_withPost_own ⟨campaign, post⟩ (soundA first rfl).linked absentToo
          _ = (historyOf ⟨some second⟩ campaign).withOffer ⟨campaign, post⟩ := by rw [alike]
          _ = historyOf ⟨some (Tables.withPost second campaign post)⟩ campaign :=
              (historyOf_withPost_own ⟨campaign, post⟩ (soundB second rfl).linked absent).symm
      · have passed := new
        rw [← same] at passed
        rw [attempt_of_passed new, attempt_of_passed passed]
        exact alike

/-- Preparing stores that tell the same of a campaign. -/
theorem historyOf_prepare {a b : Store} {campaign : String}
    (alike : a.historyOf campaign = b.historyOf campaign) :
    a.prepare.historyOf campaign = b.prepare.historyOf campaign := by
  obtain ⟨_ | first⟩ := a
  · obtain ⟨_ | second⟩ := b
    · rfl
    · cases congrArg CampaignHistory.ids alike
  · obtain ⟨_ | second⟩ := b
    · cases congrArg CampaignHistory.ids alike
    · exact alike

/-- Whether a call is made for a campaign; a store is prepared for all. -/
def Call.concerns (campaign : String) : Call → Bool
  | prepare => true
  | save offer => offer.campaign = campaign

/-- Of any calls, those that are made for a campaign leave the same history of it. -/
theorem historyOf_calls {a b : Store} {campaign : String} (soundA : a.Sound) (soundB : b.Sound)
    (alike : a.historyOf campaign = b.historyOf campaign) (calls : List Call) :
    (calls.foldl after a).historyOf campaign =
      ((calls.filter (·.concerns campaign)).foldl after b).historyOf campaign := by
  -- On the calls: those for other campaigns are made on the left only.
  induction calls generalizing a b with
  | nil => exact alike
  | cons call rest ih =>
      cases call with
      | prepare => exact ih soundA.prepare soundB.prepare (historyOf_prepare alike)
      | save offer =>
          by_cases own : offer.campaign = campaign
          · subst own
            have kept : (Call.save offer).concerns offer.campaign = true := decide_eq_true rfl
            rw [List.filter_cons, if_pos kept, List.foldl_cons, List.foldl_cons]
            apply ih (soundA.after _) (soundB.after _)
            rw [after_save, after_save]
            exact (historyOf_attempt_own soundA soundB alike offer.post).2
          · have dropped : ¬ (Call.save offer).concerns campaign = true :=
              fun concerned => own (of_decide_eq_true concerned)
            rw [List.filter_cons, if_neg dropped, List.foldl_cons]
            apply ih (soundA.after _) soundB
            rw [after_save, historyOf_attempt_other soundA own]
            exact alike

end Store

end DiceLedger
