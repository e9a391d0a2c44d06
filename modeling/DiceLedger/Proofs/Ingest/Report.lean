import DiceLedger.Proofs.Ingest.Aborted
import DiceLedger.Proofs.Ingest.Taking
import DiceLedger.Proofs.Store.CampaignHistory
import Mathlib.Data.Finset.Card

/-! # The counts of an ingestion

An ingestion counts as it goes, by the identifiers it has in hand; the store adds rows by a rule
of its own. What both come to are the new posts of the transcript: an ingestion that comes to its
end has saved them one after another and counted just them (`DiceLedger.Ingest.Takes.finished`),
and each of them is new to the store (`DiceLedger.Ingest.saveAll_of_new`). So the counts agree
with what the store tells before and after (`DiceLedger.Ingest.run_counts_agree`).
-/

namespace DiceLedger

namespace Ingest

open Transcript (Entry posts)
open Store (Call Offer Tables.has)

/-- New posts come in the order in which they are given. -/
theorem newPosts_sublist (known : List LooseText) (posts : List Post) :
    (newPosts known posts).Sublist posts := by
  induction posts generalizing known with
  | nil => exact List.Sublist.refl []
  | cons post rest ih =>
      by_cases held : post.id ∈ known
      · rw [newPosts_cons_of_known held]
        exact (ih known).cons post
      · rw [newPosts_cons_of_new held]
        exact (ih _).cons_cons post

/-- The identifiers of new posts are not known, and each comes once. -/
theorem newPosts_ids (known : List LooseText) (posts : List Post) :
    ((newPosts known posts).map (·.id)).Nodup ∧
      ∀ post ∈ newPosts known posts, post.id ∉ known := by
  induction posts generalizing known with
  | nil => exact ⟨List.nodup_nil, fun _ member => (List.not_mem_nil member).elim⟩
  | cons post rest ih =>
      by_cases held : post.id ∈ known
      · rw [newPosts_cons_of_known held]
        exact ih known
      · rw [newPosts_cons_of_new held]
        obtain ⟨once, unknown⟩ := ih (post.id :: known)
        refine ⟨List.nodup_cons.mpr ⟨?_, once⟩, ?_⟩
        · intro member
          obtain ⟨other, later, same⟩ := List.mem_map.mp member
          exact unknown other later (same ▸ List.mem_cons_self)
        · intro other member
          rcases List.mem_cons.mp member with rfl | later
          · exact held
          · exact fun known => unknown other later (List.mem_cons_of_mem _ known)

/-- Known and new identifiers together are the known ones and those of all posts. -/
theorem mem_known_or_newPosts (known : List LooseText) (posts : List Post)
    (id : LooseText) :
    (id ∈ known ∨ id ∈ (newPosts known posts).map (·.id)) ↔
      (id ∈ known ∨ id ∈ posts.map (·.id)) := by
  induction posts generalizing known with
  | nil => rfl
  | cons post rest ih =>
      by_cases held : post.id ∈ known
      · rw [newPosts_cons_of_known held, ih known, List.map_cons, List.mem_cons]
        constructor
        · exact Or.imp_right .inr
        · rintro (old | rfl | later)
          · exact .inl old
          · exact .inl held
          · exact .inr later
      · have again := ih (post.id :: known)
        rw [newPosts_cons_of_new held]
        simp only [List.map_cons, List.mem_cons] at again ⊢
        rw [← or_assoc, or_comm (a := id ∈ known), again, or_comm (a := id = post.id), or_assoc]

/-- Counts have grown by posts that were read, some of them new. -/
structure Counts.Grown (before after : Counts) (given new : List Post) : Prop where
  read : after.read = before.read + given.length
  saved : after.saved = before.saved + new.length
  skipped : after.skipped + new.length = before.skipped + given.length
  messages : after.messages = before.messages + new.countP (·.isMessage)
  rolls : after.rolls = before.rolls + (new.map (·.rolls.length)).sum

section Grown

variable {before after : Counts} {given new : List Post} (post : Post)

theorem Counts.Grown.none (counts : Counts) : Counts.Grown counts counts [] [] :=
  ⟨rfl, rfl, rfl, rfl, rfl⟩

/-- A post that is skipped is read, and not new. -/
theorem Counts.Grown.skip (grown : Counts.Grown before.addSkipped after given new) :
    Counts.Grown before after (post :: given) new := by
  obtain ⟨all, saved, skipped, messages, rolls⟩ := grown
  simp only [Counts.addSkipped] at all saved skipped messages rolls
  refine ⟨?_, saved, ?_, messages, rolls⟩
  · rw [List.length_cons]
    omega
  · rw [List.length_cons]
    omega

/-- A post that is saved is read, and new. -/
theorem Counts.Grown.save (grown : Counts.Grown (before.addSaved post) after given new) :
    Counts.Grown before after (post :: given) (post :: new) := by
  obtain ⟨all, saved, skipped, messages, rolls⟩ := grown
  simp only [Counts.addSaved] at all saved skipped messages rolls
  refine ⟨?_, ?_, ?_, ?_, ?_⟩
  · rw [List.length_cons]
    omega
  · rw [List.length_cons]
    omega
  · rw [List.length_cons, List.length_cons]
    omega
  · rw [List.countP_cons]
    omega
  · rw [List.map_cons, List.sum_cons]
    omega

/-- Counted from nothing, what is read is all that is given, and what is saved all that is new. -/
theorem Counts.Grown.fromStart (grown : Counts.Grown {} after given new) :
    after.read = given.length ∧ after.saved = new.length ∧
      after.saved + after.skipped = after.read ∧ after.messages = new.countP (·.isMessage) ∧
      after.rolls = (new.map (·.rolls.length)).sum := by
  obtain ⟨all, saved, skipped, messages, rolls⟩ := grown
  simp only [Nat.zero_add] at all saved skipped messages rolls
  exact ⟨all, saved, by omega, messages, rolls⟩

end Grown

/-- An ingestion that comes to its end has saved the new posts one after another, and has counted
just them. -/
theorem Takes.finished {campaign : String} {entries : List Entry} {p left : Progress}
    {ended : Option Fault} (takes : Takes campaign entries p left ended) (finished : ended = none) :
    saveAll p.store campaign (newPosts p.known (posts entries)) = .ok left.store ∧
      Counts.Grown p.counts left.counts (posts entries) (newPosts p.known (posts entries)) := by
  induction takes with
  | done => exact ⟨rfl, .none _⟩
  | unreadable => cases finished
  | passedOver outcome _ ih =>
      rw [Transcript.posts_cons_of_ok outcome]
      exact ih finished
  | @skipped _ _ _ _ _ post outcome held _ ih =>
      obtain ⟨saved, grown⟩ := ih finished
      rw [Transcript.posts_cons_of_ok outcome, Option.toList_some, List.singleton_append,
        newPosts_cons_of_known held]
      exact ⟨saved, grown.skip post⟩
  | refused => cases finished
  | @saved _ _ p _ _ post _ outcome new tried _ ih =>
      obtain ⟨saved, grown⟩ := ih finished
      rw [Transcript.posts_cons_of_ok outcome, Option.toList_some, List.singleton_append,
        newPosts_cons_of_new new, saveAll_cons_of_saved tried]
      exact ⟨saved, grown.save post⟩

/-- What is known later of the rolls of posts. -/
def recordedAll (campaign : String) (posts : List Post) : List RecordedRoll :=
  posts.flatMap fun post => post.rolls.map (Offer.recorded ⟨campaign, post⟩)

/-- Posts that can be kept, are new to the tables and differ in their identifiers are stored all:
their rows, and their rolls, stand behind all others. -/
theorem saveAll_of_new {tables : Tables} {campaign : String} (linked : Store.Tables.Linked tables)
    {new : List Post} (kept : ∀ post ∈ new, post.Kept)
    (absent : ∀ post ∈ new, Tables.has tables campaign post.id = false)
    (once : (new.map (·.id)).Nodup) :
    ∃ later, saveAll ⟨some tables⟩ campaign new = .ok ⟨some later⟩ ∧
      later.posts = tables.posts ++ new.map (fun post => Offer.row ⟨campaign, post⟩) ∧
      Store.rolls ⟨some later⟩ =
        (Store.rolls ⟨some tables⟩).map (· ++ recordedAll campaign new) := by
  induction new generalizing tables with
  | nil => exact ⟨tables, rfl, (List.append_nil _).symm, (Except.map_append_nil _).symm⟩
  | cons post rest ih =>
      obtain ⟨unlike, onceLater⟩ := List.nodup_cons.mp once
      have here : Tables.has tables campaign post.id = false := absent post List.mem_cons_self
      have tried := Store.attempt_of_new here (kept post List.mem_cons_self)
      have absentLater : ∀ other ∈ rest,
          Tables.has (Store.Tables.withPost tables campaign post) campaign other.id = false := by
        intro other member
        rw [Store.Tables.withPost_has, absent other (List.mem_cons_of_mem _ member), Bool.false_or,
          Bool.and_eq_false_iff]
        right
        apply decide_eq_false
        intro same
        exact unlike (List.mem_map.mpr ⟨other, member, same.symm⟩)
      obtain ⟨later, saved, rows, rolls⟩ := ih (linked.withPost ⟨campaign, post⟩ here)
        (fun other member => kept other (List.mem_cons_of_mem _ member)) absentLater onceLater
      refine ⟨later, ?_, ?_, ?_⟩
      · rw [saveAll_cons_of_saved tried, saved]
      · rw [rows, Store.Tables.withPost_posts, List.append_assoc]
        rfl
      · rw [rolls, linked.rolls_withPost ⟨campaign, post⟩ here, Except.map_append_append]
        rfl

/-- Counts agree with what a store tells of a campaign before and after, where posts were given
and `new` are those of them that were not known. -/
structure Counts.Agree (counts : Counts) (campaign : String) (store later : Store)
    (former : List LooseText) (given new : List Post) : Prop where
  read : counts.read = given.length
  skipped : counts.saved + counts.skipped = counts.read
  /-- The store is the one that saving the new posts one after another leaves. -/
  stored : saveAll store campaign new = .ok later
  ids : ∃ ids, later.knownIds campaign = .ok ids ∧ ids = former ++ new.map (·.id) ∧
    ids.toFinset = former.toFinset ∪ (given.map (·.id)).toFinset ∧
    ids.toFinset.card = former.toFinset.card + counts.saved
  rolls : ∃ rolls added, store.rolls = .ok rolls ∧ later.rolls = .ok (rolls ++ added) ∧
    counts.rolls = added.length
  messages : counts.messages = new.countP (·.isMessage)

/-- What rows of posts that stand behind all others add to the identifiers of their campaign. -/
theorem knownIds_of_rows {tables later : Tables} {campaign : String} {new : List Post}
    (rows : later.posts = tables.posts ++ new.map fun post => Offer.row ⟨campaign, post⟩) :
    Store.knownIds ⟨some later⟩ campaign =
      (Store.knownIds ⟨some tables⟩ campaign).map (· ++ new.map (·.id)) := by
  have own : (new.map fun post => Offer.row ⟨campaign, post⟩).filter (·.campaign = campaign) =
      new.map fun post => Offer.row ⟨campaign, post⟩ := by
    apply List.filter_eq_self.mpr
    intro row member
    obtain ⟨post, -, rfl⟩ := List.mem_map.mp member
    exact decide_eq_true rfl
  simp only [Store.knownIds, Except.map, rows, List.filter_append, own, List.map_append,
    List.map_map]
  rfl

/-- The identifiers afterwards are those from before and those that are given. -/
theorem toFinset_ids (former : List LooseText) (given : List Post) :
    (former ++ (newPosts former given).map (·.id)).toFinset =
      former.toFinset ∪ (given.map (·.id)).toFinset := by
  ext id
  rw [List.mem_toFinset, List.mem_append, mem_known_or_newPosts, Finset.mem_union,
    List.mem_toFinset, List.mem_toFinset]

/-- Posts all of whose identifiers are new, and whose identifiers differ, add as many. -/
theorem card_ids {former : List LooseText} {new : List Post} (once : (new.map (·.id)).Nodup)
    (unknown : ∀ post ∈ new, post.id ∉ former) :
    (former ++ new.map (·.id)).toFinset.card = former.toFinset.card + new.length := by
  have apart : Disjoint former.toFinset (new.map (·.id)).toFinset := by
    rw [Finset.disjoint_right]
    intro id member
    obtain ⟨post, held, rfl⟩ := List.mem_map.mp (List.mem_toFinset.mp member)
    exact fun known => unknown post held (List.mem_toFinset.mp known)
  rw [List.toFinset_append, Finset.card_union_of_disjoint apart, List.toFinset_card_of_nodup once,
    List.length_map]

/-- An ingestion that came to its end counts what the store has gained. -/
theorem Takes.agree {tables : Tables} {campaign : String} {entries : List Entry}
    {former : List LooseText} {left : Progress} (sound : Store.Tables.Sound tables)
    (asked : Store.knownIds ⟨some tables⟩ campaign = .ok former)
    (kept : ∀ post ∈ posts entries, post.Kept)
    (takes : Takes campaign entries ⟨⟨some tables⟩, former, {}⟩ left none) :
    left.counts.Agree campaign ⟨some tables⟩ left.store former (posts entries)
      (newPosts former (posts entries)) := by
  obtain ⟨saved, grown⟩ := takes.finished rfl
  obtain ⟨once, unknown⟩ := newPosts_ids former (posts entries)
  have fit : ∀ post ∈ newPosts former (posts entries), post.Kept := fun post member =>
    kept post ((newPosts_sublist former _).subset member)
  have absent : ∀ post ∈ newPosts former (posts entries),
      Tables.has tables campaign post.id = false := by
    intro post member
    rw [Bool.eq_false_iff]
    intro has
    apply unknown post member
    rw [← Except.ok.inj asked]
    exact (Store.Tables.has_iff_mem _ _ _).mp has
  obtain ⟨later, stored, rows, told⟩ := saveAll_of_new sound.linked fit absent once
  obtain ⟨rolls, answered⟩ := sound.readable
  have left_eq : left.store = ⟨some later⟩ := Except.ok.inj (saved.symm.trans stored)
  have known : left.store.knownIds campaign =
      .ok (former ++ (newPosts former (posts entries)).map (·.id)) := by
    rw [left_eq, knownIds_of_rows rows, asked]
    rfl
  obtain ⟨read, savedCount, skipped, messages, rolled⟩ := grown.fromStart
  refine ⟨read, skipped, saved, ⟨_, known, rfl, toFinset_ids former _, ?_⟩, ?_, messages⟩
  · rw [card_ids once unknown, savedCount]
  · refine ⟨rolls, recordedAll campaign (newPosts former (posts entries)), answered, ?_, ?_⟩
    · rw [left_eq, told, answered]
      rfl
    · rw [rolled, recordedAll, List.length_flatMap]
      simp only [List.length_map]

/-- **The counts of an ingestion agree with the store.** In any store that was prepared, and for
any posts that can be stored, whether their identifiers are known or come again: what is counted
as saved, as messages and as rolls is what the store has gained. -/
theorem run_counts_agree (before : List Call) (campaign : String) (entries : List Entry)
    (prepared : (before.foldl Store.after Store.unprepared).tables.isSome)
    (storable : ∀ entry ∈ entries, entry.Storable) :
    ∃ later counts former,
      (before.foldl Store.after Store.unprepared).knownIds campaign = .ok former ∧
      (run (before.foldl Store.after Store.unprepared) campaign entries).result =
        (later, .ok counts) ∧
      counts.Agree campaign (before.foldl Store.after Store.unprepared) later former
        (posts entries) (newPosts former (posts entries)) := by
  have sound := Store.sound_unprepared.calls before
  generalize before.foldl Store.after Store.unprepared = store at prepared sound ⊢
  obtain ⟨tables, present⟩ := Option.isSome_iff_exists.mp prepared
  obtain rfl : store = ⟨some tables⟩ := congrArg Store.mk present
  obtain ⟨counts, result, -⟩ := run_of_storable tables campaign entries storable
  rcases run_cases ⟨some tables⟩ campaign entries with
    ⟨bare, -⟩ | ⟨former, left, ended, asked, takes, same⟩
  · cases bare
  · have concluded := congrArg Prod.snd (result.symm.trans same)
    cases ended with
    | some fault => cases concluded
    | none =>
        have agree := takes.agree (sound tables rfl) asked (kept_of_storable storable)
        exact ⟨_, _, former, asked, same, agree⟩

/-- A post that says something. -/
def spokenPost (id : String) : Post :=
  { rolledPost id with isMessage := true, rolls := [] }

theorem spokenPost_storable (id : String) : (spokenPost id).Storable where
  id := rfl
  sender := rfl
  content := (rolledPost_storable id).content
  formulas := fun _ member => (List.not_mem_nil member).elim
  totals := fun _ member => (List.not_mem_nil member).elim
  faces := fun _ member => (List.not_mem_nil member).elim
  outcomes := fun _ member => (List.not_mem_nil member).elim

/-- Of four posts one is known, one is a message, and one comes twice. -/
theorem run_counts_agree_of_repeats :
    let before : List Call := [.prepare, .save ⟨"Keep", rolledPost "1"⟩]
    let store := before.foldl Store.after Store.unprepared
    let entries : List Entry := [.post (rolledPost "1"), .post (spokenPost "2"),
      .post (rolledPost "3"), .post (rolledPost "3")]
    (store.tables.isSome ∧ ∀ entry ∈ entries, entry.Storable) ∧
      (run store "Keep" entries).result.2.toOption = some ⟨4, 2, 2, 1, 1⟩ ∧
      ∃ later counts former, store.knownIds "Keep" = .ok former ∧
        (run store "Keep" entries).result = (later, .ok counts) ∧
        counts.Agree "Keep" store later former (posts entries)
          (newPosts former (posts entries)) := by
  intro before store entries
  have prepared : store.tables.isSome = true := by decide +kernel
  have storable : ∀ entry ∈ entries, entry.Storable := by
    intro entry member
    have offered : ∃ post : Post, entry = .post post ∧ post.Storable := by
      simp only [entries, List.mem_cons, List.not_mem_nil, or_false] at member
      rcases member with rfl | rfl | rfl | rfl
      · exact ⟨_, rfl, rolledPost_storable "1"⟩
      · exact ⟨_, rfl, spokenPost_storable "2"⟩
      · exact ⟨_, rfl, rolledPost_storable "3"⟩
      · exact ⟨_, rfl, rolledPost_storable "3"⟩
    obtain ⟨post, rfl, readable⟩ := offered
    refine ⟨some post, rfl, ?_⟩
    rintro _ ⟨⟩
    exact readable
  have counted : (run store "Keep" entries).result.2.toOption = some ⟨4, 2, 2, 1, 1⟩ := by
    decide +kernel
  exact ⟨⟨prepared, storable⟩, counted, run_counts_agree before "Keep" entries prepared storable⟩

end Ingest

end DiceLedger
