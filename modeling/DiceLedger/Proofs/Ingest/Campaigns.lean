import DiceLedger.Proofs.Ingest.Taking
import DiceLedger.Proofs.Store.CampaignHistory

/-! # Ingesting several campaigns

Ingesting a transcript of one campaign leaves the history of any other alone
(`DiceLedger.Ingest.historyOf_run_other`), and depends on the store through the history of its own
campaign only (`DiceLedger.Ingest.historyOf_run_own`). Ingesting it again writes nothing, however
it ended (`DiceLedger.Ingest.run_again`). So campaigns may be ingested in any order and
repeatedly (`DiceLedger.Ingest.history_of_own_calls`).
-/

namespace DiceLedger

namespace Ingest

open Transcript (Entry)
open Store (Call Sound Tables.has Tables.has_iff_mem)

/-- What every attempt to save keeps, an ingestion keeps. -/
theorem keeps_run {campaign : String} (kept : Store → Prop)
    (keeps : ∀ store post, kept store → kept (store.attempt campaign post).2) {store : Store}
    (before : kept store) (entries : List Entry) : kept (run store campaign entries).result.1 := by
  rcases run_cases store campaign entries with ⟨-, failed⟩ | ⟨known, left, ended, -, takes, same⟩
  · rw [failed]
    exact before
  · rw [same]
    exact takes.keeps kept keeps before

/-- An ingestion leaves the store sound. -/
theorem sound_run {store : Store} (sound : store.Sound) (campaign : String)
    (entries : List Entry) : (run store campaign entries).result.1.Sound :=
  keeps_run Sound (fun _ post before => before.attempt campaign post) sound entries

/-- Ingesting a transcript of another campaign leaves the history of a campaign alone. -/
theorem historyOf_run_other {store : Store} (sound : store.Sound) {other campaign : String}
    (elsewhere : other ≠ campaign) (entries : List Entry) :
    (run store other entries).result.1.historyOf campaign = store.historyOf campaign := by
  have both : (run store other entries).result.1.Sound ∧
      (run store other entries).result.1.historyOf campaign = store.historyOf campaign := by
    apply keeps_run (fun left => left.Sound ∧ left.historyOf campaign = _) _ ⟨sound, rfl⟩
    rintro left post ⟨soundLeft, same⟩
    refine ⟨soundLeft.attempt other post, ?_⟩
    rw [Store.historyOf_attempt_other soundLeft elsewhere, same]
  exact both.2

/-- Two ingestions of a campaign are at the same place, and their stores tell the same of it. -/
structure Progress.Alike (campaign : String) (p q : Progress) : Prop where
  soundLeft : p.store.Sound
  soundRight : q.store.Sound
  history : p.store.historyOf campaign = q.store.historyOf campaign
  known : p.known = q.known
  counts : p.counts = q.counts

/-- On stores that have the same campaign, entries are taken alike. -/
theorem Takes.alike {campaign : String} {entries : List Entry} {p left : Progress}
    {ended : Option Fault} (takes : Takes campaign entries p left ended) {q : Progress}
    (alike : Progress.Alike campaign p q) :
    ∃ right, Takes campaign entries q right ended ∧ Progress.Alike campaign left right := by
  induction takes generalizing q with
  | done => exact ⟨q, .done, alike⟩
  | unreadable outcome => exact ⟨q, .unreadable outcome, alike⟩
  | passedOver outcome _ ih =>
      obtain ⟨right, later, same⟩ := ih alike
      exact ⟨right, .passedOver outcome later, same⟩
  | skipped outcome held _ ih =>
      obtain ⟨right, later, same⟩ := ih (q := { q with counts := q.counts.addSkipped })
        { alike with counts := congrArg Counts.addSkipped alike.counts }
      exact ⟨right, .skipped outcome (alike.known ▸ held) later, same⟩
  | @refused _ _ p post _ outcome new tried =>
      have same := (Store.historyOf_attempt_own alike.soundLeft alike.soundRight alike.history
        post).1
      rw [tried] at same
      rcases again : q.store.attempt campaign post with ⟨refusal | done, store⟩
      · rw [again] at same
        obtain rfl := Except.error.inj same
        obtain rfl := Store.attempt_of_fault again
        exact ⟨q, .refused outcome (alike.known ▸ new) again, alike⟩
      · rw [again] at same
        cases same
  | @saved _ _ p left _ post store outcome new tried _ ih =>
      have soundLeft := alike.soundLeft.attempt campaign post
      have soundRight := alike.soundRight.attempt campaign post
      obtain ⟨same, history⟩ := Store.historyOf_attempt_own alike.soundLeft alike.soundRight
        alike.history post
      rw [tried] at same history soundLeft
      rcases again : q.store.attempt campaign post with ⟨refusal | done, other⟩
      · rw [again] at same
        cases same
      · rw [again] at history soundRight
        have next : Progress.Alike campaign ⟨store, post.id :: p.known, p.counts.addSaved post⟩
            ⟨other, post.id :: q.known, q.counts.addSaved post⟩ :=
          ⟨soundLeft, soundRight, history, by rw [alike.known], by rw [alike.counts]⟩
        obtain ⟨right, later, afterwards⟩ := ih next
        exact ⟨right, .saved outcome (alike.known ▸ new) again later, afterwards⟩

/-- Where two stores tell the same of a campaign, ingesting a transcript of it ends alike, and
they tell the same of it afterwards. -/
theorem historyOf_run_own {a b : Store} {campaign : String} (soundA : a.Sound) (soundB : b.Sound)
    (alike : a.historyOf campaign = b.historyOf campaign) (entries : List Entry) :
    (run a campaign entries).result.2 = (run b campaign entries).result.2 ∧
      (run a campaign entries).result.1.historyOf campaign =
        (run b campaign entries).result.1.historyOf campaign := by
  have sameIds : a.knownIds campaign = b.knownIds campaign := congrArg CampaignHistory.ids alike
  rcases run_cases a campaign entries with ⟨bare, failed⟩ | ⟨known, left, ended, asked, takes, same⟩
  · rcases run_cases b campaign entries with ⟨-, failedToo⟩ | ⟨known, -, -, asked, -, -⟩
    · rw [failed, failedToo]
      exact ⟨rfl, alike⟩
    · rw [← sameIds, Store.knownIds, bare] at asked
      cases asked
  · rcases run_cases b campaign entries with
      ⟨bare, -⟩ | ⟨others, right, endedToo, askedToo, takesToo, sameToo⟩
    · rw [sameIds, Store.knownIds, bare] at asked
      cases asked
    · rw [sameIds, askedToo] at asked
      obtain rfl := Except.ok.inj asked
      obtain ⟨met, again, afterwards⟩ := takes.alike (q := ⟨b, others, {}⟩)
        ⟨soundA, soundB, alike, rfl, rfl⟩
      obtain ⟨rfl, rfl⟩ := Prod.mk.inj (again.result_eq.symm.trans takesToo.result_eq)
      rw [same, sameToo]
      refine ⟨?_, afterwards.history⟩
      simp only [conclusion, afterwards.counts]

/-- A store has an identifier for a campaign. -/
def Holds (campaign : String) (id : LooseText) (store : Store) : Prop :=
  ∃ tables, store.tables = some tables ∧ Tables.has tables campaign id = true

/-- Of a campaign a store knows the identifiers that it has. -/
theorem mem_knownIds {store : Store} {campaign : String} {id : LooseText}
    {known : List LooseText}
    (asked : store.knownIds campaign = .ok known) : id ∈ known ↔ Holds campaign id store := by
  obtain ⟨_ | tables⟩ := store
  · cases asked
  · obtain rfl := Except.ok.inj asked
    rw [← Tables.has_iff_mem]
    constructor
    · exact fun has => ⟨tables, rfl, has⟩
    · rintro ⟨later, present, has⟩
      obtain rfl := Option.some.inj present
      exact has

/-- What is held stays held. -/
theorem holds_attempt {campaign : String} {id : LooseText} {store : Store}
    (held : Holds campaign id store) (post : Post) :
    Holds campaign id (store.attempt campaign post).2 := by
  obtain ⟨tables, present, has⟩ := held
  obtain rfl : store = ⟨some tables⟩ := congrArg Store.mk present
  rcases Store.attempt_cases tables campaign post with left | ⟨-, -, wrote⟩
  · rw [left]
    exact ⟨tables, rfl, has⟩
  · rw [wrote]
    refine ⟨_, rfl, ?_⟩
    rw [Store.Tables.withPost_has, has, Bool.true_or]

/-- Saving a post adds no other identifier. -/
theorem holds_of_holds_attempt {campaign : String} {id : LooseText} {store : Store} {post : Post}
    (held : Holds campaign id (store.attempt campaign post).2) :
    id = post.id ∨ Holds campaign id store := by
  obtain ⟨_ | tables⟩ := store
  · exact .inr held
  · rcases Store.attempt_cases tables campaign post with left | ⟨-, -, wrote⟩
    · rw [left] at held
      exact .inr held
    · rw [wrote] at held
      obtain ⟨later, present, has⟩ := held
      obtain rfl := Option.some.inj present
      rw [Store.Tables.withPost_has, Bool.or_eq_true, Bool.and_eq_true] at has
      rcases has with old | ⟨-, same⟩
      · exact .inr ⟨tables, rfl, old⟩
      · exact .inl (of_decide_eq_true same).symm

/-- A post that is held changes nothing. -/
theorem attempt_of_holds {campaign : String} {post : Post} {store : Store}
    (held : Holds campaign post.id store) : (store.attempt campaign post).2 = store := by
  obtain ⟨tables, present, has⟩ := held
  obtain rfl : store = ⟨some tables⟩ := congrArg Store.mk present
  rcases Store.attempt_cases tables campaign post with left | ⟨absent, -, -⟩
  · exact left
  · rw [has] at absent
    cases absent

/-- A save that ended well is not made up for later: a store that has what it wrote has the
identifier, or the post cannot be kept. -/
theorem attempt_again {campaign : String} {post : Post} {store saved final : Store}
    (tried : store.attempt campaign post = (.ok (), saved))
    (grown : Holds campaign post.id saved → Holds campaign post.id final) :
    (final.attempt campaign post).2 = final := by
  by_cases kept : post.Kept
  · obtain ⟨_ | tables⟩ := store
    · cases tried
    · rw [Store.attempt_of_kept tables campaign post kept] at tried
      obtain ⟨-, rfl⟩ := Prod.mk.inj tried
      apply attempt_of_holds
      apply grown
      exact ⟨_, rfl, Store.Tables.offered_has_self tables campaign post⟩
  · obtain ⟨_ | tables⟩ := final
    · rfl
    · exact Store.attempt_of_not_kept tables campaign kept

/-- What is held before entries are taken is held afterwards. -/
theorem Takes.holds {campaign : String} {id : LooseText} {entries : List Entry}
    {progress left : Progress} {ended : Option Fault}
    (takes : Takes campaign entries progress left ended)
    (held : Holds campaign id progress.store) : Holds campaign id left.store :=
  takes.keeps (Holds campaign id) (fun _ post before => holds_attempt before post) held

/-- An ingestion `p`, which will leave a store behind, is retraced by another, `q`, that
started from that store. -/
structure Retraces (campaign : String) (final : Store) (p q : Progress) : Prop where
  store : q.store = final
  passes : ∀ id ∈ p.known, Holds campaign id p.store ∨ id ∈ q.known
  passed : ∀ id ∈ q.known, id ∈ p.known ∨ Holds campaign id final
  tracks : ∀ id, Holds campaign id p.store → id ∈ p.known

/-- Where saving its post would write nothing, an entry ends an ingestion or is passed. -/
theorem takeEntries_idle {campaign : String} {entry : Entry} {post : Post} {q : Progress}
    (outcome : entry.outcome = .ok (some post))
    (idle : post.id ∉ q.known → (q.store.attempt campaign post).2 = q.store) (rest : List Entry) :
    (takeEntries campaign (entry :: rest) q).result.1 = q ∨
      ∃ next, next.store = q.store ∧ (∀ id, id ∈ next.known ↔ id = post.id ∨ id ∈ q.known) ∧
        (takeEntries campaign (entry :: rest) q).result =
          (takeEntries campaign rest next).result := by
  by_cases held : post.id ∈ q.known
  · refine .inr ⟨{ q with counts := q.counts.addSkipped }, rfl, ?_, ?_⟩
    · intro id
      constructor
      · exact .inr
      · rintro (rfl | known)
        · exact held
        · exact known
    · simp only [takeEntries, outcome, takePost_of_known held]
  · have same := idle held
    rcases tried : q.store.attempt campaign post with ⟨refusal | done, store⟩
    · obtain rfl := Store.attempt_of_fault tried
      exact .inl (by simp only [takeEntries, outcome, takePost_of_new held, tried])
    · rw [tried] at same
      refine .inr ⟨⟨store, post.id :: q.known, q.counts.addSaved post⟩, same, ?_, ?_⟩
      · exact fun id => List.mem_cons
      · simp only [takeEntries, outcome, takePost_of_new held, tried]

section Retraces

variable {campaign : String} {final : Store} {p q next : Progress} {post : Post}
  (retraces : Retraces campaign final p q) (store : next.store = q.store)
  (known : ∀ id, id ∈ next.known ↔ id = post.id ∨ id ∈ q.known) (counts : Counts)

include retraces store known

/-- Where the first ingestion skips a post, both pass it. -/
theorem Retraces.skipped (held : post.id ∈ p.known) :
    Retraces campaign final { p with counts := counts } next where
  store := store.trans retraces.store
  passes id member :=
    (retraces.passes id member).imp_right fun old => (known id).mpr (.inr old)
  passed id member := by
    rcases (known id).mp member with rfl | old
    · exact .inl held
    · exact retraces.passed id old
  tracks := retraces.tracks

/-- Where the first ingestion saves a post, the second passes it. -/
theorem Retraces.saved {written : Store}
    (tried : p.store.attempt campaign post = (.ok (), written)) :
    Retraces campaign final ⟨written, post.id :: p.known, counts⟩ next where
  store := store.trans retraces.store
  passes id member := by
    rcases List.mem_cons.mp member with rfl | old
    · exact .inr ((known _).mpr (.inl rfl))
    · rcases retraces.passes id old with has | held
      · have has := holds_attempt has post
        rw [tried] at has
        exact .inl has
      · exact .inr ((known id).mpr (.inr held))
  passed id member := by
    rcases (known id).mp member with rfl | old
    · exact .inl List.mem_cons_self
    · exact (retraces.passed id old).imp_left (List.mem_cons_of_mem _)
  tracks id has := by
    have has : Holds campaign id (p.store.attempt campaign post).2 := by
      rw [tried]
      exact has
    rcases holds_of_holds_attempt has with rfl | old
    · exact List.mem_cons_self
    · exact List.mem_cons_of_mem _ (retraces.tracks id old)

end Retraces

/-- Taking the same entries again, from the store that was left, writes nothing. -/
theorem Takes.again {campaign : String} {entries : List Entry} {p left : Progress}
    {ended : Option Fault} (takes : Takes campaign entries p left ended) {q : Progress}
    (retraces : Retraces campaign left.store p q) :
    (takeEntries campaign entries q).result.1.store = left.store := by
  induction takes generalizing q with
  | done => exact retraces.store
  | unreadable outcome =>
      simp only [takeEntries, outcome]
      exact retraces.store
  | passedOver outcome _ ih =>
      simp only [takeEntries, outcome]
      exact ih retraces
  | @skipped _ rest p left _ post outcome held later ih =>
      have idle : post.id ∉ q.known → (q.store.attempt campaign post).2 = q.store := by
        intro new
        apply attempt_of_holds
        rw [retraces.store]
        rcases retraces.passes post.id held with has | known
        · exact later.holds has
        · exact absurd known new
      rcases takeEntries_idle outcome idle rest with ended | ⟨next, store, known, same⟩
      · rw [ended]
        exact retraces.store
      · rw [same]
        exact ih (retraces.skipped store known _ held)
  | @refused _ rest p post _ outcome new tried =>
      -- What the second ingestion knows besides, the first has in its store.
      have newAgain : post.id ∉ q.known := by
        intro known
        rcases retraces.passed post.id known with held | has
        · exact new held
        · exact new (retraces.tracks post.id has)
      simp only [takeEntries, outcome, takePost_of_new newAgain, retraces.store, tried]
  | @saved _ rest p left _ post written outcome new tried later ih =>
      have idle : post.id ∉ q.known → (q.store.attempt campaign post).2 = q.store := by
        intro _
        rw [retraces.store]
        exact attempt_again tried later.holds
      rcases takeEntries_idle outcome idle rest with ended | ⟨next, store, known, same⟩
      · rw [ended]
        exact retraces.store
      · rw [same]
        exact ih (retraces.saved store known _ tried)

/-- Ingesting a transcript again writes nothing, however ingesting it ended. -/
theorem run_again (store : Store) (campaign : String) (entries : List Entry) :
    (run (run store campaign entries).result.1 campaign entries).result.1 =
      (run store campaign entries).result.1 := by
  rcases run_cases store campaign entries with
    ⟨-, failed⟩ | ⟨known, left, ended, asked, takes, same⟩
  · rw [failed, failed]
  · have kept : (run store campaign entries).result.1 = left.store := congrArg Prod.fst same
    rw [kept]
    rcases run_cases left.store campaign entries with
      ⟨-, failed⟩ | ⟨others, right, endedToo, askedToo, takesToo, sameToo⟩
    · rw [failed]
    · have start : Retraces campaign left.store ⟨store, known, {}⟩ ⟨left.store, others, {}⟩ :=
        { store := rfl
          passes := fun id member => .inl ((mem_knownIds asked).mp member)
          passed := fun id member => .inr ((mem_knownIds askedToo).mp member)
          tracks := fun id has => (mem_knownIds asked).mpr has }
      have retraced := takes.again start
      rw [takesToo.result_eq] at retraced
      rw [sameToo]
      exact retraced

/-- Ingests transcripts of campaigns one after another, whatever ends each of them. -/
def runAll (store : Store) (runs : List (String × List Entry)) : Store :=
  runs.foldl (fun store one => (run store one.1 one.2).result.1) store

/-- The history of a campaign is that of its own ingestions, whatever stands between them. -/
theorem historyOf_runAll {a b : Store} {campaign : String} (soundA : a.Sound) (soundB : b.Sound)
    (alike : a.historyOf campaign = b.historyOf campaign) (runs : List (String × List Entry)) :
    (runAll a runs).historyOf campaign =
      (runAll b (runs.filter (·.1 = campaign))).historyOf campaign := by
  induction runs generalizing a b with
  | nil => exact alike
  | cons one rest ih =>
      by_cases own : one.1 = campaign
      · rw [List.filter_cons, if_pos (decide_eq_true own), runAll, runAll, List.foldl_cons,
          List.foldl_cons]
        apply ih (sound_run soundA _ _) (sound_run soundB _ _)
        rw [own]
        exact (historyOf_run_own soundA soundB alike one.2).2
      · rw [List.filter_cons, if_neg (fun same => own (of_decide_eq_true same)), runAll,
          List.foldl_cons]
        apply ih (sound_run soundA _ _) soundB
        rw [historyOf_run_other soundA own]
        exact alike

/-- Ingesting one transcript several times is ingesting it once. -/
theorem runAll_replicate (store : Store) (campaign : String) (entries : List Entry) (more : Nat) :
    runAll store (.replicate (more + 1) (campaign, entries)) =
      (run store campaign entries).result.1 := by
  induction more generalizing store with
  | zero => rfl
  | succ more ih =>
      rw [List.replicate_succ]
      exact (ih _).trans (run_again store campaign entries)

/-- **Campaigns are isolated in the store.** Whatever was called before, and however calls for
several campaigns follow one another, with whatever identifiers and senders in common: the
history of a campaign is the one that its own calls leave. Ingesting transcripts is isolated in
the same way. So campaigns may be ingested in any order and repeatedly: each has the history of
one ingestion of its own transcript. -/
theorem history_of_own_calls (before : List Call) (campaign : String) :
    let store := before.foldl Store.after Store.unprepared
    (∀ calls : List Call,
      (calls.foldl Store.after store).historyOf campaign =
        ((calls.filter (·.concerns campaign)).foldl Store.after store).historyOf campaign) ∧
    (∀ runs : List (String × List Entry),
      (runAll store runs).historyOf campaign =
        (runAll store (runs.filter (·.1 = campaign))).historyOf campaign) ∧
    ∀ (transcript : String → List Entry) (names : List String),
      (runAll store (names.map fun name => (name, transcript name))).historyOf campaign =
        if campaign ∈ names then
          (run store campaign (transcript campaign)).result.1.historyOf campaign
        else store.historyOf campaign := by
  intro store
  have sound : store.Sound := Store.sound_unprepared.calls before
  refine ⟨Store.historyOf_calls sound sound rfl, historyOf_runAll sound sound rfl, ?_⟩
  intro transcript names
  have own : (names.map fun name => (name, transcript name)).filter (·.1 = campaign) =
      .replicate (names.count campaign) (campaign, transcript campaign) := by
    rw [List.filter_map]
    have kept : names.filter ((fun one : String × List Entry => decide (one.1 = campaign)) ∘
        fun name => (name, transcript name)) = .replicate (names.count campaign) campaign := by
      exact List.filter_eq campaign
    rw [kept, List.map_replicate]
  rw [historyOf_runAll sound sound rfl, own]
  by_cases listed : campaign ∈ names
  · obtain ⟨more, counted⟩ := Nat.exists_eq_succ_of_ne_zero
      (Nat.pos_iff_ne_zero.mp (List.count_pos_iff.mpr listed))
    rw [if_pos listed, counted, runAll_replicate]
  · rw [if_neg listed, List.count_eq_zero_of_not_mem listed]
    rfl

end Ingest

end DiceLedger
