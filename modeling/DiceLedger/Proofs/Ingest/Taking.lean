import DiceLedger.Ingest
import DiceLedger.Proofs.Store.Transaction

/-! # Taking entries one by one

What `DiceLedger.Ingest.takeEntries` does, as a judgment with a rule for everything that may
happen at an entry (`DiceLedger.Ingest.Takes`). Taking entries writes to the store by saving posts
for the campaign, and in no other way (`DiceLedger.Ingest.Takes.keeps`).
-/

namespace DiceLedger

namespace Ingest

open Transcript (Entry ReadFault)

/-- Taking entries leads from one progress to another, with what ended it early. -/
inductive Takes (campaign : String) : List Entry → Progress → Progress → Option Fault → Prop
  | done {progress : Progress} : Takes campaign [] progress progress none
  | unreadable {entry : Entry} {rest : List Entry} {progress : Progress} {stop : ReadFault}
      (outcome : entry.outcome = .error stop) :
      Takes campaign (entry :: rest) progress progress (some (.read stop))
  | passedOver {entry : Entry} {rest : List Entry} {progress left : Progress}
      {ended : Option Fault} (outcome : entry.outcome = .ok none)
      (later : Takes campaign rest progress left ended) :
      Takes campaign (entry :: rest) progress left ended
  | skipped {entry : Entry} {rest : List Entry} {progress left : Progress}
      {ended : Option Fault} {post : Post} (outcome : entry.outcome = .ok (some post))
      (held : post.id ∈ progress.known)
      (later : Takes campaign rest { progress with counts := progress.counts.addSkipped } left
        ended) :
      Takes campaign (entry :: rest) progress left ended
  | refused {entry : Entry} {rest : List Entry} {progress : Progress} {post : Post}
      {refusal : StoreFault} (outcome : entry.outcome = .ok (some post))
      (new : post.id ∉ progress.known)
      (tried : progress.store.attempt campaign post = (.error refusal, progress.store)) :
      Takes campaign (entry :: rest) progress progress (some (.store refusal))
  | saved {entry : Entry} {rest : List Entry} {progress left : Progress}
      {ended : Option Fault} {post : Post} {store : Store}
      (outcome : entry.outcome = .ok (some post)) (new : post.id ∉ progress.known)
      (tried : progress.store.attempt campaign post = (.ok (), store))
      (later : Takes campaign rest
        ⟨store, post.id :: progress.known, progress.counts.addSaved post⟩ left ended) :
      Takes campaign (entry :: rest) progress left ended

/-- A post that is known is skipped. -/
theorem takePost_of_known {campaign : String} {progress : Progress} {post : Post}
    (held : post.id ∈ progress.known) :
    takePost campaign progress post =
      (.ok (), { progress with counts := progress.counts.addSkipped }) :=
  if_pos (List.contains_iff_mem.mpr held)

/-- A post that is not known is saved, or ends the run with a fault. -/
theorem takePost_of_new {campaign : String} {progress : Progress} {post : Post}
    (new : post.id ∉ progress.known) :
    takePost campaign progress post =
      match progress.store.attempt campaign post with
      | (.ok (), store) =>
        (.ok (), ⟨store, post.id :: progress.known, progress.counts.addSaved post⟩)
      | (.error fault, store) => (.error fault, { progress with store := store }) :=
  if_neg fun held => new (List.contains_iff_mem.mp held)

/-- Taking entries does what `Takes` says. -/
theorem takes_takeEntries (campaign : String) (entries : List Entry) (progress : Progress) :
    Takes campaign entries progress (takeEntries campaign entries progress).result.1
      (takeEntries campaign entries progress).result.2 := by
  induction entries generalizing progress with
  | nil => exact .done
  | cons entry rest ih =>
      rw [takeEntries]
      split
      · next outcome => exact .unreadable outcome
      · next outcome => exact .passedOver outcome (ih progress)
      · next post outcome =>
        by_cases held : post.id ∈ progress.known
        · rw [takePost_of_known held]
          exact .skipped outcome held (ih _)
        · rw [takePost_of_new held]
          rcases tried : progress.store.attempt campaign post with ⟨refusal | done, store⟩
          · obtain rfl := Store.attempt_of_fault tried
            exact .refused outcome held tried
          · exact .saved outcome held tried (ih _)

/-- `Takes` tells all that taking entries does. -/
theorem Takes.result_eq {campaign : String} {entries : List Entry} {progress left : Progress}
    {ended : Option Fault} (takes : Takes campaign entries progress left ended) :
    (takeEntries campaign entries progress).result = (left, ended) := by
  induction takes with
  | done => rfl
  | unreadable outcome => simp only [takeEntries, outcome]
  | passedOver outcome _ ih => simp only [takeEntries, outcome, ih]
  | skipped outcome held _ ih => simp only [takeEntries, outcome, takePost_of_known held, ih]
  | refused outcome new tried => simp only [takeEntries, outcome, takePost_of_new new, tried]
  | saved outcome new tried _ ih =>
      simp only [takeEntries, outcome, takePost_of_new new, tried, ih]

/-- What every save for the campaign keeps, taking entries keeps. -/
theorem Takes.keeps {campaign : String} (kept : Store → Prop)
    (keeps : ∀ store post, kept store → kept (store.attempt campaign post).2)
    {entries : List Entry} {progress left : Progress} {ended : Option Fault}
    (takes : Takes campaign entries progress left ended) (before : kept progress.store) :
    kept left.store := by
  induction takes with
  | done => exact before
  | unreadable => exact before
  | passedOver _ _ ih => exact ih before
  | skipped _ _ _ ih => exact ih before
  | refused => exact before
  | @saved _ _ progress _ _ post _ _ _ tried _ ih =>
      apply ih
      have after := keeps progress.store post before
      rw [tried] at after
      exact after

/-- How an ingestion ends that has left a progress. -/
def conclusion (left : Progress) (ended : Option Fault) : Store × Except Fault Counts :=
  (left.store,
    match ended with
    | none => .ok left.counts
    | some fault => .error fault)

/-- An ingestion fails at once when the store was not prepared, or takes the entries from what
the store knows. -/
theorem run_cases (store : Store) (campaign : String) (entries : List Entry) :
    (store.tables = none ∧
        (run store campaign entries).result = (store, .error (.store .noTables))) ∨
      ∃ known left ended, store.knownIds campaign = .ok known ∧
        Takes campaign entries ⟨store, known, {}⟩ left ended ∧
        (run store campaign entries).result = conclusion left ended := by
  obtain ⟨_ | tables⟩ := store
  · exact .inl ⟨rfl, rfl⟩
  · let known := (tables.posts.filter (·.campaign = campaign)).map (·.id)
    have asked : Store.knownIds ⟨some tables⟩ campaign = .ok known := rfl
    have takes := takes_takeEntries campaign entries ⟨⟨some tables⟩, known, {}⟩
    refine .inr ⟨known, _, _, asked, takes, ?_⟩
    simp only [run, asked]
    rcases (takeEntries campaign entries ⟨⟨some tables⟩, known, {}⟩).result with
      ⟨progress, _ | fault⟩
    · rfl
    · rfl

end Ingest

end DiceLedger
