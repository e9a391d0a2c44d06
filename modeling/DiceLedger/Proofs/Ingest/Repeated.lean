import DiceLedger.Proofs.Ingest.Taking
import DiceLedger.Proofs.Transcript.Answers
import Mathlib.Data.List.TakeWhile

/-! # Ingesting a transcript again

An ingestion knows exactly the identifiers that the store has for its campaign, through
every post it takes (`DiceLedger.Ingest.Progress.Tracks`). So what it leaves in the store
is what offering the posts one by one to the tables leaves there, and it counts as saved
the rows that the table of posts has gained. A transcript that begins with posts which
were ingested before adds only what is new in it
(`DiceLedger.Ingest.run_again_eq_run_once`).
-/

namespace DiceLedger

/-- An entry that is no fault, and whose post, if it has one, can be stored. -/
def Transcript.Entry.Storable (entry : Transcript.Entry) : Prop :=
  ∃ read, entry.outcome = .ok read ∧ ∀ post ∈ read, post.Storable

namespace Store

/-- The tables after posts were offered to them in order. -/
def Tables.offeredAll (tables : Tables) (campaign : String) (posts : List Post) : Tables :=
  posts.foldl (fun tables post => Tables.offered tables campaign post) tables

theorem Tables.offeredAll_cons (tables : Tables) (campaign : String) (post : Post)
    (rest : List Post) :
    Tables.offeredAll tables campaign (post :: rest) =
      Tables.offeredAll (Tables.offered tables campaign post) campaign rest := rfl

theorem Tables.offeredAll_append (tables : Tables) (campaign : String) (first later : List Post) :
    Tables.offeredAll tables campaign (first ++ later) =
      Tables.offeredAll (Tables.offeredAll tables campaign first) campaign later :=
  List.foldl_append

/-- What the tables have they still have when posts are offered. -/
theorem Tables.offeredAll_has_of_has {tables : Tables} {campaign other : String}
    {id : LooseText} (posts : List Post) (present : Tables.has tables other id = true) :
    Tables.has (Tables.offeredAll tables campaign posts) other id = true := by
  induction posts generalizing tables with
  | nil => exact present
  | cons post rest ih => exact ih (Tables.offered_has_of_has post present)

/-- A campaign has the identifiers of all posts that were offered to it. -/
theorem Tables.offeredAll_has (tables : Tables) (campaign : String) (posts : List Post) :
    ∀ post ∈ posts,
      Tables.has (Tables.offeredAll tables campaign posts) campaign post.id = true := by
  induction posts generalizing tables with
  | nil => intro post member; cases member
  | cons first rest ih =>
      intro post member
      rw [Tables.offeredAll_cons]
      rcases List.mem_cons.mp member with same | later
      · subst same
        exact Tables.offeredAll_has_of_has rest (Tables.offered_has_self tables campaign post)
      · exact ih _ post later

/-- Posts whose identifiers the campaign has change nothing. -/
theorem Tables.offeredAll_of_has {tables : Tables} {campaign : String} {posts : List Post}
    (present : ∀ post ∈ posts, Tables.has tables campaign post.id = true) :
    Tables.offeredAll tables campaign posts = tables := by
  induction posts with
  | nil => rfl
  | cons post rest ih =>
      rw [Tables.offeredAll_cons, Tables.offered_of_has (present post List.mem_cons_self)]
      exact ih fun other member => present other (List.mem_cons_of_mem _ member)

/-- Posts that were offered before change nothing when they are offered again. -/
theorem Tables.offeredAll_again (tables : Tables) (campaign : String) (first later : List Post) :
    Tables.offeredAll (Tables.offeredAll tables campaign first) campaign (first ++ later) =
      Tables.offeredAll tables campaign (first ++ later) := by
  rw [Tables.offeredAll_append, Tables.offeredAll_append,
    Tables.offeredAll_of_has (Tables.offeredAll_has tables campaign first)]

end Store

namespace Ingest

open Transcript (Entry ReadFault faultOf? posts)
open Store (Tables.offered Tables.offeredAll Tables.has)

/-- The ingestion is at a store with these tables, and the identifiers it knows are
those that the campaign has in them. -/
structure Progress.Tracks (progress : Progress) (campaign : String) (tables : Tables) : Prop where
  store : progress.store = ⟨some tables⟩
  known : ∀ id, id ∈ progress.known ↔ Tables.has tables campaign id = true

/-- Taking a post that can be kept offers it to the tables and counts the row they gain. -/
theorem takePost_of_kept {campaign : String} {progress : Progress} {tables : Tables}
    (tracks : progress.Tracks campaign tables) (post : Post) (kept : post.Kept) :
    ∃ after, takePost campaign progress post = (.ok (), after) ∧
      after.Tracks campaign (Tables.offered tables campaign post) ∧
      after.counts.saved + tables.posts.length =
        progress.counts.saved + (Tables.offered tables campaign post).posts.length := by
  by_cases present : Tables.has tables campaign post.id = true
  · have held : post.id ∈ progress.known := (tracks.known post.id).mpr present
    refine ⟨_, takePost_of_known held, ?_, ?_⟩
    · rw [Store.Tables.offered_of_has present]
      exact ⟨tracks.store, tracks.known⟩
    · rw [Store.Tables.offered_of_has present]
      rfl
  · have absent : Tables.has tables campaign post.id = false := Bool.eq_false_iff.mpr present
    have unknown : post.id ∉ progress.known :=
      fun known => present ((tracks.known post.id).mp known)
    refine ⟨⟨⟨some (Tables.offered tables campaign post)⟩, post.id :: progress.known,
      progress.counts.addSaved post⟩, ?_, ⟨rfl, ?_⟩, ?_⟩
    · rw [takePost_of_new unknown, tracks.store, Store.attempt_of_kept tables campaign post kept]
    · intro id
      rw [Store.Tables.offered_of_not_has absent, Store.Tables.withPost_has, List.mem_cons,
        tracks.known, Bool.or_eq_true, or_comm]
      simp only [decide_true, Bool.true_and, decide_eq_true_eq]
      exact or_congr_right eq_comm
    · rw [Store.Tables.offered_of_not_has absent, Store.Tables.withPost_posts,
        List.length_append, List.length_singleton]
      simp only [Counts.addSaved]
      omega

/-- The first fault of a transcript. -/
def firstFault? (entries : List Entry) : Option ReadFault :=
  entries.findSome? fun entry => faultOf? entry.outcome

/-- The posts of a transcript before its first fault. -/
def postsBeforeFault (entries : List Entry) : List Post :=
  posts (entries.takeWhile fun entry => (faultOf? entry.outcome).isNone)

/-- Taking entries whose posts can be kept offers the posts before the first fault to the
tables, one after another. -/
theorem takeEntries_of_kept {campaign : String} (entries : List Entry) {progress : Progress}
    {tables : Tables} (tracks : progress.Tracks campaign tables)
    (kept : ∀ post ∈ postsBeforeFault entries, post.Kept) :
    ∃ after, (takeEntries campaign entries progress).result =
        (after, (firstFault? entries).map .read) ∧
      after.Tracks campaign (Tables.offeredAll tables campaign (postsBeforeFault entries)) ∧
      after.counts.saved + tables.posts.length =
        progress.counts.saved +
          (Tables.offeredAll tables campaign (postsBeforeFault entries)).posts.length := by
  induction entries generalizing progress tables with
  | nil => exact ⟨progress, rfl, tracks, rfl⟩
  | cons entry rest ih =>
      cases outcome : entry.outcome with
      | error fault =>
          have none : postsBeforeFault (entry :: rest) = [] := by
            simp only [postsBeforeFault, List.takeWhile_cons, outcome, faultOf?,
              Option.isNone_some, Bool.false_eq_true, ↓reduceIte]
            rfl
          have first : firstFault? (entry :: rest) = some fault := by
            simp only [firstFault?, List.findSome?_cons, outcome, faultOf?]
          rw [none, first]
          exact ⟨progress, by simp only [takeEntries, outcome, Option.map_some], tracks, rfl⟩
      | ok read =>
          have first : firstFault? (entry :: rest) = firstFault? rest := by
            simp only [firstFault?, List.findSome?_cons, outcome, faultOf?]
          have before : postsBeforeFault (entry :: rest) =
              read.toList ++ postsBeforeFault rest := by
            simp only [postsBeforeFault, List.takeWhile_cons, outcome, faultOf?,
              Option.isNone_none, ↓reduceIte, Transcript.posts_cons_of_ok outcome]
          rw [before] at kept
          rw [before, first]
          cases read with
          | none =>
              obtain ⟨after, taken, tracked, counted⟩ := ih tracks kept
              exact ⟨after, by simp only [takeEntries, outcome, taken], tracked, counted⟩
          | some post =>
              obtain ⟨middle, taken, tracked, counted⟩ :=
                takePost_of_kept tracks post (kept post List.mem_cons_self)
              obtain ⟨after, takenRest, trackedRest, countedRest⟩ :=
                ih tracked fun other member => kept other (List.mem_cons_of_mem _ member)
              simp only [Option.toList_some, List.singleton_append, Store.Tables.offeredAll_cons]
              refine ⟨after, by simp only [takeEntries, outcome, taken, takenRest],
                trackedRest, ?_⟩
              omega

/-- An ingestion of posts that can be kept offers those before the first fault to the tables,
and ends with its counts or with that fault. -/
theorem run_of_kept (tables : Tables) (campaign : String) (entries : List Entry)
    (kept : ∀ post ∈ postsBeforeFault entries, post.Kept) :
    ∃ counts, (run ⟨some tables⟩ campaign entries).result =
        (⟨some (Tables.offeredAll tables campaign (postsBeforeFault entries))⟩,
          match firstFault? entries with
          | none => .ok counts
          | some fault => .error (.read fault)) ∧
      counts.saved + tables.posts.length =
        (Tables.offeredAll tables campaign (postsBeforeFault entries)).posts.length := by
  let known := (tables.posts.filter (·.campaign = campaign)).map (·.id)
  have start : Progress.Tracks ⟨⟨some tables⟩, known, {}⟩ campaign tables :=
    ⟨rfl, fun id => (Store.Tables.has_iff_mem tables campaign id).symm⟩
  obtain ⟨after, taken, tracked, counted⟩ := takeEntries_of_kept entries start kept
  refine ⟨after.counts, ?_, by simpa only [Nat.zero_add] using counted⟩
  have knownIds : Store.knownIds ⟨some tables⟩ campaign = .ok known := rfl
  cases first : firstFault? entries with
  | none =>
      rw [first, Option.map_none] at taken
      simp only [run, knownIds, taken, tracked.store]
  | some fault =>
      rw [first, Option.map_some] at taken
      simp only [run, knownIds, taken, tracked.store]

/-- Entries that can be stored hold posts that can be held. -/
theorem kept_of_storable {entries : List Entry} (storable : ∀ entry ∈ entries, entry.Storable) :
    ∀ post ∈ posts entries, post.Kept := by
  intro post member
  obtain ⟨entry, held, given⟩ := Transcript.mem_posts.mp member
  obtain ⟨read, outcome, readable⟩ := storable entry held
  rw [outcome] at given
  exact (readable post (Except.ok.inj given)).kept

/-- An ingestion of storable entries ends with all their posts offered to the tables. -/
theorem run_of_storable (tables : Tables) (campaign : String) (entries : List Entry)
    (storable : ∀ entry ∈ entries, entry.Storable) :
    ∃ counts, (run ⟨some tables⟩ campaign entries).result =
        (⟨some (Tables.offeredAll tables campaign (posts entries))⟩, .ok counts) ∧
      counts.saved + tables.posts.length =
        (Tables.offeredAll tables campaign (posts entries)).posts.length := by
  have calm : ∀ entry ∈ entries, faultOf? entry.outcome = none := by
    intro entry member
    obtain ⟨read, outcome, _⟩ := storable entry member
    rw [outcome]
    rfl
  have none : firstFault? entries = none := List.findSome?_eq_none_iff.mpr calm
  have all : postsBeforeFault entries = posts entries := by
    rw [postsBeforeFault, List.takeWhile_eq_self_iff.mpr]
    intro entry member
    rw [calm entry member]
    rfl
  have kept : ∀ post ∈ postsBeforeFault entries, post.Kept := by
    rw [all]
    exact kept_of_storable storable
  have run := run_of_kept tables campaign entries kept
  rw [none, all] at run
  exact run

/-- **Incremental ingestion equals one-shot ingestion.** Ingesting the beginning of a
transcript and then the whole of it leaves the store that ingesting the whole of it once
leaves, so identifiers, rolls and dice are answered alike ever after; and the counts of
saved posts add up. Identifiers may repeat anywhere in the transcript, and the store may
have them. -/
theorem run_again_eq_run_once (store : Store) (prepared : store.tables.isSome)
    (campaign : String) (first later : List Entry)
    (storable : ∀ entry ∈ first ++ later, entry.Storable) :
    ∃ (midway finished whole : Store) (firstCounts laterCounts counts : Counts),
      (run store campaign first).result = (midway, .ok firstCounts) ∧
      (run midway campaign (first ++ later)).result = (finished, .ok laterCounts) ∧
      (run store campaign (first ++ later)).result = (whole, .ok counts) ∧
      finished = whole ∧
      firstCounts.saved + laterCounts.saved = counts.saved := by
  obtain ⟨tables, present⟩ := Option.isSome_iff_exists.mp prepared
  obtain rfl : store = ⟨some tables⟩ := congrArg Store.mk present
  obtain ⟨firstCounts, firstRun, firstSaved⟩ := run_of_storable tables campaign first
    fun entry member => storable entry (List.mem_append_left _ member)
  obtain ⟨laterCounts, laterRun, laterSaved⟩ := run_of_storable
    (Tables.offeredAll tables campaign (posts first)) campaign (first ++ later) storable
  obtain ⟨counts, wholeRun, wholeSaved⟩ :=
    run_of_storable tables campaign (first ++ later) storable
  have joined : posts (first ++ later) = posts first ++ posts later := List.filterMap_append
  rw [joined, Store.Tables.offeredAll_again] at laterRun laterSaved
  rw [joined] at wholeRun wholeSaved
  exact ⟨_, _, _, firstCounts, laterCounts, counts, firstRun, joined ▸ laterRun, wholeRun, rfl,
    by omega⟩

/-- A post with one roll of one die. -/
def rolledPost (id : String) : Post where
  id := id
  sender := "Ada"
  time := ⟨⟨0, by decide, by decide⟩, some 0⟩
  content := .string "rolls"
  isMessage := false
  rolls := [⟨"1d6", 3, [⟨6, 3⟩]⟩]

theorem rolledPost_storable (id : String) : (rolledPost id).Storable where
  id := rfl
  sender := rfl
  content := ⟨"rolls", rfl⟩
  formulas := by
    intro roll member
    obtain rfl := List.mem_singleton.mp member
    rfl
  totals := by
    intro roll member
    obtain rfl := List.mem_singleton.mp member
    decide +kernel
  faces := by
    intro roll member die thrown
    obtain rfl := List.mem_singleton.mp member
    obtain rfl := List.mem_singleton.mp thrown
    rfl
  outcomes := by
    intro roll member die thrown
    obtain rfl := List.mem_singleton.mp member
    obtain rfl := List.mem_singleton.mp thrown
    rfl

/-- A campaign that has post `1` is given `1` and `2`, and then `1`, `2`, `2` and `3`. -/
theorem run_again_eq_run_once_of_repeats :
    let store : Store := ⟨some (Store.Tables.withPost ⟨[], [], []⟩ "Keep" (rolledPost "1"))⟩
    let first : List Entry := [.post (rolledPost "1"), .post (rolledPost "2")]
    let later : List Entry := [.post (rolledPost "2"), .post (rolledPost "3")]
    store.tables.isSome ∧ (∀ entry ∈ first ++ later, entry.Storable) ∧
      ∃ (midway finished whole : Store) (firstCounts laterCounts counts : Counts),
        (run store "Keep" first).result = (midway, .ok firstCounts) ∧
        (run midway "Keep" (first ++ later)).result = (finished, .ok laterCounts) ∧
        (run store "Keep" (first ++ later)).result = (whole, .ok counts) ∧
        finished = whole ∧
        firstCounts.saved + laterCounts.saved = counts.saved := by
  intro store first later
  have storable : ∀ entry ∈ first ++ later, entry.Storable := by
    intro entry member
    have offered : ∃ id, entry = .post (rolledPost id) := by
      simp only [first, later, List.cons_append, List.nil_append, List.mem_cons,
        List.not_mem_nil, or_false] at member
      rcases member with rfl | rfl | rfl | rfl <;> exact ⟨_, rfl⟩
    obtain ⟨id, rfl⟩ := offered
    exact ⟨some (rolledPost id), rfl, fun post kept => by
      obtain rfl := Option.some.inj kept
      exact rolledPost_storable id⟩
  exact ⟨rfl, storable, run_again_eq_run_once store rfl "Keep" first later storable⟩

end Ingest

end DiceLedger
