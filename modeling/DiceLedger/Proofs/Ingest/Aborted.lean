import DiceLedger.Proofs.Ingest.Repeated
import DiceLedger.Proofs.Ingest.Taking

/-! # An ingestion that is cut short

An ingestion ends early when the transcript cannot be read on or the store refuses a post. The
store then holds what saving the new posts up to there leaves in it, each of them whole, and
nothing of the post that was refused (`DiceLedger.Ingest.saving_all_or_nothing`).
-/

namespace DiceLedger

namespace Ingest

open Transcript (Entry ReadFault posts)

/-- The posts whose identifiers are not known, of each identifier the first. -/
def newPosts (known : List LooseText) (posts : List Post) : List Post :=
  (posts.filter fun post => !known.contains post.id).eraseDupsBy fun a b => a.id = b.id

theorem newPosts_cons_of_known {known : List LooseText} {post : Post} (held : post.id ∈ known)
    (rest : List Post) : newPosts known (post :: rest) = newPosts known rest := by
  have passed : ¬ (!known.contains post.id) = true := by
    rw [List.contains_iff_mem.mpr held]
    exact Bool.false_ne_true
  rw [newPosts, List.filter_cons, if_neg passed, newPosts]

theorem newPosts_cons_of_new {known : List LooseText} {post : Post} (new : post.id ∉ known)
    (rest : List Post) :
    newPosts known (post :: rest) = post :: newPosts (post.id :: known) rest := by
  have taken : (!known.contains post.id) = true := by
    rw [Bool.not_eq_true', Bool.eq_false_iff]
    exact fun held => new (List.contains_iff_mem.mp held)
  rw [newPosts, List.filter_cons, if_pos taken, List.eraseDupsBy_cons, List.filter_filter, newPosts]
  congr 2
  apply List.filter_congr
  intro other _
  rw [List.contains_cons, Bool.not_or]
  congr 1
  by_cases same : other.id = post.id
  · simp only [same, decide_true, BEq.rfl, Bool.true_eq_false, decide_false, Bool.not_true]
  · simp only [same, decide_false, decide_true, beq_eq_false_iff_ne.mpr same, Bool.not_false]

/-- Saves posts one after another. -/
def saveAll (store : Store) (campaign : String) (posts : List Post) : Except StoreFault Store :=
  posts.foldlM (fun store post => store.save campaign post) store

/-- A post that is saved leaves the store to the others. -/
theorem saveAll_cons_of_saved {store saved : Store} {campaign : String} {post : Post}
    (tried : store.attempt campaign post = (.ok (), saved)) (rest : List Post) :
    saveAll store campaign (post :: rest) = saveAll saved campaign rest := by
  rw [saveAll, List.foldlM_cons, Store.save_eq_ok_iff.mpr tried]
  rfl

/-- What ends an ingestion at an entry: it cannot be read, or the store refuses its post, which
is new behind the posts before it. -/
inductive AbortsAt (store : Store) (campaign : String) (known : List LooseText)
    (before : List Post) (entry : Entry) : Fault → Prop
  | read {stop : ReadFault} (failed : entry.outcome = .error stop) :
      AbortsAt store campaign known before entry (.read stop)
  | save {post : Post} {refusal : StoreFault} (given : entry.outcome = .ok (some post))
      (unknown : post.id ∉ known) (first : ∀ earlier ∈ before, earlier.id ≠ post.id)
      (refused : (store.attempt campaign post).1 = .error refusal) :
      AbortsAt store campaign known before entry (.store refusal)

/-- What is new behind one more entry was not known behind it. -/
theorem AbortsAt.behind {store : Store} {campaign : String} {known later : List LooseText}
    {before : List Post} {entry : Entry} {fault : Fault} {read : Option Post}
    (aborts : AbortsAt store campaign later before entry fault)
    (stays : ∀ id ∈ known, id ∈ later) (held : ∀ post ∈ read, post.id ∈ later) :
    AbortsAt store campaign known (read.toList ++ before) entry fault := by
  cases aborts with
  | read failed => exact .read failed
  | save given unknown first refused =>
      refine .save given (fun member => unknown (stays _ member)) ?_ refused
      intro earlier member
      rcases List.mem_append.mp member with here | member
      · exact fun same => unknown (same ▸ held earlier (Option.mem_toList.mp here))
      · exact first earlier member

/-- Entries are cut short at one of them: those before it are read, and saving their posts, as
far as these are new, succeeds and leaves the store that is left. -/
def CutShort (store : Store) (campaign : String) (known : List LooseText) (entries : List Entry)
    (left : Store) (fault : Fault) : Prop :=
  ∃ before entry rest, entries = before ++ entry :: rest ∧
    (∀ earlier ∈ before, ∃ read, earlier.outcome = .ok read) ∧
    saveAll store campaign (newPosts known (posts before)) = .ok left ∧
    AbortsAt left campaign known (posts before) entry fault

section CutShort

variable {store left : Store} {campaign : String} {known : List LooseText} {entry : Entry}
  {rest : List Entry} {fault : Fault}

/-- A run may be cut short at its first entry. -/
theorem CutShort.here (aborts : AbortsAt store campaign known [] entry fault) :
    CutShort store campaign known (entry :: rest) store fault :=
  ⟨[], entry, rest, rfl, fun _ member => (List.not_mem_nil member).elim, rfl, aborts⟩

/-- One more entry in front, after which the store is another and more is known. -/
theorem CutShort.behind {next : Store} {later : List LooseText} {read : Option Post}
    (cut : CutShort next campaign later rest left fault) (outcome : entry.outcome = .ok read)
    (stays : ∀ id ∈ known, id ∈ later) (held : ∀ post ∈ read, post.id ∈ later)
    (saves : ∀ others, saveAll store campaign (newPosts known (read.toList ++ others)) =
      saveAll next campaign (newPosts later others)) :
    CutShort store campaign known (entry :: rest) left fault := by
  obtain ⟨before, last, after, rfl, calm, saved, aborts⟩ := cut
  have front : posts (entry :: before) = read.toList ++ posts before :=
    Transcript.posts_cons_of_ok outcome before
  refine ⟨entry :: before, last, after, rfl, ?_, ?_, ?_⟩
  · intro earlier member
    rcases List.mem_cons.mp member with rfl | member
    · exact ⟨read, outcome⟩
    · exact calm earlier member
  · rw [front, saves]
    exact saved
  · rw [front]
    exact aborts.behind stays held

end CutShort

/-- Entries whose taking is ended by a fault are cut short by it. -/
theorem Takes.cutShort {campaign : String} {entries : List Entry} {progress left : Progress}
    {ended : Option Fault} (takes : Takes campaign entries progress left ended) {fault : Fault}
    (aborted : ended = some fault) :
    CutShort progress.store campaign progress.known entries left.store fault := by
  induction takes with
  | done => cases aborted
  | unreadable outcome =>
      obtain rfl := Option.some.inj aborted
      exact .here (.read outcome)
  | passedOver outcome _ ih =>
      exact (ih aborted).behind outcome (fun _ member => member)
        (fun _ none => (Option.not_mem_none _ none).elim) (fun _ => rfl)
  | skipped outcome held _ ih =>
      refine (ih aborted).behind outcome (fun _ member => member) ?_ ?_
      · rintro _ ⟨⟩
        exact held
      · exact fun others => congrArg _ (newPosts_cons_of_known held others)
  | refused outcome new tried =>
      obtain rfl := Option.some.inj aborted
      apply CutShort.here
      apply AbortsAt.save outcome new (fun _ none => (List.not_mem_nil none).elim)
      rw [tried]
  | saved outcome new tried _ ih =>
      refine (ih aborted).behind outcome (fun _ member => List.mem_cons_of_mem _ member) ?_ ?_
      · rintro _ ⟨⟩
        exact List.mem_cons_self
      · intro others
        rw [Option.toList_some, List.singleton_append, newPosts_cons_of_new new,
          saveAll_cons_of_saved tried]

/-- Entries that end with a fault are cut short there. -/
theorem takeEntries_aborted {campaign : String} {entries : List Entry} {progress left : Progress}
    {fault : Fault}
    (aborted : (takeEntries campaign entries progress).result = (left, some fault)) :
    CutShort progress.store campaign progress.known entries left.store fault := by
  have takes := takes_takeEntries campaign entries progress
  rw [aborted] at takes
  exact takes.cutShort rfl

/-- **Saving is all or nothing, and an ingestion that is cut short keeps whole posts only.** A
save that fails leaves the store as it was. An ingestion that is ended by the transcript or by
the store leaves the store that saving the new posts before that entry one after another leaves;
all of those saves succeed. -/
theorem saving_all_or_nothing (store : Store) (campaign : String) :
    (∀ post refusal left, store.attempt campaign post = (.error refusal, left) → left = store) ∧
    ∀ entries left fault, (run store campaign entries).result = (left, .error fault) →
      (store.tables = none ∧ left = store) ∨
        ∃ known, store.knownIds campaign = .ok known ∧
          CutShort store campaign known entries left fault := by
  refine ⟨fun post refusal left failed => Store.attempt_of_fault failed, ?_⟩
  intro entries left fault aborted
  unfold run at aborted
  cases asked : store.knownIds campaign with
  | error refusal =>
      rw [asked] at aborted
      obtain ⟨rfl, -⟩ := Prod.mk.inj aborted
      refine .inl ⟨?_, rfl⟩
      unfold Store.knownIds at asked
      split at asked
      · assumption
      · cases asked
  | ok known =>
      simp only [asked] at aborted
      rcases taken : (takeEntries campaign entries ⟨store, known, {}⟩).result with
        ⟨progress, _ | ended⟩
      · rw [taken] at aborted
        cases (Prod.mk.inj aborted).2
      · rw [taken] at aborted
        obtain ⟨rfl, same⟩ := Prod.mk.inj aborted
        obtain rfl := Except.error.inj same
        exact .inr ⟨known, rfl, takeEntries_aborted taken⟩

/-- A post whose third die does not fit 64 bits. -/
def overlongPost (id : String) : Post :=
  { rolledPost id with
    rolls := [⟨"1d6", 3, [⟨6, 3⟩]⟩, ⟨"2d6", 9, [⟨6, 4⟩, ⟨6, 9223372036854775808⟩]⟩] }

/-- Between two posts that can be stored, one is refused when five of its rows are written. -/
theorem saving_all_or_nothing_third_die :
    let tables := Store.Tables.withPost ⟨[], [], []⟩ "Keep" (rolledPost "1")
    let entries : List Entry := [.post (rolledPost "2"), .post (overlongPost "3"),
      .post (rolledPost "4")]
    let written := (Store.writePost "Keep" (overlongPost "3") (.opened tables)).2.working
    (written.posts.length = 2 ∧ written.rolls.length = 3 ∧ written.dice.length = 3) ∧
      ∃ known left fault, (run ⟨some tables⟩ "Keep" entries).result = (left, .error fault) ∧
        left.knownIds "Keep" = .ok ["1", "2"] ∧
        CutShort ⟨some tables⟩ "Keep" known entries left fault := by
  intro tables entries written
  have evaluated :
      (written.posts.length = 2 ∧ written.rolls.length = 3 ∧ written.dice.length = 3) ∧
      (run ⟨some tables⟩ "Keep" entries).result.2.isOk = false ∧
      (run ⟨some tables⟩ "Keep" entries).result.1.knownIds "Keep" = .ok ["1", "2"] := by
    decide +kernel
  obtain ⟨rows, ended, known⟩ := evaluated
  rcases result : (run ⟨some tables⟩ "Keep" entries).result with ⟨left, fault | counts⟩
  · rw [result] at known
    rcases (saving_all_or_nothing ⟨some tables⟩ "Keep").2 entries left fault result with
      ⟨unprepared, -⟩ | ⟨before, -, cut⟩
    · cases unprepared
    · exact ⟨rows, before, left, fault, rfl, known, cut⟩
  · rw [result] at ended
    cases ended

end Ingest

end DiceLedger
