import DiceLedger.Transcript.Entry

/-! # What asking for posts gives

Asking a reader until the end gives the posts and the faults of its entries in order, each
once (`DiceLedger.Transcript.drain_eq_filterMap`): what was passed over between them leaves
nothing but its notices, and a fault takes no entry with it that stands after it.
-/

namespace DiceLedger

namespace Transcript

/-- Nothing is given for what is passed over. -/
theorem given?_eq_none {result : Except ReadFault (Option Post)} :
    given? result = none ↔ result = .ok none := by
  match result with
  | .ok none => simp [given?]
  | .ok (some post) => simp [given?]
  | .error fault => simp [given?]

/-- A fault is given as it is. -/
theorem given?_eq_error {result : Except ReadFault (Option Post)} {fault : ReadFault} :
    given? result = some (.error fault) ↔ result = .error fault := by
  match result with
  | .ok none => simp [given?]
  | .ok (some post) => simp [given?]
  | .error other => simp [given?]

/-- The fault of a result, which can be told by looking. -/
def faultOf? : Except ReadFault (Option Post) → Option ReadFault
  | .ok _ => none
  | .error fault => some fault

/-- The fault of a result is the one it ended with. -/
theorem faultOf?_eq_some {result : Except ReadFault (Option Post)} {fault : ReadFault} :
    faultOf? result = some fault ↔ result = .error fault := by
  cases result <;> simp [faultOf?]

/-- A result without a fault has been read. -/
theorem faultOf?_eq_none {result : Except ReadFault (Option Post)} :
    faultOf? result = none ↔ ∃ read, result = .ok read := by
  cases result <;> simp [faultOf?]

/-- A post in a result can be told by looking, too. -/
theorem exists_post_of_isSome {result : Except ReadFault (Option Post)}
    (given : result.toOption.join.isSome = true) : ∃ post, result = .ok (some post) := by
  match result with
  | .ok (some post) => exact ⟨post, rfl⟩
  | .ok none => cases given
  | .error _ => cases given

theorem posts_append (first later : List Entry) :
    posts (first ++ later) = posts first ++ posts later := by
  simp only [posts, List.filterMap_append]

/-- The posts of entries begin with that of the first, if it has one. -/
theorem posts_cons_of_ok {entry : Entry} {read : Option Post} (outcome : entry.outcome = .ok read)
    (rest : List Entry) : posts (entry :: rest) = read.toList ++ posts rest := by
  simp only [posts, List.filterMap_cons, outcome]
  cases read <;> rfl

/-- A post is one that an entry was read as. -/
theorem mem_posts {entries : List Entry} {post : Post} :
    post ∈ posts entries ↔ ∃ entry ∈ entries, entry.outcome = .ok (some post) := by
  simp only [posts, List.mem_filterMap]
  constructor
  · rintro ⟨entry, member, given⟩
    refine ⟨entry, member, ?_⟩
    cases outcome : entry.outcome with
    | error fault => rw [outcome] at given; cases given
    | ok read => rw [outcome] at given; exact congrArg Except.ok given
  · rintro ⟨entry, member, outcome⟩
    exact ⟨entry, member, by rw [outcome]⟩

/-- What is passed over leaves its notices to the next answer. -/
theorem nextAnswer_of_skipped {entry : Entry} (skipped : entry.outcome = .ok none)
    (rest : List Entry) :
    nextAnswer (entry :: rest) =
      (⟨entry.notices ++ (nextAnswer rest).1.notices, (nextAnswer rest).1.result⟩,
        (nextAnswer rest).2) := by
  rw [nextAnswer, skipped]

/-- The next answer is the first entry that is not passed over. -/
theorem nextAnswer_of_given {entry : Entry} (given : entry.outcome ≠ .ok none)
    (rest : List Entry) :
    nextAnswer (entry :: rest) = (⟨entry.notices, entry.outcome⟩, rest) := by
  rw [nextAnswer]
  split
  · next skipped => exact absurd skipped given
  · rfl

/-- One step of asking: either the end is reached, or there is more to be had. -/
theorem drain_eq_next (entries : List Entry) :
    drain entries =
      match given? (nextAnswer entries).1.result with
      | none => []
      | some found => found :: drain (nextAnswer entries).2 := by
  cases entries with
  | nil =>
      rw [drain, answers]
      rfl
  | cons entry rest =>
      rw [drain, answers]
      split
      · next ended =>
          simp only [List.filterMap_cons, List.filterMap_nil, ended, given?, Option.map_none]
      · next more =>
          have more : given? (nextAnswer (entry :: rest)).1.result ≠ none :=
            fun ended => more (given?_eq_none.mp ended)
          obtain ⟨found, given⟩ := Option.ne_none_iff_exists'.mp more
          simp only [List.filterMap_cons, given, drain]

/-- Asked to the end, a reader answers with its first entry, if it gives anything, and then with the
others. -/
theorem drain_cons (entry : Entry) (rest : List Entry) :
    drain (entry :: rest) = (given? entry.outcome).toList ++ drain rest := by
  by_cases skipped : entry.outcome = .ok none
  · rw [drain_eq_next, nextAnswer_of_skipped skipped, given?_eq_none.mpr skipped,
      drain_eq_next rest]
    rfl
  · obtain ⟨found, given⟩ :=
      Option.ne_none_iff_exists'.mp fun ended => skipped (given?_eq_none.mp ended)
    rw [drain_eq_next, nextAnswer_of_given skipped, given]
    rfl

/-- Asking until the end gives what each entry has, in order. -/
theorem drain_eq_filterMap (entries : List Entry) :
    drain entries = entries.filterMap fun entry => given? entry.outcome := by
  induction entries with
  | nil => rw [drain_eq_next]; rfl
  | cons entry rest ih =>
      rw [drain_cons, ih, List.filterMap_cons]
      cases given? entry.outcome <;> rfl

theorem drain_append (first later : List Entry) :
    drain (first ++ later) = drain first ++ drain later := by
  simp only [drain_eq_filterMap, List.filterMap_append]

/-- An answer is a fault exactly when an entry is. -/
theorem exists_answer_error_iff (entries : List Entry) (fault : ReadFault) :
    (∃ answer ∈ answers entries, answer.result = .error fault) ↔
      ∃ entry ∈ entries, entry.outcome = .error fault := by
  have asked : .error fault ∈ drain entries ↔
      ∃ answer ∈ answers entries, answer.result = .error fault := by
    simp only [drain, List.mem_filterMap, given?_eq_error]
  rw [← asked, drain_eq_filterMap]
  simp only [List.mem_filterMap, given?_eq_error]

/-- Where no entry is a fault, asking until the end gives the posts and nothing else. -/
theorem drain_of_ok {entries : List Entry}
    (calm : ∀ entry ∈ entries, ∃ read, entry.outcome = .ok read) :
    drain entries = (posts entries).map .ok := by
  rw [drain_eq_filterMap]
  induction entries with
  | nil => rfl
  | cons entry rest ih =>
      obtain ⟨read, outcome⟩ := calm entry List.mem_cons_self
      have later := ih fun other member => calm other (List.mem_cons_of_mem _ member)
      simp only [List.filterMap_cons, posts, outcome, given?]
      cases read with
      | none => exact later
      | some post => exact congrArg (.ok post :: ·) later

end Transcript

end DiceLedger
