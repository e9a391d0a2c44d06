import DiceLedger.Proofs.Calendar.Local
import DiceLedger.Proofs.Transcript.Answers
import DiceLedger.Proofs.Transcript.Latest
import DiceLedger.Transcript.FantasyGrounds

/-! # Numbers and times of Fantasy Grounds posts

Posts of a log are numbered from one, and each stands as many minutes behind the latest banner
before it as there are posts between them
(`DiceLedger.Transcript.FantasyGrounds.read_numbered`). Whatever is no post takes neither a
number nor a minute.
-/

namespace DiceLedger

namespace Transcript

namespace FantasyGrounds

open Markup (Node)

/-- The first font element among nodes. -/
def fontOf? (nodes : List Node) : Option Node := (Node.elementsOfAll nodes).find? (·.hasName "font")

/-- What a banner announces: a fragment without a font element. -/
def bannerIn? (fragment : List Char) : Option WallTime :=
  (Markup.parse fragment).toOption.bind fun nodes =>
    if (fontOf? nodes).isNone then bannerTime? nodes else none

/-- What a fragment with a font element says. -/
def utteranceIn? (fragment : List Char) : Option Utterance :=
  (Markup.parse fragment).toOption.bind fun nodes => (fontOf? nodes).bind (utterance? nodes)

/-- The latest banner among fragments: how many of them stand before it, and what it
announces. -/
def latestBanner? (fragments : List (List Char)) : Option (Nat × WallTime) :=
  latest? (fun before fragment => (bannerIn? fragment).map (before.length, ·)) fragments

/-- The latest banner is that of the last fragment, or else the latest before. -/
theorem latestBanner?_concat (before : List (List Char)) (fragment : List Char) :
    latestBanner? (before ++ [fragment]) =
      ((bannerIn? fragment).map (before.length, ·)).or (latestBanner? before) :=
  latest?_concat before fragment

/-- The latest banner is one of the fragments. -/
theorem lt_length_of_latestBanner? {fragments : List (List Char)} {place : Nat} {wall : WallTime}
    (latest : latestBanner? fragments = some (place, wall)) : place < fragments.length := by
  obtain ⟨early, banner, since, rfl, announced, -⟩ := latest?_eq_some_iff.mp latest
  obtain ⟨_, -, same⟩ := Option.map_eq_some_iff.mp announced
  obtain ⟨rfl, -⟩ := Prod.mk.inj same
  simp

/-- The time that the next post is given: as many minutes behind the latest banner as there
are posts since. -/
def ClockAfter (offset : Option Int) (fragments : List (List Char)) (entries : List Entry)
    (time : Timestamp) : Prop :=
  ∃ place wall start, latestBanner? fragments = some (place, wall) ∧
    wall.localize offset = .ok start ∧
    start.later? ((posts (entries.drop (place + 1))).length * microsPerMinute) = some time

/-- What is carried behind fragments that were read into entries. -/
structure State.Counts (offset : Option Int) (fragments : List (List Char))
    (entries : List Entry) (state : State) : Prop where
  length : entries.length = fragments.length
  nextId : state.nextId = (posts entries).length + 1
  clock : ∀ time, state.clock = some time ↔ ClockAfter offset fragments entries time

theorem State.start_counts (offset : Option Int) : State.start.Counts offset [] [] where
  length := rfl
  nextId := rfl
  clock time := by simp [State.start, ClockAfter, latestBanner?, latest?, latestBehind?]

/-- All that can come of a fragment: what is answered, and what is carried on. -/
inductive FragmentRead (offset : Option Int) (state : State) (fragment : List Char) :
    Entry → State → Prop where
  | broken {fault : Markup.Fault} (parsed : Markup.parse fragment = .error fault) :
      FragmentRead offset state fragment (.fault (.markup fault)) state
  | plain (unannounced : bannerIn? fragment = none) (unsaid : utteranceIn? fragment = none) :
      FragmentRead offset state fragment .skipped state
  | unplaced {wall : WallTime} {fault : LocalizeFault} (announced : bannerIn? fragment = some wall)
      (unsaid : utteranceIn? fragment = none) (placed : wall.localize offset = .error fault) :
      FragmentRead offset state fragment (.fault (.localize fault)) state
  | started {wall : WallTime} {start : Timestamp} (announced : bannerIn? fragment = some wall)
      (unsaid : utteranceIn? fragment = none) (placed : wall.localize offset = .ok start) :
      FragmentRead offset state fragment .skipped { state with clock := some start }
  | early {utterance : Utterance} (unannounced : bannerIn? fragment = none)
      (said : utteranceIn? fragment = some utterance) (waiting : state.clock = none) :
      FragmentRead offset state fragment (.skippedWith beforeBanner) state
  | late {utterance : Utterance} {clock : Timestamp} (said : utteranceIn? fragment = some utterance)
      (running : state.clock = some clock) (ends : clock.later? microsPerMinute = none) :
      FragmentRead offset state fragment (.fault .clockEnds)
        { state with nextId := state.nextId + 1 }
  | spoken {utterance : Utterance} {clock later : Timestamp}
      (unannounced : bannerIn? fragment = none) (said : utteranceIn? fragment = some utterance)
      (running : state.clock = some clock) (moved : clock.later? microsPerMinute = some later) :
      FragmentRead offset state fragment (.post (utterance.post state.nextId clock))
        ⟨some later, state.nextId + 1⟩

/-- Reading a fragment does what `FragmentRead` says. -/
theorem fragmentRead (offset : Option Int) (state : State) (fragment : List Char) :
    FragmentRead offset state fragment (readFragment offset state fragment).1
      (readFragment offset state fragment).2 := by
  cases parsed : Markup.parse fragment with
  | error fault =>
      rw [readFragment, parsed]
      exact .broken parsed
  | ok nodes =>
      have banner : bannerIn? fragment =
          if (fontOf? nodes).isNone then bannerTime? nodes else none := by
        rw [bannerIn?, parsed]; rfl
      have saying : utteranceIn? fragment = (fontOf? nodes).bind (utterance? nodes) := by
        rw [utteranceIn?, parsed]; rfl
      simp only [readFragment, parsed, ← fontOf?.eq_1]
      cases font : fontOf? nodes with
      | none =>
          rw [font] at banner saying
          cases announced : bannerTime? nodes with
          | none => exact .plain (banner.trans announced) saying
          | some wall =>
              have announced := banner.trans announced
              simp only
              cases placed : wall.localize offset with
              | error fault => exact .unplaced announced saying placed
              | ok start => exact .started announced saying placed
      | some element =>
          rw [font] at banner saying
          simp only
          cases said : utterance? nodes element with
          | none => exact .plain banner (saying.trans said)
          | some utterance =>
              have said := saying.trans said
              cases running : state.clock with
              | none => exact .early banner said running
              | some clock =>
                  simp only
                  cases moved : clock.later? microsPerMinute with
                  | none =>
                      rw [← running]
                      exact .late said running moved
                  | some later => exact .spoken banner said running moved

/-- What a fragment that is read without a fault does: a banner sets the clock, a post takes a
number and a minute, and anything else leaves both as they are. -/
theorem readFragment_cases {offset : Option Int} {state : State} {fragment : List Char}
    {found : Option Post} (read : (readFragment offset state fragment).1.outcome = .ok found) :
    (∃ wall start, bannerIn? fragment = some wall ∧ utteranceIn? fragment = none ∧
        wall.localize offset = .ok start ∧ found = none ∧
        (readFragment offset state fragment).2 = { state with clock := some start }) ∨
      bannerIn? fragment = none ∧
        ((utteranceIn? fragment = none ∨ state.clock = none) ∧ found = none ∧
            (readFragment offset state fragment).2 = state ∨
          ∃ utterance clock later, utteranceIn? fragment = some utterance ∧
            state.clock = some clock ∧ clock.later? microsPerMinute = some later ∧
            found = some (utterance.post state.nextId clock) ∧
            (readFragment offset state fragment).2 = ⟨some later, state.nextId + 1⟩) := by
  have step := fragmentRead offset state fragment
  generalize readFragment offset state fragment = answer at read step ⊢
  obtain ⟨entry, after⟩ := answer
  cases step with
  | broken | unplaced | late => cases read
  | plain unannounced unsaid =>
      obtain rfl := Except.ok.inj read
      exact .inr ⟨unannounced, .inl ⟨.inl unsaid, rfl, rfl⟩⟩
  | started announced unsaid placed =>
      obtain rfl := Except.ok.inj read
      exact .inl ⟨_, _, announced, unsaid, placed, rfl, rfl⟩
  | early unannounced _ waiting =>
      obtain rfl := Except.ok.inj read
      exact .inr ⟨unannounced, .inl ⟨.inr waiting, rfl, rfl⟩⟩
  | spoken unannounced said running moved =>
      obtain rfl := Except.ok.inj read
      exact .inr ⟨unannounced, .inr ⟨_, _, _, said, running, moved, rfl, rfl⟩⟩

/-- A post is what its fragment says, with the number and the time that were carried. -/
theorem utteranceIn?_of_post {offset : Option Int} {state : State} {fragment : List Char}
    {post : Post} (given : (readFragment offset state fragment).1.outcome = .ok (some post)) :
    ∃ utterance clock, utteranceIn? fragment = some utterance ∧ state.clock = some clock ∧
      post = utterance.post state.nextId clock := by
  rcases readFragment_cases given with ⟨_, _, -, -, -, none, -⟩ |
    ⟨-, ⟨-, none, -⟩ | ⟨utterance, clock, _, said, running, -, same, -⟩⟩
  · cases none
  · cases none
  · exact ⟨utterance, clock, said, running, Option.some.inj same⟩

theorem readFragments_cons (offset : Option Int) (state : State) (fragment : List Char)
    (rest : List (List Char)) :
    readFragments offset state (fragment :: rest) =
      (readFragment offset state fragment).1 ::
        readFragments offset (readFragment offset state fragment).2 rest := rfl

section Step

variable {offset : Option Int} {fragments : List (List Char)} {entries : List Entry}
  {state : State} {fragment : List Char}

/-- The clock behind a fragment that is no banner. -/
theorem clockAfter_concat (length : entries.length = fragments.length)
    (plain : bannerIn? fragment = none) (entry : Entry) (time : Timestamp) :
    ClockAfter offset (fragments ++ [fragment]) (entries ++ [entry]) time ↔
      ∃ earlier, ClockAfter offset fragments entries earlier ∧
        earlier.later? ((posts [entry]).length * microsPerMinute) = some time := by
  have since {place : Nat} {wall : WallTime} (last : latestBanner? fragments = some (place, wall)) :
      ((posts ((entries ++ [entry]).drop (place + 1))).length : Int) * microsPerMinute =
        (posts (entries.drop (place + 1))).length * microsPerMinute +
          (posts [entry]).length * microsPerMinute := by
    have within : place + 1 ≤ entries.length := by
      rw [length]
      exact lt_length_of_latestBanner? last
    rw [List.drop_append_of_le_length within, posts_append, List.length_append, Int.natCast_add,
      Int.add_mul]
  have minutes (count : Nat) : 0 ≤ (count : Int) * microsPerMinute :=
    Int.mul_nonneg (Int.natCast_nonneg count) (by decide)
  simp only [ClockAfter, latestBanner?_concat, plain, Option.map_none, Option.none_or]
  constructor
  · rintro ⟨place, wall, start, last, placed, moved⟩
    rw [since last, Timestamp.later?_add _ (minutes _) (minutes _)] at moved
    obtain ⟨earlier, before, further⟩ := Option.bind_eq_some_iff.mp moved
    exact ⟨earlier, ⟨place, wall, start, last, placed, before⟩, further⟩
  · rintro ⟨earlier, ⟨place, wall, start, last, placed, before⟩, further⟩
    refine ⟨place, wall, start, last, placed, ?_⟩
    rw [since last, Timestamp.later?_add _ (minutes _) (minutes _), before, Option.bind_some,
      further]

/-- The clock behind a banner is what the banner announces. -/
theorem clockAfter_banner (length : entries.length = fragments.length) {wall : WallTime}
    (banner : bannerIn? fragment = some wall) {start : Timestamp}
    (placed : wall.localize offset = .ok start) (entry : Entry) (time : Timestamp) :
    ClockAfter offset (fragments ++ [fragment]) (entries ++ [entry]) time ↔ start = time := by
  have last : latestBanner? (fragments ++ [fragment]) = some (fragments.length, wall) := by
    rw [latestBanner?_concat, banner]
    rfl
  have since : posts ((entries ++ [entry]).drop (fragments.length + 1)) = [] := by
    rw [List.drop_of_length_le (by simp [length])]
    rfl
  constructor
  · rintro ⟨place, _, begun, latest, begins, moved⟩
    obtain ⟨rfl, rfl⟩ := Prod.mk.inj (Option.some.inj (last.symm.trans latest))
    obtain rfl := Except.ok.inj (placed.symm.trans begins)
    rw [since, List.length_nil, Int.natCast_zero, Int.zero_mul, Timestamp.later?_zero] at moved
    exact Option.some.inj moved
  · rintro rfl
    refine ⟨fragments.length, wall, start, last, placed, ?_⟩
    rw [since, List.length_nil, Int.natCast_zero, Int.zero_mul, Timestamp.later?_zero]

/-- A fragment that is read without a fault is counted if it is a post, and it is a post if it
says something behind a banner. -/
theorem readFragment_counts (counts : state.Counts offset fragments entries) {found : Option Post}
    (read : (readFragment offset state fragment).1.outcome = .ok found) :
    (readFragment offset state fragment).2.Counts offset (fragments ++ [fragment])
        (entries ++ [(readFragment offset state fragment).1]) ∧
      ∀ post, found = some post ↔ ∃ utterance time, utteranceIn? fragment = some utterance ∧
        ClockAfter offset fragments entries time ∧
        post = utterance.post ((posts entries).length + 1) time := by
  obtain ⟨length, nextId, clock⟩ := counts
  have longer (entry : Entry) : (entries ++ [entry]).length = (fragments ++ [fragment]).length := by
    rw [List.length_append, List.length_append, length]
    rfl
  have given : posts [(readFragment offset state fragment).1] = found.toList := by
    simp only [posts, List.filterMap_cons, List.filterMap_nil, read]
    cases found <;> rfl
  rcases readFragment_cases read with
    ⟨wall, start, banner, unsaid, placed, rfl, later⟩ |
      ⟨plain, ⟨mute, rfl, same⟩ | ⟨utterance, time, later, said, running, moved, rfl, next⟩⟩
  · -- A banner sets the clock.
    refine ⟨⟨longer _, ?_, fun time => ?_⟩, fun post => ?_⟩
    · rw [later, posts_append, given, Option.toList_none, List.append_nil]
      exact nextId
    · rw [later, clockAfter_banner length banner placed]
      exact Option.some_inj
    · simp [unsaid]
  · -- Anything that is passed over leaves everything as it is.
    refine ⟨⟨longer _, ?_, fun time => ?_⟩, fun post => ?_⟩
    · rw [same, posts_append, given, Option.toList_none, List.append_nil]
      exact nextId
    · rw [same, clock, clockAfter_concat length plain, given]
      simp [Timestamp.later?_zero]
    · rcases mute with unsaid | stopped
      · simp [unsaid]
      · have waiting (time : Timestamp) : ¬ClockAfter offset fragments entries time := by
          rw [← clock, stopped]
          exact (Option.some_ne_none time).symm
        simp [waiting]
  · -- A post takes a number and a minute.
    have only (other : Timestamp) : ClockAfter offset fragments entries other ↔ time = other := by
      rw [← clock, running, Option.some_inj]
    refine ⟨⟨longer _, ?_, fun other => ?_⟩, fun post => ?_⟩
    · rw [next, posts_append, given, nextId]
      simp
    · rw [next, clockAfter_concat length plain, given]
      simp [only, moved]
    · rw [Option.some_inj, said, nextId]
      simp [only, eq_comm]

/-- Fragments that are all read are read one after another, and each counts behind those before
it. -/
theorem readFragments_counts (counts : state.Counts offset fragments entries)
    {before after : List (List Char)}
    (calm : ∀ entry ∈ readFragments offset state (before ++ fragment :: after),
      ∃ found, entry.outcome = .ok found) :
    ∃ later found,
      later.Counts offset (fragments ++ before) (entries ++
        (readFragments offset state (before ++ fragment :: after)).take before.length) ∧
      (readFragments offset state (before ++ fragment :: after))[before.length]? =
        some (readFragment offset later fragment).1 ∧
      (readFragment offset later fragment).1.outcome = .ok found := by
  induction before generalizing state fragments entries with
  | nil =>
      obtain ⟨found, read⟩ := calm _ List.mem_cons_self
      refine ⟨state, found, ?_, rfl, read⟩
      rw [List.length_nil, List.take_zero, List.append_nil, List.append_nil]
      exact counts
  | cons first before ih =>
      rw [List.cons_append, readFragments_cons] at calm ⊢
      obtain ⟨found, read⟩ := calm _ List.mem_cons_self
      obtain ⟨later, found, counted, here, read⟩ :=
        ih (readFragment_counts counts read).1 fun entry member =>
          calm entry (List.mem_cons_of_mem _ member)
      rw [List.append_assoc, List.singleton_append, List.append_assoc,
        List.singleton_append] at counted
      exact ⟨later, found, counted, here, read⟩

/-- The posts of fragments that are all read are numbered one after another. -/
theorem posts_readFragments_id (calm : ∀ entry ∈ readFragments offset state fragments,
      ∃ found, entry.outcome = .ok found) {place : Nat} {post : Post}
    (given : (posts (readFragments offset state fragments))[place]? = some post) :
    post.id = toString (state.nextId + place) := by
  induction fragments generalizing state place with
  | nil => simp [readFragments, posts] at given
  | cons fragment rest ih =>
      rw [readFragments_cons] at calm given
      obtain ⟨found, read⟩ := calm _ List.mem_cons_self
      have ih {place : Nat} := @ih _ (fun entry member =>
        calm entry (List.mem_cons_of_mem _ member)) place
      have split : posts ((readFragment offset state fragment).1 ::
            readFragments offset (readFragment offset state fragment).2 rest) =
          found.toList ++
            posts (readFragments offset (readFragment offset state fragment).2 rest) := by
        simp only [posts, List.filterMap_cons, read]
        cases found <;> rfl
      rw [split] at given
      rcases readFragment_cases read with
        ⟨wall, start, -, -, -, rfl, next⟩ |
          ⟨-, ⟨-, rfl, next⟩ | ⟨utterance, time, after, -, -, -, rfl, next⟩⟩
      · rw [ih given, next]
      · rw [ih given, next]
      · cases place with
        | zero =>
            obtain rfl := Option.some.inj given
            rfl
        | succ place =>
            rw [ih given, next, Nat.add_assoc, Nat.add_comm 1]

end Step

/-- **Posts are numbered from one, and are a minute apart behind each banner.** In a log that is
read without a fault, a fragment becomes a post exactly when it says something behind a banner;
its time is that of the latest banner and a minute for each post since, and its number is one
more than the count of posts before it. -/
theorem read_numbered {offset : Option Int} {lines : List (List Char)}
    (calm : ∀ entry ∈ read offset lines, ∃ found, entry.outcome = .ok found) :
    (∀ (place : Nat) (post : Post), (posts (read offset lines))[place]? = some post →
      post.id = toString (place + 1)) ∧
    ∀ before fragment after, fragments lines = before ++ fragment :: after →
      ∃ entry, (read offset lines)[before.length]? = some entry ∧
        ∀ post, entry.outcome = .ok (some post) ↔
          ∃ utterance time, utteranceIn? fragment = some utterance ∧
            ClockAfter offset before ((read offset lines).take before.length) time ∧
            post = utterance.post
              ((posts ((read offset lines).take before.length)).length + 1) time := by
  refine ⟨fun place post given => ?_, fun before fragment after cut => ?_⟩
  · rw [posts_readFragments_id calm given, Nat.add_comm]
    rfl
  · rw [read, cut] at calm ⊢
    obtain ⟨later, found, counts, here, outcome⟩ :=
      readFragments_counts (State.start_counts offset) calm
    rw [List.nil_append, List.nil_append] at counts
    refine ⟨_, here, fun post => ?_⟩
    rw [outcome, Except.ok.injEq, (readFragment_counts counts outcome).2 post]

/-- A banner, a message, an announcement that is no chat, and a second message. -/
def bannerLine : List Char := "<b>Chat log started at 14.3.2021 / 19:02:00</b><br />".toList
def firstLine : List Char := "<font>Gandalf: You shall not pass!</font><br />".toList
def announcedLine : List Char := "<font>Party: Party taking long rest.</font><br />".toList
def secondLine : List Char := "<font>Sam: Mister Frodo!</font><br />".toList
def sessionLines : List (List Char) := [bannerLine, firstLine, announcedLine, secondLine]

/-- The announcement takes neither the second number nor a minute. -/
theorem read_numbered_session :
    (∀ entry ∈ read none sessionLines, ∃ found, entry.outcome = .ok found) ∧
    (∀ (place : Nat) (post : Post), (posts (read none sessionLines))[place]? = some post →
      post.id = toString (place + 1)) ∧
    ∃ entry, ∃ post : Post, ∃ wall start, (read none sessionLines)[3]? = some entry ∧
      entry.outcome = .ok (some post) ∧ post.id = "2" ∧ bannerIn? bannerLine = some wall ∧
      wall.localize none = .ok start ∧ start.later? microsPerMinute = some post.time := by
  have evaluated :
      (∀ entry ∈ read none sessionLines, faultOf? entry.outcome = none) ∧
      ((read none sessionLines)[3]?.bind fun entry => entry.outcome.toOption.join).isSome = true ∧
      fragments sessionLines = sessionLines ∧
      (posts ((read none sessionLines).take 3)).length = 1 ∧
      (posts (((read none sessionLines).take 3).drop 1)).length = 1 ∧
      latestBanner? (sessionLines.take 3) = (bannerIn? bannerLine).map (0, ·) := by decide +kernel
  obtain ⟨quiet, given, cut, before, since, banner⟩ := evaluated
  have calm : ∀ entry ∈ read none sessionLines, ∃ found, entry.outcome = .ok found :=
    fun entry member => faultOf?_eq_none.mp (quiet entry member)
  obtain ⟨numbered, timed⟩ := read_numbered calm
  obtain ⟨entry, here, posted⟩ := timed (sessionLines.take 3) secondLine [] cut
  rw [show (sessionLines.take 3).length = 3 from rfl] at here posted
  rw [here, Option.bind_some] at given
  obtain ⟨post, outcome⟩ := exists_post_of_isSome given
  obtain ⟨utterance, time, -, ⟨place, wall, start, latest, placed, moved⟩, rfl⟩ :=
    (posted post).mp outcome
  rw [banner] at latest
  obtain ⟨announced, told, same⟩ := Option.map_eq_some_iff.mp latest
  obtain ⟨rfl, rfl⟩ := Prod.mk.inj same
  rw [since, Int.natCast_one, Int.one_mul] at moved
  exact ⟨calm, numbered, entry, _, announced, start, here, outcome,
    congrArg (fun number => LooseText.text (toString (number + 1))) before, told, placed, moved⟩

end FantasyGrounds

end Transcript

end DiceLedger
