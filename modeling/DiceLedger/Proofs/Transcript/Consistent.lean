import DiceLedger.Proofs.Calendar.Local
import DiceLedger.Proofs.FantasyGrounds.Numbering
import DiceLedger.Proofs.Foundry.Rolls
import DiceLedger.Proofs.Roll20.CarryForward
import DiceLedger.Transcript.Format

/-! # Posts are consistent

Every reader tells messages from rolls by a way of its own, and has its times from elsewhere: the
records of one carry them, a clock runs in another, and the third carries them from entry to
entry. Whichever reads a transcript, a post is a message exactly when it has no rolls, and its
time is universal (`DiceLedger.Transcript.posts_consistent`).
-/

namespace DiceLedger

/-- A post is a message or has rolls, and has a universal time. -/
structure Post.Consistent (post : Post) : Prop where
  message : post.isMessage = true ↔ post.rolls = []
  universal : post.time.offset = some 0

namespace Transcript

namespace Foundry

/-- A record is read as a post whose parts belong together. -/
theorem consistent_of_readRecord {record : Json} {post : Post}
    (read : readRecord record = .ok (some post)) : post.Consistent := by
  obtain ⟨-, message, millis, placed⟩ := readRecord_eq_post read
  exact ⟨message, Timestamp.offset_of_ofEpochMillis placed⟩

/-- The post of a line is the post of the record in it. -/
theorem exists_record_of_readLine {line : List Char} {post : Post}
    (given : (readLine line).outcome = .ok (some post)) :
    ∃ record, Json.read (Text.trim line) = .ok record ∧ readRecord record = .ok (some post) := by
  unfold readLine at given
  dsimp only at given
  split at given
  · cases given
  split at given
  · cases given
  · cases given
  · cases given
  · next fields written =>
    split at given
    · next other read =>
      obtain rfl := Option.some.inj (Except.ok.inj given)
      exact ⟨_, written, read⟩
    · cases given
    · split at given
      · cases given
      · cases given
  · cases given

/-- The posts of a log of records have parts that belong together. -/
theorem consistent_of_mem_read {lines : List (List Char)} :
    ∀ post ∈ posts (read lines), post.Consistent := by
  intro post member
  obtain ⟨entry, held, given⟩ := mem_posts.mp member
  obtain ⟨line, -, rfl⟩ := List.mem_map.mp held
  obtain ⟨record, -, read⟩ := exists_record_of_readLine given
  exact consistent_of_readRecord read

end Foundry

namespace Roll20

/-- The time that is carried is universal. -/
def Carried.Universal (carried : Carried) : Prop :=
  ∀ time, carried.time = some time → time.offset = some 0

/-- The time of an entry is universal if the one that is carried is. -/
theorem Carried.Universal.withTime {carried later : Carried} (universal : carried.Universal)
    {offset : Option Int} {message : Markup.Node} {notices : List Notice}
    (timed : (carried.withSender message).withTime offset message = .ok (notices, later)) :
    later.Universal := by
  have stays : (carried.withSender message).Universal := by
    intro time held
    rw [Carried.withSender_time] at held
    exact universal time held
  rcases Carried.withTime_cases timed with ⟨rfl, -⟩ | ⟨_, time, -, placed, rfl⟩
  · exact stays
  · rintro _ ⟨⟩
    exact WallTime.offset_of_localize placed

/-- A fragment is read as a post whose parts belong together, and carries a universal time on. -/
theorem readFragment_consistent {offset : Option Int} {carried : Carried}
    (universal : carried.Universal) {fragment : List Char} {found : Option Post}
    (read : (readFragment offset carried fragment).1.outcome = .ok found) :
    (readFragment offset carried fragment).2.Universal ∧ ∀ post ∈ found, post.Consistent := by
  have later : (readFragment offset carried fragment).2.Universal := by
    cases held : messageIn? fragment with
    | none => rwa [(readFragment_of_no_message held offset carried).1]
    | some found =>
        obtain ⟨message, id⟩ := found
        rw [readFragment_of_message held] at read ⊢
        obtain ⟨notices, later, timed, same, -⟩ := readMessage_eq_ok read
        exact same ▸ universal.withTime timed
  refine ⟨later, ?_⟩
  rintro post rfl
  obtain ⟨_, _, _, time, _, -, -, -, stamped, -, made⟩ := readFragment_eq_post read
  obtain ⟨-, rfl, -, -, message⟩ := messagePost_eq_some made
  exact ⟨message, later _ stamped⟩

/-- The posts of a log have parts that belong together. -/
theorem consistent_of_mem_readFragments {offset : Option Int} {carried : Carried}
    (universal : carried.Universal) {fragments : List (List Char)} :
    ∀ post ∈ posts (readFragments offset carried fragments), post.Consistent := by
  induction fragments generalizing carried with
  | nil => exact fun _ member => (List.not_mem_nil member).elim
  | cons fragment rest ih =>
      intro post member
      cases outcome : (readFragment offset carried fragment).1.outcome with
      | error fault =>
          simp only [readFragments, outcome] at member
          obtain ⟨entry, only, given⟩ := mem_posts.mp member
          obtain rfl := List.mem_singleton.mp only
          rw [outcome] at given
          cases given
      | ok found =>
          simp only [readFragments, outcome] at member
          obtain ⟨later, consistent⟩ := readFragment_consistent universal outcome
          rw [posts_cons_of_ok outcome] at member
          rcases List.mem_append.mp member with here | there
          · exact consistent post (Option.mem_toList.mp here)
          · exact ih later post there

end Roll20

namespace FantasyGrounds

/-- The clock shows universal time. -/
def State.Universal (state : State) : Prop :=
  ∀ clock, state.clock = some clock → clock.offset = some 0

/-- A fragment leaves the clock universal. -/
theorem readFragment_universal {offset : Option Int} {state : State} (universal : state.Universal)
    (fragment : List Char) : (readFragment offset state fragment).2.Universal := by
  have step := fragmentRead offset state fragment
  generalize readFragment offset state fragment = answer at step ⊢
  obtain ⟨entry, after⟩ := answer
  cases step with
  | broken | plain | unplaced | early | late => exact universal
  | started _ _ placed =>
      rintro _ ⟨⟩
      exact WallTime.offset_of_localize placed
  | spoken _ _ running moved =>
      rintro _ ⟨⟩
      rw [Timestamp.offset_of_later? moved]
      exact universal _ running

/-- The post of an utterance has parts that belong together. -/
theorem Utterance.consistent_post (utterance : Utterance) (id : Nat) {time : Timestamp}
    (universal : time.offset = some 0) : (utterance.post id time).Consistent where
  message := by
    simp only [Utterance.post]
    cases utterance.roll with
    | none => exact iff_of_true rfl rfl
    | some roll => exact iff_of_false Bool.false_ne_true (List.cons_ne_nil _ _)
  universal := universal

/-- The posts of a log have parts that belong together. -/
theorem consistent_of_mem_readFragments {offset : Option Int} {state : State}
    (universal : state.Universal) {fragments : List (List Char)} :
    ∀ post ∈ posts (readFragments offset state fragments), post.Consistent := by
  induction fragments generalizing state with
  | nil => exact fun _ member => (List.not_mem_nil member).elim
  | cons fragment rest ih =>
      intro post member
      rw [readFragments_cons] at member
      obtain ⟨entry, held, given⟩ := mem_posts.mp member
      rcases List.mem_cons.mp held with rfl | later
      · obtain ⟨utterance, clock, -, running, rfl⟩ := utteranceIn?_of_post given
        exact utterance.consistent_post state.nextId (universal clock running)
      · exact ih (readFragment_universal universal fragment) post
          (mem_posts.mpr ⟨entry, later, given⟩)

end FantasyGrounds

/-- **Posts are consistent, whichever reader they come from.** A post is a message exactly when it
has no rolls, and its time is universal. The rolls of a post that is read from a Foundry record
are those that its payloads show, one for each. -/
theorem posts_consistent :
    (∀ (format : Format) (offset : Option Int) (lines : List (List Char)),
      ∀ post ∈ posts (format.read offset lines), post.Consistent) ∧
    ∀ record post, Foundry.readRecord record = .ok (some post) →
      post.Consistent ∧
        ∃ payloads, Foundry.Payloads record payloads ∧
          List.Forall₂ Foundry.RollShows payloads post.rolls := by
  refine ⟨?_, ?_⟩
  · intro format offset lines
    cases format with
    | foundry => exact Foundry.consistent_of_mem_read
    | roll20 =>
        apply Roll20.consistent_of_mem_readFragments
        rintro _ ⟨⟩
    | fantasyGrounds =>
        apply FantasyGrounds.consistent_of_mem_readFragments
        rintro _ ⟨⟩
  · intro record post read
    exact ⟨Foundry.consistent_of_readRecord read, (Foundry.readRecord_eq_post read).1⟩

/-- A record with a roll that is written as text, and one without dice. -/
def rolledRecord : Json :=
  let written :=
    "\x7b\"formula\":\"2d6 + 1d8\",\"total\":9,\"terms\":[\x7b\"class\":\"Die\",\"faces\":6," ++
      "\"results\":[\x7b\"result\":4\x7d,\x7b\"result\":3\x7d]\x7d," ++
      "\x7b\"class\":\"OperatorTerm\"\x7d,\x7b\"class\":\"Die\",\"faces\":8," ++
      "\"results\":[\x7b\"result\":2\x7d]\x7d]\x7d"
  .object
    [("_id", "a"), ("speaker", .object [("alias", "Ada")]), ("timestamp", .integer 0),
      ("rolls", .array [written, .object [("formula", "3"), ("total", .integer 3)]])]

/-- A record that says something, on a line. -/
def spokenLine : List Char :=
  ("\x7b\"_id\":\"b\",\"speaker\":\x7b\"alias\":\"Ada\"\x7d,\"timestamp\":0," ++
    "\"content\":\"hello\"\x7d").toList

/-- A record that says something, and one with two rolls. -/
theorem posts_consistent_of_rolled :
    (∃ post ∈ posts (Format.read .foundry none [spokenLine]), post.Consistent) ∧
    ∃ post payloads, Foundry.readRecord rolledRecord = .ok (some post) ∧
      post.rolls.map (·.dice) = [[⟨6, 4⟩, ⟨6, 3⟩, ⟨8, 2⟩], []] ∧
      Foundry.Payloads rolledRecord payloads ∧
      List.Forall₂ Foundry.RollShows payloads post.rolls := by
  refine ⟨?_, ?_⟩
  · have some : 0 < (posts (Format.read .foundry none [spokenLine])).length := by decide +kernel
    obtain ⟨post, member⟩ := List.exists_mem_of_length_pos some
    exact ⟨post, member, posts_consistent.1 .foundry none [spokenLine] post member⟩
  · have told : ((Foundry.readRecord rolledRecord).toOption.join.map fun post =>
        post.rolls.map (·.dice)) = some [[⟨6, 4⟩, ⟨6, 3⟩, ⟨8, 2⟩], []] := by
      decide +kernel
    obtain ⟨post, found, dice⟩ := Option.map_eq_some_iff.mp told
    have read : Foundry.readRecord rolledRecord = .ok (some post) := by
      cases result : Foundry.readRecord rolledRecord with
      | error fault => rw [result] at found; cases found
      | ok given => rw [result] at found; exact congrArg Except.ok found
    obtain ⟨-, payloads, listed, shown⟩ := posts_consistent.2 rolledRecord post read
    exact ⟨post, payloads, read, dice, listed, shown⟩

end Transcript

end DiceLedger
