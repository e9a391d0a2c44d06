import DiceLedger.Proofs.FantasyGrounds.Numbering

/-! # Faults of Fantasy Grounds logs

A fragment that is a fault leaves the clock as it was, and the number of the next post as well,
unless the clock stands in the last minute of the calendar: then the fragment says something,
becomes no post, and takes the number all the same
(`DiceLedger.Transcript.FantasyGrounds.readFragment_eq_error`). So the number of a post counts the
posts before it and the fragments at the end of the clock
(`DiceLedger.Transcript.FantasyGrounds.numbers_of_faulty_log`). -/

namespace DiceLedger

namespace Transcript

namespace FantasyGrounds

open Markup (Node)

variable {offset : Option Int} {state : State} {fragment : List Char}

/-- Whether an entry is the fault of a clock that the calendar does not hold any longer. -/
def endsClock (entry : Entry) : Bool := faultOf? entry.outcome = some .clockEnds

/-- What is said when the clock stands in the last minute of the calendar. -/
def SaidAtClockEnd (state : State) (fragment : List Char) : Prop :=
  ∃ utterance clock, utteranceIn? fragment = some utterance ∧ state.clock = some clock ∧
    clock.later? microsPerMinute = none

/-- What a fragment that is a fault leaves: everything as it was, unless the clock ends. -/
theorem readFragment_eq_error {fault : ReadFault}
    (read : (readFragment offset state fragment).1.outcome = .error fault) :
    fault ≠ .clockEnds ∧ (readFragment offset state fragment).2 = state ∨
      fault = .clockEnds ∧ SaidAtClockEnd state fragment ∧
        (readFragment offset state fragment).2 = { state with nextId := state.nextId + 1 } := by
  have step := fragmentRead offset state fragment
  generalize readFragment offset state fragment = answer at read step ⊢
  obtain ⟨entry, after⟩ := answer
  cases step with
  | plain | started | early | spoken => cases read
  | broken | unplaced =>
      obtain rfl := Except.error.inj read
      exact .inl ⟨ReadFault.noConfusion, rfl⟩
  | late said running ends =>
      obtain rfl := Except.error.inj read
      exact .inr ⟨rfl, ⟨_, _, said, running, ends⟩, rfl⟩

/-- What is said in the last minute of the calendar is a fault. -/
theorem SaidAtClockEnd.outcome (saidAtEnd : SaidAtClockEnd state fragment) :
    (readFragment offset state fragment).1.outcome = .error .clockEnds := by
  obtain ⟨utterance, clock, saying, running, ends⟩ := saidAtEnd
  have step := fragmentRead offset state fragment
  generalize readFragment offset state fragment = answer at step ⊢
  obtain ⟨entry, after⟩ := answer
  cases step with
  | late => rfl
  | broken parsed =>
      rw [utteranceIn?, parsed] at saying
      cases saying
  | plain _ unsaid | unplaced _ unsaid | started _ unsaid => cases unsaid.symm.trans saying
  | early _ _ waiting => cases waiting.symm.trans running
  | spoken _ _ going moved =>
      obtain rfl := Option.some.inj (going.symm.trans running)
      cases moved.symm.trans ends

/-- What an entry takes: a post takes a number, and the end of the clock does, too. -/
def numbersTaken (entries : List Entry) : Nat := (posts entries).length + entries.countP endsClock

/-- The numbers that are taken add up. -/
theorem numbersTaken_append (first later : List Entry) :
    numbersTaken (first ++ later) = numbersTaken first + numbersTaken later := by
  rw [numbersTaken, posts_append, List.length_append, List.countP_append]
  exact Nat.add_add_add_comm _ _ _ _

/-- An entry that is read takes a number if it is a post. -/
theorem numbersTaken_of_ok {entry : Entry} {found : Option Post}
    (outcome : entry.outcome = .ok found) : numbersTaken [entry] = found.toList.length := by
  have quiet : endsClock entry = false := by rw [endsClock, outcome]; rfl
  rw [numbersTaken, posts_cons_of_ok outcome, List.countP_singleton, quiet]
  exact congrArg List.length (List.append_nil _)

/-- An entry that is a fault takes a number if the clock has ended. -/
theorem numbersTaken_of_error {entry : Entry} {fault : ReadFault}
    (outcome : entry.outcome = .error fault) :
    numbersTaken [entry] = if fault = .clockEnds then 1 else 0 := by
  simp [numbersTaken, posts, endsClock, outcome, faultOf?]

/-- The counter moves by the numbers that were taken, and a post has the number before. -/
theorem readFragment_numbers (offset : Option Int) (state : State) (fragment : List Char) :
    (readFragment offset state fragment).2.nextId =
        state.nextId + numbersTaken [(readFragment offset state fragment).1] ∧
      ∀ post, (readFragment offset state fragment).1.outcome = .ok (some post) →
        post.id = toString state.nextId := by
  cases read : (readFragment offset state fragment).1.outcome with
  | error fault =>
      refine ⟨?_, fun _ given => nomatch given⟩
      rw [numbersTaken_of_error read]
      rcases readFragment_eq_error read with ⟨other, same⟩ | ⟨ends, -, same⟩
      · rw [same, if_neg other, Nat.add_zero]
      · rw [same, if_pos ends]
  | ok found =>
      rw [numbersTaken_of_ok read]
      rcases readFragment_cases read with
        ⟨wall, start, -, -, -, rfl, same⟩ |
          ⟨-, ⟨-, rfl, same⟩ | ⟨utterance, time, after, -, -, -, rfl, same⟩⟩
      · rw [same]
        exact ⟨rfl, fun _ given => nomatch given⟩
      · rw [same]
        exact ⟨rfl, fun _ given => nomatch given⟩
      · rw [same]
        exact ⟨rfl, fun _ given => Option.some.inj (Except.ok.inj given) ▸ rfl⟩

/-- The posts of a log that is read on behind every fault are numbered by what was taken before. -/
theorem readFragments_numbers {fragments : List (List Char)} {before after : List Entry}
    {entry : Entry} (read : readFragments offset state fragments = before ++ entry :: after)
    {post : Post} (given : entry.outcome = .ok (some post)) :
    post.id = toString (state.nextId + numbersTaken before) := by
  induction before generalizing state fragments with
  | nil =>
      cases fragments with
      | nil => cases read
      | cons fragment rest =>
          rw [readFragments_cons] at read
          obtain ⟨rfl, -⟩ := List.cons.inj read
          exact (readFragment_numbers offset state fragment).2 post given
  | cons first before ih =>
      cases fragments with
      | nil => cases read
      | cons fragment rest =>
          rw [readFragments_cons] at read
          obtain ⟨rfl, later⟩ := List.cons.inj read
          rw [ih later, (readFragment_numbers offset state fragment).1, Nat.add_assoc,
            ← numbersTaken_append]
          rfl

/-- **Faults keep the clock, and the end of the clock alone takes a number.** Whatever the state and
the fragment, a fault leaves the clock and the number of the next post as they were, unless the
fragment says something in the last minute of the calendar, which is then the fault and takes a
number. Over a whole log, read on behind every fault, the number of a post is one more than the
posts before it and the fragments that met the end of the clock. -/
theorem numbers_of_faulty_log (offset : Option Int) :
    (∀ (state : State) (fragment : List Char) (fault : ReadFault),
      (readFragment offset state fragment).1.outcome = .error fault →
      (readFragment offset state fragment).2.clock = state.clock ∧
      (fault = .clockEnds ↔ SaidAtClockEnd state fragment) ∧
      (readFragment offset state fragment).2.nextId =
        state.nextId + if fault = .clockEnds then 1 else 0) ∧
    ∀ (lines : List (List Char)) (before after : List Entry) (entry : Entry) (post : Post),
      read offset lines = before ++ entry :: after → entry.outcome = .ok (some post) →
      post.id = toString ((posts before).length + before.countP endsClock + 1) := by
  refine ⟨fun state fragment fault failed => ?_, fun lines before after entry post cut given => ?_⟩
  · rcases readFragment_eq_error failed with ⟨other, same⟩ | ⟨ends, said, same⟩
    · rw [same, if_neg other, Nat.add_zero]
      exact ⟨rfl, iff_of_false other fun said =>
        other (Except.error.inj (failed.symm.trans said.outcome)), rfl⟩
    · rw [same, if_pos ends]
      exact ⟨rfl, iff_of_true ends said, rfl⟩
  · rw [readFragments_numbers cut given, Nat.add_comm]
    rfl

/-- A banner of the last minute of the calendar. -/
def lateBannerLine : List Char :=
  "<b>Chat log started at 31.12.9999 / 23:59:00</b><br />".toList

def lateState : State := (readFragment none .start lateBannerLine).2

/-- A message in that minute, and one behind another banner. -/
def lateLines : List (List Char) := [lateBannerLine, secondLine, bannerLine, firstLine]

/-- The message of the last minute is a fault, and the other has the second number. -/
theorem numbers_of_faulty_log_late :
    (readFragment none lateState secondLine).1.outcome = .error .clockEnds ∧
      (readFragment none lateState secondLine).2.clock = lateState.clock ∧
      (readFragment none lateState secondLine).2.nextId = 2 ∧
      ∃ before entry after, ∃ post : Post, read none lateLines = before ++ entry :: after ∧
        entry.outcome = .ok (some post) ∧ post.id = "2" := by
  have evaluated :
      faultOf? (readFragment none lateState secondLine).1.outcome = some .clockEnds ∧
      lateState.nextId = 1 ∧
      ((read none lateLines)[3]?.bind fun entry => entry.outcome.toOption.join).isSome = true ∧
      (posts ((read none lateLines).take 3)).length = 0 ∧
      ((read none lateLines).take 3).countP endsClock = 1 := by decide +kernel
  obtain ⟨failed, first, posted, none, one⟩ := evaluated
  have failed := faultOf?_eq_some.mp failed
  obtain ⟨faults, numbers⟩ := numbers_of_faulty_log Option.none
  obtain ⟨clock, -, next⟩ := faults lateState secondLine .clockEnds failed
  obtain ⟨entry, here⟩ := Option.isSome_iff_exists.mp (Option.isSome_of_isSome_bind posted)
  rw [here, Option.bind_some] at posted
  obtain ⟨post, given⟩ := exists_post_of_isSome posted
  obtain ⟨within, place⟩ := List.getElem?_eq_some_iff.mp here
  have cut : read .none lateLines =
      (read .none lateLines).take 3 ++ entry :: (read .none lateLines).drop 4 := by
    rw [← place, ← List.drop_eq_getElem_cons within, List.take_append_drop]
  have number := numbers _ _ _ _ post cut given
  rw [none, one] at number
  rw [if_pos rfl, first] at next
  exact ⟨failed, clock, next, _, entry, _, post, cut, given, number⟩

/-- A fragment that fails takes a number, and the only post of the log has the second one. -/
theorem late_message_takes_number :
    (∃ (state : State) (fragment : List Char) (fault : ReadFault),
      (readFragment none state fragment).1.outcome = .error fault ∧
      (readFragment none state fragment).2.nextId ≠ state.nextId) ∧
    (posts (read none lateLines)).map (·.id) = [.text "2"] := by
  have evaluated :
      faultOf? (readFragment none lateState secondLine).1.outcome = some .clockEnds ∧
      (readFragment none lateState secondLine).2.nextId ≠ lateState.nextId ∧
      (posts (read none lateLines)).map (·.id) = [.text "2"] := by decide +kernel
  obtain ⟨failed, taken, numbered⟩ := evaluated
  exact ⟨⟨lateState, secondLine, .clockEnds, faultOf?_eq_some.mp failed, taken⟩, numbered⟩

end FantasyGrounds

end Transcript

end DiceLedger
