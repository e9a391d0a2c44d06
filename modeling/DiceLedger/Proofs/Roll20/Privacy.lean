import DiceLedger.Proofs.Roll20.CarryForward

/-! # Entries that not everybody may read

An entry that not everybody may read gives its name and its stamp to those behind it, and nothing
else: two archives that differ in nothing but what such entries hold are read into the same posts,
and none of those comes from such an entry
(`DiceLedger.Transcript.Roll20.readFragments_sameForAll`).
-/

namespace DiceLedger

namespace Transcript

namespace Roll20

open Markup (Node)

/-- The name and the stamp in an entry that not everybody may read. -/
def hiddenIn? (fragment : List Char) : Option (Option (List Char) × Option (List Char)) :=
  (messageIn? fragment).bind fun found =>
    if isPrivate found.1 then some (senderName? found.1, stampText? found.1) else none

/-- Two fragments that are the same, or that not everybody may read and that have the same name
and the same stamp. -/
def SameForAll (first second : List Char) : Prop :=
  first = second ∨ ∃ told, hiddenIn? first = some told ∧ hiddenIn? second = some told

theorem hiddenIn?_eq_some {fragment : List Char} {name stamp : Option (List Char)} :
    hiddenIn? fragment = some (name, stamp) ↔
      ∃ message id, messageIn? fragment = some (message, id) ∧ isPrivate message = true ∧
        senderName? message = name ∧ stampText? message = stamp := by
  simp [hiddenIn?, Option.bind_eq_some_iff]

/-- Of a message that not everybody may read, nothing counts but its name and its stamp. -/
theorem readMessage_hidden {message other : Node} (hidden : isPrivate message = true)
    (otherHidden : isPrivate other = true) (name : senderName? message = senderName? other)
    (stamp : stampText? message = stampText? other) (offset : Option Int) (carried : Carried)
    (id otherId : String) :
    readMessage offset carried message id = readMessage offset carried other otherId := by
  have sender : carried.withSender message = carried.withSender other := by
    rw [Carried.withSender, Carried.withSender, name]
  have time (carried : Carried) :
      carried.withTime offset message = carried.withTime offset other := by
    rw [Carried.withTime, Carried.withTime, stamp]
  simp only [readMessage, hidden, otherHidden, ↓reduceIte, sender, time]

/-- One step: the same entry, and the same carried on. -/
theorem readFragment_sameForAll {first second : List Char} (same : SameForAll first second)
    (offset : Option Int) (carried : Carried) :
    readFragment offset carried first = readFragment offset carried second := by
  rcases same with rfl | ⟨⟨name, stamp⟩, told, otherTold⟩
  · rfl
  · obtain ⟨message, id, held, hidden, named, stamped⟩ := hiddenIn?_eq_some.mp told
    obtain ⟨other, otherId, otherHeld, otherHidden, otherNamed, otherStamped⟩ :=
      hiddenIn?_eq_some.mp otherTold
    rw [readFragment_of_message held, readFragment_of_message otherHeld]
    exact readMessage_hidden hidden otherHidden (named.trans otherNamed.symm)
      (stamped.trans otherStamped.symm) offset carried id otherId

/-- A post comes from a message with its identifier, and everybody may read that message. -/
theorem messageIn?_of_post {offset : Option Int} {carried : Carried} {fragment : List Char}
    {post : Post} (read : (readFragment offset carried fragment).1.outcome = .ok (some post)) :
    ∃ message id, messageIn? fragment = some (message, id) ∧ post.id = id ∧
      isPrivate message = false := by
  obtain ⟨message, id, name, time, rolls, held, shared, -, -, -, made⟩ := readFragment_eq_post read
  obtain ⟨-, -, same, -⟩ := messagePost_eq_some made
  exact ⟨message, id, held, same, shared⟩

/-- **What not everybody may read does not flow into posts.** Of two runs of fragments that
differ in nothing but the content of entries that not everybody may read, their names and stamps
apart, every entry is the same, with its notices, and so is every post; and a post comes from a
message that everybody may read. -/
theorem readFragments_sameForAll (offset : Option Int) (carried : Carried)
    {first second : List (List Char)} (same : List.Forall₂ SameForAll first second) :
    readFragments offset carried first = readFragments offset carried second ∧
      drain (readFragments offset carried first) = drain (readFragments offset carried second) ∧
      ∀ (place : Nat) (entry : Entry) (post : Post),
        (readFragments offset carried first)[place]? = some entry →
          entry.outcome = .ok (some post) →
            ∃ fragment message id, first[place]? = some fragment ∧
              messageIn? fragment = some (message, id) ∧ post.id = id ∧
                isPrivate message = false := by
  have entries (carried : Carried) :
      readFragments offset carried first = readFragments offset carried second := by
    induction same generalizing carried with
    | nil => rfl
    | cons step _ ih =>
        simp only [readFragments, readFragment_sameForAll step, ih]
  refine ⟨entries carried, congrArg drain (entries carried), ?_⟩
  intro place entry post here read
  obtain ⟨fragment, earlier, there, rfl⟩ := exists_readFragment_of_getElem? here
  obtain ⟨message, id, held, same, shared⟩ := messageIn?_of_post read
  exact ⟨fragment, message, id, there, held, same, shared⟩

/-- A whisper with a full stamp, and an entry for everybody with a bare time. -/
def whispered (body : String) : List Char :=
  "<div class='message whisper' data-messageid=1><b class=tstamp>May 1, 2021 7:00PM</b>".toList ++
    body.toList ++ "</div>".toList
def saidAloud : List Char :=
  "<div class='message general' data-messageid=2><b class=tstamp>7:01PM</b>".toList ++
    "<b class=by>A</b>hi".toList

/-- What is whispered makes no difference to the post behind the whisper. -/
theorem readFragments_sameForAll_whispered :
    List.Forall₂ SameForAll [whispered "psst", saidAloud]
        [whispered "<b class=rolled>7</b>", saidAloud] ∧
      readFragments none .start [whispered "psst", saidAloud] =
        readFragments none .start [whispered "<b class=rolled>7</b>", saidAloud] ∧
      drain (readFragments none .start [whispered "psst", saidAloud]) =
        drain (readFragments none .start [whispered "<b class=rolled>7</b>", saidAloud]) ∧
      (posts (readFragments none .start [whispered "psst", saidAloud])).map (·.id) =
        [.text "2"] := by
  have told : hiddenIn? (whispered "psst") = some (none, some "May 1, 2021 7:00PM".toList) ∧
      hiddenIn? (whispered "<b class=rolled>7</b>") =
        some (none, some "May 1, 2021 7:00PM".toList) ∧
      (posts (readFragments none .start [whispered "psst", saidAloud])).map (·.id) =
        [.text "2"] := by
    decide +kernel
  obtain ⟨first, second, given⟩ := told
  have same : List.Forall₂ SameForAll [whispered "psst", saidAloud]
      [whispered "<b class=rolled>7</b>", saidAloud] :=
    .cons (.inr ⟨_, first, second⟩) (.cons (.inl rfl) .nil)
  obtain ⟨entries, drained, -⟩ := readFragments_sameForAll none .start same
  exact ⟨same, entries, drained, given⟩

end Roll20

end Transcript

end DiceLedger
