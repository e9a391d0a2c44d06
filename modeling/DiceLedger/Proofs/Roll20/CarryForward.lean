import DiceLedger.Proofs.Roll20.Interruption
import DiceLedger.Proofs.Transcript.Latest

/-! # What entries of a Roll20 archive carry forward

A post has the name that the latest entry up to it gives to its sender, and the time that the
latest readable stamp tells; a bare time is one on the date of the latest full stamp. It makes
no difference which of those entries are posts themselves
(`DiceLedger.Transcript.Roll20.readFragments_carry`).
-/

namespace DiceLedger

namespace Transcript

namespace Roll20

open Markup (Node)

/-- The message of a fragment, with its identifier. -/
def messageIn? (fragment : List Char) : Option (Node × String) :=
  (Markup.parse fragment).toOption.bind message?

/-- The name that a fragment gives to its sender. -/
def nameIn? (fragment : List Char) : Option (List Char) :=
  (messageIn? fragment).bind fun found => senderName? found.1

/-- The stamp of a fragment. -/
def stampIn? (fragment : List Char) : Option (List Char) :=
  (messageIn? fragment).bind fun found => stampText? found.1

/-- What a full stamp in a fragment tells. -/
def fullStampIn? (fragment : List Char) : Option WallTime :=
  (stampIn? fragment).bind (Stamp.read? fullPattern)

/-- The date of the latest full stamp. -/
def latestDate? (fragments : List (List Char)) : Option Date :=
  (latest? (fun _ fragment => fullStampIn? fragment) fragments).map WallTime.date

/-- What a stamp tells: a full one by itself, and a bare time on the date that it belongs
to. -/
def toldOn? (date : Option Date) (text : List Char) : Option WallTime :=
  (Stamp.read? fullPattern text).or
    (date.bind fun day =>
      (Stamp.read? timePattern text).bind fun clock => WallTime.ofDate? day clock.microsOfDay)

/-- What the stamp of a fragment tells behind other fragments: a bare time is one on the date
of their latest full stamp. -/
def wallIn? (before : List (List Char)) (fragment : List Char) : Option WallTime :=
  (stampIn? fragment).bind (toldOn? (latestDate? before))

/-- The name that the latest fragment with a name gives to its sender. -/
def latestName? (fragments : List (List Char)) : Option (List Char) :=
  latest? (fun _ fragment => nameIn? fragment) fragments

/-- What the latest readable stamp tells. -/
def latestWall? (fragments : List (List Char)) : Option WallTime := latest? wallIn? fragments

/-- A fragment that holds a message is read as that message. -/
theorem readFragment_of_message {fragment : List Char} {message : Node} {id : String}
    (held : messageIn? fragment = some (message, id)) (offset : Option Int) (carried : Carried) :
    readFragment offset carried fragment = readMessage offset carried message id := by
  cases parsed : Markup.parse fragment with
  | error fault =>
      rw [messageIn?, parsed] at held
      cases held
  | ok nodes =>
      have present : message? nodes = some (message, id) := by
        rw [messageIn?, parsed] at held
        exact held
      simp only [readFragment, parsed, present]

/-- A fragment without a message is no post, and carries nothing on. -/
theorem readFragment_of_no_message {fragment : List Char} (absent : messageIn? fragment = none)
    (offset : Option Int) (carried : Carried) :
    (readFragment offset carried fragment).2 = carried ∧
      ∀ post, (readFragment offset carried fragment).1.outcome ≠ .ok (some post) := by
  cases parsed : Markup.parse fragment with
  | error fault =>
      have read : readFragment offset carried fragment = (.fault (.markup fault), carried) := by
        rw [readFragment, parsed]
      rw [read]
      refine ⟨rfl, fun post posted => ?_⟩
      cases posted
  | ok nodes =>
      have none : message? nodes = none := by
        rw [messageIn?, parsed] at absent
        exact absent
      have read : readFragment offset carried fragment = (.skipped, carried) := by
        simp only [readFragment, parsed, none]
      rw [read]
      exact ⟨rfl, fun _ posted => Option.some_ne_none _ (Except.ok.inj posted).symm⟩

/-- A name that is shown is not empty. -/
theorem senderName?_ne_nil {message : Node} {name : List Char}
    (named : senderName? message = some name) : name ≠ [] := by
  unfold senderName? at named
  split at named
  · cases named
  · dsimp only at named
    generalize Text.trim _ = written at named
    cases written with
    | nil => cases named
    | cons c rest =>
        obtain rfl := Option.some.inj named
        exact List.cons_ne_nil c rest

/-- The latest name is not empty. -/
theorem latestName?_ne_nil {fragments : List (List Char)} {name : List Char}
    (named : latestName? fragments = some name) : name ≠ [] := by
  obtain ⟨_, fragment, _, _, here, _⟩ := latest?_eq_some_iff.mp named
  obtain ⟨found, _, given⟩ := Option.bind_eq_some_iff.mp here
  exact senderName?_ne_nil given

/-- The latest name is that of the last fragment, or else the latest before. -/
theorem latestName?_concat (before : List (List Char)) (fragment : List Char) :
    latestName? (before ++ [fragment]) = (nameIn? fragment).or (latestName? before) :=
  latest?_concat before fragment

/-- The latest wall time is that of the last fragment, or else the latest before. -/
theorem latestWall?_concat (before : List (List Char)) (fragment : List Char) :
    latestWall? (before ++ [fragment]) = (wallIn? before fragment).or (latestWall? before) :=
  latest?_concat before fragment

/-- The latest date is that of the last fragment, or else the latest before. -/
theorem latestDate?_concat (before : List (List Char)) (fragment : List Char) :
    latestDate? (before ++ [fragment]) =
      ((fullStampIn? fragment).map WallTime.date).or (latestDate? before) := by
  rw [latestDate?, latest?_concat, latestDate?]
  cases fullStampIn? fragment <;> rfl

/-- What is carried behind fragments is what the latest of them say. -/
structure Carried.Latest (offset : Option Int) (fragments : List (List Char))
    (carried : Carried) : Prop where
  sender : carried.sender = latestName? fragments
  date : carried.date = latestDate? fragments
  time : ∀ time, carried.time = some time ↔
    ∃ wall, latestWall? fragments = some wall ∧ wall.localize offset = .ok time

/-- Before the first fragment nothing is the latest. -/
theorem Carried.start_latest (offset : Option Int) : Carried.start.Latest offset [] :=
  ⟨rfl, rfl, fun _ => by simp [Carried.start, latestWall?, latest?, latestBehind?]⟩

/-- A stamp either tells nothing, and is no full one, or what it tells is taken over, and with
it the date of a full stamp. -/
theorem stampTime_cases (date : Option Date) (text : List Char) :
    (∃ notice, stampTime date text = .error notice ∧ toldOn? date text = none ∧
        Stamp.read? fullPattern text = none) ∨
      ∃ wall, toldOn? date text = some wall ∧
        stampTime date text =
          .ok (wall, ((Stamp.read? fullPattern text).map WallTime.date).or date) := by
  unfold stampTime toldOn?
  cases Stamp.read? fullPattern text with
  | some wall => exact .inr ⟨wall, rfl, rfl⟩
  | none =>
      cases date with
      | none => exact .inl ⟨_, rfl, rfl, rfl⟩
      | some day =>
          simp only [Option.none_or, Option.bind_some, Option.map_none]
          cases (Stamp.read? timePattern text).bind fun clock =>
              WallTime.ofDate? day clock.microsOfDay with
          | none => exact .inl ⟨_, rfl, rfl, trivial⟩
          | some wall => exact .inr ⟨wall, rfl, rfl⟩

/-- A name that is shown takes the place of the one that is carried. -/
theorem Carried.withSender_sender (carried : Carried) (message : Node) :
    (carried.withSender message).sender = (senderName? message).or carried.sender := by
  unfold Carried.withSender
  cases senderName? message <;> rfl

theorem Carried.withSender_time (carried : Carried) (message : Node) :
    (carried.withSender message).time = carried.time := by
  unfold Carried.withSender
  cases senderName? message <;> rfl

/-- All that a message can do to the date and the time carried: without a readable stamp they
stay, and otherwise the time is the one that its stamp tells, and the date that of a full
stamp. -/
theorem Carried.withTime_cases {offset : Option Int} {carried later : Carried} {message : Node}
    {notices : List Notice} (timed : carried.withTime offset message = .ok (notices, later)) :
    (later = carried ∧ (stampText? message).bind (toldOn? carried.date) = none ∧
        (stampText? message).bind (Stamp.read? fullPattern) = none) ∨
      ∃ wall time, (stampText? message).bind (toldOn? carried.date) = some wall ∧
        wall.localize offset = .ok time ∧
        later = { carried with
          date := (((stampText? message).bind (Stamp.read? fullPattern)).map WallTime.date).or
            carried.date
          time := some time } := by
  unfold Carried.withTime at timed
  cases shown : stampText? message with
  | none =>
      rw [shown] at timed
      obtain ⟨-, rfl⟩ := Prod.mk.inj (Except.ok.inj timed)
      exact .inl ⟨rfl, rfl, rfl⟩
  | some text =>
      simp only [shown] at timed
      simp only [Option.bind_some]
      rcases stampTime_cases carried.date text with
        ⟨notice, unread, silent, bare⟩ | ⟨wall, saying, read⟩
      · rw [unread] at timed
        obtain ⟨-, rfl⟩ := Prod.mk.inj (Except.ok.inj timed)
        exact .inl ⟨rfl, silent, bare⟩
      · simp only [read] at timed
        cases placed : wall.localize offset with
        | error fault =>
            rw [placed] at timed
            cases timed
        | ok time =>
            rw [placed] at timed
            obtain ⟨-, rfl⟩ := Prod.mk.inj (Except.ok.inj timed)
            exact .inr ⟨wall, time, saying, placed, rfl⟩

section Step

variable {offset : Option Int} {before : List (List Char)} {carried : Carried}
  (latest : carried.Latest offset before) {fragment : List Char}

include latest

/-- A fragment without a message with an identifier says nothing. -/
theorem Carried.Latest.of_no_message (absent : messageIn? fragment = none) :
    carried.Latest offset (before ++ [fragment]) where
  sender := by
    rw [latest.sender, latestName?_concat, nameIn?, absent]
    rfl
  date := by
    rw [latest.date, latestDate?_concat, fullStampIn?, stampIn?, absent]
    rfl
  time time := by
    rw [latest.time, latestWall?_concat, wallIn?, stampIn?, absent]
    rfl

/-- The name and the stamp of a message are taken over, whatever becomes of the message. -/
theorem Carried.Latest.withTime {message : Node} {id : String}
    (present : messageIn? fragment = some (message, id)) {notices : List Notice}
    {later : Carried}
    (timed : (carried.withSender message).withTime offset message = .ok (notices, later)) :
    later.Latest offset (before ++ [fragment]) := by
  have name : nameIn? fragment = senderName? message := by rw [nameIn?, present]; rfl
  have stamp : stampIn? fragment = stampText? message := by rw [stampIn?, present]; rfl
  have sender : (carried.withSender message).sender = latestName? (before ++ [fragment]) := by
    rw [Carried.withSender_sender, latestName?_concat, name, latest.sender]
  have date : (carried.withSender message).date = latestDate? before := by
    rw [Carried.withSender_date, latest.date]
  have wall :
      wallIn? before fragment = (stampText? message).bind (toldOn? (latestDate? before)) := by
    rw [wallIn?, stamp]
  rcases Carried.withTime_cases timed with ⟨rfl, silent, bare⟩ | ⟨told, time, saying, placed, rfl⟩
  · refine ⟨sender, ?_, fun time => ?_⟩
    · rw [date, latestDate?_concat, fullStampIn?, stamp, bare]
      rfl
    · rw [Carried.withSender_time, latest.time, latestWall?_concat, wall, ← date, silent]
      rfl
  · refine ⟨sender, ?_, fun later => ?_⟩
    · rw [latestDate?_concat, fullStampIn?, stamp, ← date]
    · rw [latestWall?_concat, wall, ← date, saying, Option.some_or]
      simp [placed]

end Step

/-- What a post has of its message. -/
theorem messagePost_eq_some {message : Node} {id : String} {name : List Char} {time : Timestamp}
    {rolls : List Roll} {post : Post} (made : messagePost message id name time rolls = some post) :
    post.sender = String.ofList name ∧ post.time = time ∧ post.id = id ∧
      post.content = .string (String.ofList (messageText message)) ∧
      (post.isMessage = true ↔ post.rolls = []) := by
  simp only [messagePost] at made
  split at made
  · cases made
  · obtain rfl := Option.some.inj made
    exact ⟨rfl, rfl, rfl, rfl, List.isEmpty_iff⟩

/-- A message is a post when its rolls can be told, and a post can be made of what it says. -/
theorem messageEntry_eq_post {message : Node} {id : String} {name : List Char}
    {time : Timestamp} {post : Post} :
    (messageEntry message id name time).outcome = .ok (some post) ↔
      ∃ rolls, messageRolls message = .ok rolls ∧
        messagePost message id name time rolls = some post := by
  unfold messageEntry
  cases messageRolls message with
  | error stop => cases stop <;> simp [Entry.fault, Entry.skippedWith]
  | ok rolls => simp

/-- A message that is read without a fault is a post when everybody may read it, its sender
and its time are known, and it says something. -/
theorem readMessage_eq_ok {offset : Option Int} {carried : Carried} {message : Node}
    {id : String} {found : Option Post}
    (read : (readMessage offset carried message id).1.outcome = .ok found) :
    ∃ notices later, (carried.withSender message).withTime offset message = .ok (notices, later) ∧
      (readMessage offset carried message id).2 = later ∧
      ∀ post, found = some post ↔
        isPrivate message = false ∧ ∃ name time rolls, later.sender = some name ∧
          later.time = some time ∧ messageRolls message = .ok rolls ∧
          messagePost message id name time rolls = some post := by
  cases timed : (carried.withSender message).withTime offset message with
  | error fault =>
      rw [readMessage, timed] at read
      cases read
  | ok noted =>
      obtain ⟨notices, later⟩ := noted
      simp only [readMessage, timed] at read ⊢
      refine ⟨notices, later, rfl, ?_⟩
      cases hidden : isPrivate message with
      | true =>
          simp only [hidden, ↓reduceIte] at read ⊢
          obtain rfl := Except.ok.inj read
          simp
      | false =>
          simp only [hidden, Bool.false_eq_true, ↓reduceIte] at read ⊢
          cases named : later.sender with
          | none =>
              simp only [named] at read ⊢
              obtain rfl := Except.ok.inj read
              simp
          | some name =>
              cases stamped : later.time with
              | none =>
                  simp only [named, stamped] at read ⊢
                  obtain rfl := Except.ok.inj read
                  simp
              | some time =>
                  simp only [named, stamped, true_and] at read ⊢
                  intro post
                  have same : found = some post ↔
                      (messageEntry message id name time).outcome = .ok (some post) := by
                    rw [read, Except.ok.injEq]
                  rw [same, messageEntry_eq_post]
                  simp

/-- A post is made of a message that everybody may read, with the sender and the time that are
carried on from it. -/
theorem readFragment_eq_post {offset : Option Int} {carried : Carried} {fragment : List Char}
    {post : Post} (read : (readFragment offset carried fragment).1.outcome = .ok (some post)) :
    ∃ message id name time rolls, messageIn? fragment = some (message, id) ∧
      isPrivate message = false ∧ (readFragment offset carried fragment).2.sender = some name ∧
      (readFragment offset carried fragment).2.time = some time ∧
      messageRolls message = .ok rolls ∧ messagePost message id name time rolls = some post := by
  cases held : messageIn? fragment with
  | none => exact absurd read ((readFragment_of_no_message held offset carried).2 post)
  | some found =>
      obtain ⟨message, id⟩ := found
      rw [readFragment_of_message held] at read ⊢
      obtain ⟨-, later, -, rest, made⟩ := readMessage_eq_ok read
      obtain ⟨shared, name, time, rolls, named, stamped, told, wrote⟩ := (made post).mp rfl
      rw [rest]
      exact ⟨message, id, name, time, rolls, rfl, shared, named, stamped, told, wrote⟩

/-- Entries stand in the order of their fragments. -/
theorem exists_readFragment_of_getElem? {offset : Option Int} {fragments : List (List Char)}
    {place : Nat} {entry : Entry} :
    ∀ {carried : Carried}, (readFragments offset carried fragments)[place]? = some entry →
      ∃ fragment earlier, fragments[place]? = some fragment ∧
        (readFragment offset earlier fragment).1 = entry := by
  induction fragments generalizing place with
  | nil =>
      intro carried here
      cases here
  | cons fragment rest ih =>
      intro carried here
      rw [readFragments] at here
      dsimp only at here
      cases place with
      | zero =>
          refine ⟨fragment, carried, rfl, ?_⟩
          split at here <;> exact Option.some.inj here
      | succ place =>
          split at here
          · cases here
          · exact ih here

/-- What the fragments so far carry on, and what the next one becomes, when it is read without
a fault. -/
theorem readFragment_latest {offset : Option Int} {before : List (List Char)} {carried : Carried}
    (latest : carried.Latest offset before) {fragment : List Char} {found : Option Post}
    (read : (readFragment offset carried fragment).1.outcome = .ok found) :
    (readFragment offset carried fragment).2.Latest offset (before ++ [fragment]) ∧
      ∀ post, found = some post ↔
        ∃ message id name wall rolls, messageIn? fragment = some (message, id) ∧
          isPrivate message = false ∧ latestName? (before ++ [fragment]) = some name ∧
          latestWall? (before ++ [fragment]) = some wall ∧ wall.localize offset = .ok post.time ∧
          messageRolls message = .ok rolls ∧
          messagePost message id name post.time rolls = some post := by
  cases present : messageIn? fragment with
  | none =>
      obtain ⟨stays, unposted⟩ := readFragment_of_no_message present offset carried
      rw [stays]
      refine ⟨latest.of_no_message present, fun post => ⟨?_, ?_⟩⟩
      · rintro rfl
        exact absurd read (unposted post)
      · rintro ⟨_, _, _, _, _, ⟨⟩, _⟩
  | some pair =>
      obtain ⟨message, id⟩ := pair
      rw [readFragment_of_message present] at read ⊢
      obtain ⟨notices, later, timed, rest, made⟩ := readMessage_eq_ok read
      have later := latest.withTime present timed
      rw [rest]
      refine ⟨later, fun post => (made post).trans ?_⟩
      rw [later.sender]
      constructor
      · rintro ⟨shared, name, time, rolls, named, stamped, told, wrote⟩
        obtain ⟨wall, last, placed⟩ := (later.time time).mp stamped
        obtain ⟨-, rfl, -⟩ := messagePost_eq_some wrote
        exact ⟨message, id, name, wall, rolls, rfl, shared, named, last, placed, told, wrote⟩
      · rintro ⟨_, _, name, wall, rolls, ⟨⟩, shared, named, last, placed, told, wrote⟩
        exact ⟨shared, name, post.time, rolls, named,
          (later.time post.time).mpr ⟨wall, last, placed⟩, told, wrote⟩

/-- A fragment among others that are all read is read behind what those before it carry on. -/
theorem readFragments_latest {offset : Option Int} {done : List (List Char)} {carried : Carried}
    (latest : carried.Latest offset done) {before : List (List Char)} {fragment : List Char}
    {after : List (List Char)}
    (calm : ∀ entry ∈ readFragments offset carried (before ++ fragment :: after),
      ∃ found, entry.outcome = .ok found) :
    ∃ later found, later.Latest offset (done ++ before) ∧
      (readFragments offset carried (before ++ fragment :: after))[before.length]? =
        some (readFragment offset later fragment).1 ∧
      (readFragment offset later fragment).1.outcome = .ok found := by
  induction before generalizing done carried with
  | nil =>
      rw [List.nil_append] at calm ⊢
      obtain ⟨⟨found, outcome⟩, run⟩ := readFragments_cons_of_calm calm
      rw [List.append_nil, run]
      exact ⟨carried, found, latest, rfl, outcome⟩
  | cons first before ih =>
      rw [List.cons_append] at calm ⊢
      obtain ⟨⟨found, outcome⟩, run⟩ := readFragments_cons_of_calm calm
      rw [run] at calm
      obtain ⟨later, found, carries, entry, read⟩ :=
        ih (readFragment_latest latest outcome).1 fun entry member =>
          calm entry (List.mem_cons_of_mem _ member)
      rw [List.append_assoc, List.singleton_append] at carries
      refine ⟨later, found, carries, ?_, read⟩
      rw [run, List.length_cons, List.getElem?_cons_succ, entry]

/-- **A post has the sender and the time that the entries up to it tell last**, be they posts
or not: of fragments that are all read, one becomes a post exactly when the latest name and the
latest time up to it are known, everybody may read it, and what it says makes one. -/
theorem readFragments_carry {offset : Option Int} {fragments : List (List Char)}
    (calm : ∀ entry ∈ readFragments offset .start fragments, ∃ found, entry.outcome = .ok found)
    {before after : List (List Char)} {fragment : List Char}
    (cut : fragments = before ++ fragment :: after) :
    ∃ entry, (readFragments offset .start fragments)[before.length]? = some entry ∧
      ∀ post, entry.outcome = .ok (some post) ↔
        ∃ name wall, latestName? (before ++ [fragment]) = some name ∧ name ≠ [] ∧
          post.sender = String.ofList name ∧ latestWall? (before ++ [fragment]) = some wall ∧
          wall.localize offset = .ok post.time ∧
          ∃ message id rolls, messageIn? fragment = some (message, id) ∧
            isPrivate message = false ∧ messageRolls message = .ok rolls ∧
            messagePost message id name post.time rolls = some post := by
  subst cut
  obtain ⟨later, found, latest, entry, read⟩ :=
    readFragments_latest (Carried.start_latest offset) calm
  refine ⟨_, entry, fun post => ?_⟩
  rw [read, Except.ok.injEq, (readFragment_latest latest read).2 post]
  constructor
  · rintro ⟨message, id, name, wall, rolls, present, shared, named, last, placed, told, made⟩
    exact ⟨name, wall, named, latestName?_ne_nil named, (messagePost_eq_some made).1, last, placed,
      message, id, rolls, present, shared, told, made⟩
  · rintro ⟨name, wall, named, -, -, last, placed, message, id, rolls, present, shared, told,
      made⟩
    exact ⟨message, id, name, wall, rolls, present, shared, named, last, placed, told, made⟩

/-- A private entry with a name and a full stamp, and one for everybody with a bare time. -/
def hiddenEntry : List Char :=
  ("<div class='message private' data-messageid=1><b class=tstamp>May 1, 2021 7:00PM</b>" ++
    "<b class=by>Ada:</b>psst</div>").toList
def spokenEntry : List Char :=
  ("<div class='message general' data-messageid=2><b class=tstamp>7:01PM</b>" ++
    "hello</div>").toList

/-- The post behind a private entry has its sender and its date. -/
theorem readFragments_carry_hidden :
    (∀ entry ∈ readFragments none .start [hiddenEntry, spokenEntry],
      ∃ found, entry.outcome = .ok found) ∧
    ∃ entry, ∃ post : Post, ∃ wall,
      (readFragments none .start [hiddenEntry, spokenEntry])[1]? = some entry ∧
      entry.outcome = .ok (some post) ∧ post.sender = "Ada" ∧
      latestWall? [hiddenEntry, spokenEntry] = some wall ∧ wall.date = ⟨2021, 5, 1⟩ ∧
      wall.localize none = .ok post.time := by
  have evaluated :
      (∀ entry ∈ readFragments none .start [hiddenEntry, spokenEntry],
        faultOf? entry.outcome = none) ∧
      ((readFragments none .start [hiddenEntry, spokenEntry])[1]?.bind fun entry =>
        entry.outcome.toOption.join).isSome = true ∧
      (latestWall? [hiddenEntry, spokenEntry]).map WallTime.date = some ⟨2021, 5, 1⟩ ∧
      latestName? [hiddenEntry, spokenEntry] = some "Ada".toList := by decide +kernel
  obtain ⟨quiet, given, date, sender⟩ := evaluated
  have calm : ∀ entry ∈ readFragments none .start [hiddenEntry, spokenEntry],
      ∃ found, entry.outcome = .ok found :=
    fun entry member => faultOf?_eq_none.mp (quiet entry member)
  have cut : [hiddenEntry, spokenEntry] = [hiddenEntry] ++ spokenEntry :: [] := rfl
  obtain ⟨entry, here, posted⟩ := readFragments_carry calm cut
  rw [show [hiddenEntry].length = 1 from rfl] at here
  rw [here, Option.bind_some] at given
  obtain ⟨post, outcome⟩ := exists_post_of_isSome given
  obtain ⟨name, wall, named, -, wrote, told, placed, -⟩ := (posted post).mp outcome
  obtain rfl := Option.some.inj (named.symm.trans sender)
  rw [show latestWall? [hiddenEntry, spokenEntry] = some wall from told] at date
  exact ⟨calm, entry, post, wall, here, outcome, wrote.trans (by decide), told,
    Option.some.inj date, placed⟩

end Roll20

end Transcript

end DiceLedger
