import DiceLedger.Proofs.Calendar.Local
import DiceLedger.Proofs.Dice.Dealing
import DiceLedger.Proofs.Json.Access
import DiceLedger.Proofs.Transcript.Answers
import DiceLedger.Transcript.Roll20.Message

/-! # What ends the reading of a Roll20 archive early

An entry that cannot be read is discarded and the next one is read, with three exceptions
(`DiceLedger.Transcript.Roll20.Hazard`): markup that is refused, a formula with a number of
too many digits, and a stamp on the day of the calendar that the offset leads out of. Entries
without them also never carry a date on which a bare time could lead out of the calendar
(`DiceLedger.Transcript.Roll20.Carried.Stays`), so they are all analysed
(`DiceLedger.Transcript.Roll20.read_of_calm`).
-/

namespace DiceLedger

namespace Transcript

namespace Roll20

open Markup (Node)

/-- A stamp with a date on the day of the calendar that the offset leads out of. -/
def StampHazard (offset : Option Int) (message : Node) : Prop :=
  ∃ text ∈ stampText? message, ∃ wall ∈ Stamp.read? fullPattern text,
    0 < offset.getD 0 ∧ wall.date = ⟨1, 1, 1⟩ ∨ offset.getD 0 < 0 ∧ wall.date = ⟨9999, 12, 31⟩

instance (offset : Option Int) (message : Node) : Decidable (StampHazard offset message) :=
  inferInstanceAs (Decidable (∃ text ∈ _, ∃ wall ∈ _, _))

/-- The formula of a shown roll with a number of too many digits. -/
def FormulaHazard (message : Node) : Prop :=
  message.hasClass "rollresult" = true ∧
    ∃ element ∈ message.select (·.hasClass "formula"),
      Dice.LongNumeral (formulaText element.fullText)

instance (message : Node) : Decidable (FormulaHazard message) :=
  inferInstanceAs (Decidable (_ ∧ ∃ element ∈ _, _))

/-- A title with a number of too many digits, or with markup that is refused. -/
def TitleHazard (message : Node) : Prop :=
  ∃ element ∈ message.select (·.hasClass "inlinerollresult"),
    ∃ parts ∈ titleParts? element,
      Dice.LongNumeral (formulaText parts.1) ∨ (Markup.parse parts.2).isOk = false

instance (message : Node) : Decidable (TitleHazard message) :=
  inferInstanceAs (Decidable (∃ element ∈ _, ∃ parts ∈ _, _))

/-- What in an entry ends the reading of an archive. The rolls of an entry that not everybody
may read are not looked at. -/
def Hazard (offset : Option Int) (fragment : List Char) : Prop :=
  match Markup.parse fragment with
  | .error _ => True
  | .ok nodes =>
    ∃ found ∈ message? nodes,
      StampHazard offset found.1 ∨
        isPrivate found.1 = false ∧ (FormulaHazard found.1 ∨ TitleHazard found.1)

instance (offset : Option Int) (fragment : List Char) : Decidable (Hazard offset fragment) :=
  match parsed : Markup.parse fragment with
  | .error _ => .isTrue (by rw [Hazard, parsed]; trivial)
  | .ok nodes =>
    decidable_of_iff
      (∃ found ∈ message? nodes,
        StampHazard offset found.1 ∨
          isPrivate found.1 = false ∧ (FormulaHazard found.1 ∨ TitleHazard found.1))
      (by rw [Hazard, parsed])

/-- Only a numeral that is too long interrupts the dealing of outcomes. -/
theorem dealRoll_eq_interrupt {formula : String} {outcomes : List Int} {total : Binary64}
    {fault : ReadFault} (failed : dealRoll formula outcomes total = .error (.interrupt fault)) :
    Dice.LongNumeral formula := by
  unfold dealRoll at failed
  split at failed
  · next long => exact Dice.buildRoll_eq_error long
  · cases failed
  · cases failed

/-- A roll that is shown interrupts only with a numeral that is too long in its formula. -/
theorem plainRoll_eq_interrupt {message : Node} {fault : ReadFault}
    (failed : plainRoll message = .error (.interrupt fault)) :
    ∃ element ∈ message.select (·.hasClass "formula"),
      Dice.LongNumeral (formulaText element.fullText) := by
  simp only [plainRoll] at failed
  split at failed
  · next formula total found shown =>
    split at failed
    · exact ⟨formula, List.mem_of_find?_eq_some found, dealRoll_eq_interrupt failed⟩
    · cases failed
  · cases failed

/-- A roll within the text interrupts only with its title: a numeral that is too long, or markup
that is not read. -/
theorem inlineRoll_eq_interrupt {element : Node} {fault : ReadFault}
    (failed : inlineRoll element = .error (.interrupt fault)) :
    ∃ parts ∈ titleParts? element,
      Dice.LongNumeral (formulaText parts.1) ∨ (Markup.parse parts.2).isOk = false := by
  simp only [inlineRoll] at failed
  split at failed
  · cases failed
  · next head detail cut =>
    split at failed
    · cases failed
    · split at failed
      · next refused => exact ⟨(head, detail), cut, .inr (by rw [refused]; rfl)⟩
      · split at failed
        · cases failed
        · next outcomes told =>
          cases dealt : dealRoll (formulaText head) outcomes (by assumption) with
          | ok roll => rw [dealt] at failed; cases failed
          | error stop =>
            rw [dealt] at failed
            obtain rfl := Except.error.inj failed
            exact ⟨(head, detail), cut, .inl (dealRoll_eq_interrupt dealt)⟩

/-- The rolls of an entry interrupt only with a formula or a title. -/
theorem messageRolls_eq_interrupt {message : Node} {fault : ReadFault}
    (failed : messageRolls message = .error (.interrupt fault)) :
    FormulaHazard message ∨ TitleHazard message := by
  rw [messageRolls, Except.bind_eq_error] at failed
  rcases failed with shown | ⟨_, _, failed⟩
  · rw [shownRoll] at shown
    split at shown
    · next rolled =>
      cases read : plainRoll message with
      | ok roll => rw [read] at shown; cases shown
      | error stop =>
        rw [read] at shown
        obtain rfl := Except.error.inj shown
        exact .inl ⟨rolled, plainRoll_eq_interrupt read⟩
    · cases shown
  rcases Except.bind_eq_error.mp failed with inline | ⟨_, _, never⟩
  · obtain ⟨element, member, stopped⟩ := Except.exists_of_mapM_eq_error inline
    exact .inr ⟨element, member, inlineRoll_eq_interrupt stopped⟩
  · cases never

/-- Behind its time an entry interrupts only with a formula or a title. -/
theorem messageEntry_eq_error {message : Node} {id : String} {sender : List Char}
    {time : Timestamp} {fault : ReadFault}
    (failed : (messageEntry message id sender time).outcome = .error fault) :
    FormulaHazard message ∨ TitleHazard message := by
  unfold messageEntry at failed
  split at failed
  · next stopped => exact messageRolls_eq_interrupt stopped
  · cases failed
  · cases failed

/-- The date that is carried along does not lead out of the calendar. -/
def Carried.Stays (hours : Int) (carried : Carried) : Prop :=
  ∀ date ∈ carried.date, StaysInCalendar hours date.dayNumber

/-- At the start no time is carried that could leave the calendar. -/
theorem Carried.start_stays (hours : Int) : Carried.start.Stays hours :=
  fun _ carried => (Option.not_mem_none _ carried).elim

/-- A sender does not change the date that is carried. -/
theorem Carried.withSender_date (carried : Carried) (message : Node) :
    (carried.withSender message).date = carried.date := by
  unfold Carried.withSender
  split <;> rfl

/-- A time stamp of an entry never leads out of the calendar, unless it is on the wrong day. -/
theorem stampTime_stays {hours : Int} {date carriedOn : Option Date} {text : List Char}
    {wall : WallTime} (stays : ∀ day ∈ date, StaysInCalendar hours day.dayNumber)
    (safe : ∀ wall ∈ Stamp.read? fullPattern text,
      ¬ (0 < hours ∧ wall.date = ⟨1, 1, 1⟩ ∨ hours < 0 ∧ wall.date = ⟨9999, 12, 31⟩))
    (read : stampTime date text = .ok (wall, carriedOn)) :
    StaysInCalendar hours wall.dayNumber ∧
      ∀ day ∈ carriedOn, StaysInCalendar hours day.dayNumber := by
  unfold stampTime at read
  split at read
  · next full written =>
    obtain ⟨rfl, rfl⟩ := Prod.mk.inj (Except.ok.inj read)
    have safeHere := safe full written
    have inside := WallTime.staysInCalendar_of_date
      (fun east first => safeHere (.inl ⟨east, first⟩))
      (fun west last => safeHere (.inr ⟨west, last⟩))
    refine ⟨inside, ?_⟩
    intro day carried
    obtain rfl := Option.some.inj carried
    rw [WallTime.dayNumber_date]
    exact inside
  · split at read
    · cases read
    · next day =>
      split at read
      -- A bare time stands on the date carried along, for which an earlier stamp has vouched.
      · next bare made =>
        obtain ⟨rfl, rfl⟩ := Prod.mk.inj (Except.ok.inj read)
        refine ⟨?_, stays⟩
        obtain ⟨clock, _, placed⟩ := Option.bind_eq_some_iff.mp made
        rw [WallTime.dayNumber_of_ofDate?_eq placed]
        exact stays day rfl
      · cases read

section Reading

variable {offset : Option Int} (within : -24 < offset.getD 0 ∧ offset.getD 0 < 24)
  {carried : Carried} (stays : carried.Stays (offset.getD 0))

include within stays

/-- Without a stamp that leaves the calendar the time of an entry is told, or the one that is
carried. -/
theorem withTime_eq_ok {message : Node} (safe : ¬ StampHazard offset message) :
    ∃ notices later, carried.withTime offset message = .ok (notices, later) ∧
      later.Stays (offset.getD 0) := by
  unfold Carried.withTime
  cases shown : stampText? message with
  | none => exact ⟨[], carried, rfl, stays⟩
  | some text =>
    dsimp only
    cases read : stampTime carried.date text with
    | error notice => exact ⟨[notice], carried, rfl, stays⟩
    | ok stamp =>
      obtain ⟨wall, date⟩ := stamp
      have safeText : ∀ wall ∈ Stamp.read? fullPattern text,
          ¬ (0 < offset.getD 0 ∧ wall.date = ⟨1, 1, 1⟩ ∨
            offset.getD 0 < 0 ∧ wall.date = ⟨9999, 12, 31⟩) :=
        fun wall written hazard => safe ⟨text, shown, wall, written, hazard⟩
      obtain ⟨inside, later⟩ := stampTime_stays stays safeText read
      obtain ⟨time, placed⟩ := WallTime.exists_localize_eq within inside
      exact ⟨[], { carried with date := date, time := some time }, by simp only [placed], later⟩

/-- An entry without hazards is analysed, and what it carries on stays in the calendar. -/
theorem readMessage_of_safe {message : Node} {id : String} (stamp : ¬ StampHazard offset message)
    (rolls : ¬ (isPrivate message = false ∧ (FormulaHazard message ∨ TitleHazard message))) :
    (∃ found, (readMessage offset carried message id).1.outcome = .ok found) ∧
      (readMessage offset carried message id).2.Stays (offset.getD 0) := by
  have staysAfter : (carried.withSender message).Stays (offset.getD 0) := by
    intro date member
    rw [Carried.withSender_date] at member
    exact stays date member
  obtain ⟨notices, later, timed, staysLater⟩ := withTime_eq_ok within staysAfter stamp
  unfold readMessage
  rw [timed]
  dsimp only
  split
  · exact ⟨⟨none, rfl⟩, staysLater⟩
  · next shared =>
    split
    · next sender time _ _ =>
      cases told : (messageEntry message id sender time).outcome with
      | ok found => exact ⟨⟨found, rfl⟩, staysLater⟩
      | error fault =>
        exact absurd ⟨Bool.eq_false_iff.mpr shared, messageEntry_eq_error told⟩ rolls
    · exact ⟨⟨none, rfl⟩, staysLater⟩

/-- An entry without a hazard is read without a fault, and what it carries on has none. -/
theorem readFragment_of_safe {fragment : List Char} (safe : ¬ Hazard offset fragment) :
    (∃ found, (readFragment offset carried fragment).1.outcome = .ok found) ∧
      (readFragment offset carried fragment).2.Stays (offset.getD 0) := by
  cases parsed : Markup.parse fragment with
  | error fault => exact absurd (by rw [Hazard, parsed]; trivial) safe
  | ok nodes =>
      simp only [Hazard, parsed] at safe
      simp only [readFragment, parsed]
      split
      · exact ⟨⟨none, rfl⟩, stays⟩
      · next message id found =>
        have calm : ¬ (StampHazard offset message ∨
            isPrivate message = false ∧ (FormulaHazard message ∨ TitleHazard message)) :=
          fun hazard => safe ⟨_, found, hazard⟩
        obtain ⟨stamp, rolls⟩ := not_or.mp calm
        exact readMessage_of_safe within stays stamp rolls

end Reading

/-- The entries of fragments that are all read, one after another. -/
def analysed (offset : Option Int) : Carried → List (List Char) → List Entry
  | _, [] => []
  | carried, fragment :: rest =>
    let (entry, carried) := readFragment offset carried fragment
    entry :: analysed offset carried rest

/-- Of fragments that are all read, the first one is, and the others are read behind it. -/
theorem readFragments_cons_of_calm {offset : Option Int} {carried : Carried}
    {fragment : List Char} {rest : List (List Char)}
    (calm : ∀ entry ∈ readFragments offset carried (fragment :: rest),
      ∃ found, entry.outcome = .ok found) :
    (∃ found, (readFragment offset carried fragment).1.outcome = .ok found) ∧
      readFragments offset carried (fragment :: rest) =
        (readFragment offset carried fragment).1 ::
          readFragments offset (readFragment offset carried fragment).2 rest := by
  cases outcome : (readFragment offset carried fragment).1.outcome with
  | error fault =>
      simp only [readFragments, outcome] at calm
      obtain ⟨found, read⟩ := calm _ List.mem_cons_self
      rw [outcome] at read
      cases read
  | ok found => exact ⟨⟨found, rfl⟩, by simp only [readFragments, outcome]⟩

/-- Of fragments that are all read, every one is analysed. -/
theorem readFragments_eq_analysed {offset : Option Int} {carried : Carried}
    {fragments : List (List Char)}
    (calm : ∀ entry ∈ readFragments offset carried fragments, ∃ found, entry.outcome = .ok found) :
    readFragments offset carried fragments = analysed offset carried fragments := by
  induction fragments generalizing carried with
  | nil => rfl
  | cons fragment rest ih =>
      obtain ⟨-, run⟩ := readFragments_cons_of_calm calm
      rw [run] at calm ⊢
      rw [ih fun entry member => calm entry (List.mem_cons_of_mem _ member), analysed]

/-- What is carried on from fragments that are all read. -/
def carriedOn (offset : Option Int) (carried : Carried) (fragments : List (List Char)) : Carried :=
  fragments.foldl (fun carried fragment => (readFragment offset carried fragment).2) carried

/-- Fragments without hazards are all analysed, and reading goes on behind them. -/
theorem readFragments_of_safe {offset : Option Int}
    (within : -24 < offset.getD 0 ∧ offset.getD 0 < 24) {carried : Carried}
    (stays : carried.Stays (offset.getD 0)) {calm : List (List Char)} (rest : List (List Char))
    (safe : ∀ fragment ∈ calm, ¬ Hazard offset fragment) :
    (∀ entry ∈ analysed offset carried calm, ∃ found, entry.outcome = .ok found) ∧
      readFragments offset carried (calm ++ rest) =
        analysed offset carried calm ++
          readFragments offset (carriedOn offset carried calm) rest := by
  -- On the fragments; what one carries on has to stay in the calendar for the next.
  induction calm generalizing carried with
  | nil => exact ⟨fun _ member => (List.not_mem_nil member).elim, rfl⟩
  | cons fragment calm ih =>
      obtain ⟨⟨found, read⟩, staysLater⟩ :=
        readFragment_of_safe within stays (safe fragment List.mem_cons_self)
      obtain ⟨later, run⟩ :=
        ih staysLater fun other member => safe other (List.mem_cons_of_mem _ member)
      refine ⟨?_, ?_⟩
      · intro entry member
        rcases List.mem_cons.mp member with rfl | member
        · exact ⟨found, read⟩
        · exact later entry member
      · simp only [List.cons_append, readFragments, read, run, analysed, carriedOn,
          List.foldl_cons]

/-- **An entry that cannot be read never ends an archive**, unless it holds a hazard: as long
as fragments have none, each of them is analysed, every call is answered, and reading goes on
with what follows. -/
theorem read_of_calm {offset : Option Int} (within : -24 < offset.getD 0 ∧ offset.getD 0 < 24)
    {lines calm rest : List (List Char)} (cut : fragments lines = calm ++ rest)
    (safe : ∀ fragment ∈ calm, ¬ Hazard offset fragment) :
    (∀ entry ∈ analysed offset .start calm, ∃ found, entry.outcome = .ok found) ∧
      read offset lines =
        analysed offset .start calm ++
          readFragments offset (carriedOn offset .start calm) rest ∧
      drain (read offset lines) =
        (posts (analysed offset .start calm)).map .ok ++
          drain (readFragments offset (carriedOn offset .start calm) rest) := by
  obtain ⟨calmly, run⟩ := readFragments_of_safe within (Carried.start_stays _) rest safe
  have whole : read offset lines = analysed offset .start calm ++
      readFragments offset (carriedOn offset .start calm) rest := by
    rw [read, cut]
    exact run
  refine ⟨calmly, whole, ?_⟩
  rw [whole, drain_append, drain_of_ok calmly]

/-- An entry with an identifier and a stamp. -/
def stampedEntry (id : Char) (stamp : String) : List Char :=
  "<div class=message data-messageid=".toList ++ id :: "><b class=tstamp>".toList ++
    stamp.toList ++ "</b></div>".toList

/-- A stamp far from the ends of the calendar, one at its beginning, and a bare time. -/
def plainEntry : List Char := stampedEntry '1' "May 1, 2021 7:00PM"
def firstDayEntry : List Char := stampedEntry '2' "January 1, 0001 12:00AM"
def bareEntry : List Char := stampedEntry '3' "7:01PM"

/-- Three entries on one line; the second is stamped with the first minute of the calendar. -/
def page : List (List Char) := ["<div>".toList ++ plainEntry ++ firstDayEntry ++ bareEntry]

/-- The page has one plain entry, one of the first day, and one with a bare stamp. -/
theorem fragments_page : fragments page = [plainEntry] ++ [firstDayEntry, bareEntry] := by
  decide +kernel

/-- The first entry is analysed, whatever the second does. -/
theorem read_of_calm_page :
    (-24 < (some 1 : Option Int).getD 0 ∧ (some 1 : Option Int).getD 0 < 24) ∧
      fragments page = [plainEntry] ++ [firstDayEntry, bareEntry] ∧
      (∀ fragment ∈ [plainEntry], ¬ Hazard (some 1) fragment) ∧
      (∀ entry ∈ analysed (some 1) .start [plainEntry], ∃ found, entry.outcome = .ok found) ∧
      read (some 1) page =
        analysed (some 1) .start [plainEntry] ++
          readFragments (some 1) (carriedOn (some 1) .start [plainEntry])
            [firstDayEntry, bareEntry] ∧
      drain (read (some 1) page) =
        (posts (analysed (some 1) .start [plainEntry])).map .ok ++
          drain (readFragments (some 1) (carriedOn (some 1) .start [plainEntry])
            [firstDayEntry, bareEntry]) := by
  have safe : ∀ fragment ∈ [plainEntry], ¬ Hazard (some 1) fragment := by decide +kernel
  exact ⟨by decide, fragments_page, safe, read_of_calm (by decide) fragments_page safe⟩

/-- The call that comes upon the second entry fails, and the third is never read. -/
theorem read_page_interrupted :
    ¬ ∀ (offset : Option Int) (lines : List (List Char)),
      -24 < offset.getD 0 ∧ offset.getD 0 < 24 →
        (∀ answer ∈ answers (read offset lines), ∃ found, answer.result = .ok found) ∧
          (read offset lines).length = (fragments lines).length := by
  intro calm
  have length := (calm (some 1) page (by decide)).2
  have cut : (fragments page).length = 3 := by rw [fragments_page]; rfl
  have short : (read (some 1) page).length = 2 := by decide +kernel
  omega

end Roll20

end Transcript

end DiceLedger
