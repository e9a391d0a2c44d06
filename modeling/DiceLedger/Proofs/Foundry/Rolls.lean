import DiceLedger.Proofs.Foundry.Lines
import DiceLedger.Proofs.Json.Names

/-! # The rolls of a Foundry record

What the rolls of a record have to be for the record to make a post, said of the record alone: a
payload for every roll (`DiceLedger.Transcript.Foundry.Payloads`), a formula, a total and terms in
each of them (`DiceLedger.Transcript.Foundry.RollShows`), and the results of the dice in the terms
(`DiceLedger.Transcript.Foundry.TermShows`). A post that is read from a record has just these
rolls, and is a message if there are none (`DiceLedger.Transcript.Foundry.readRecord_eq_post`).
-/

namespace DiceLedger

namespace Transcript

namespace Foundry

/-- A result of a term with so many faces, as a die. -/
structure ResultShows (faces : Int) (result : Json) (die : Die) : Prop where
  faces : die.faces = faces
  outcome : ∃ value, result.Has "result" value ∧ value.toWhole = .ok die.outcome

/-- The dice that a term shows: a term of dice has its results, each with the faces of the term,
and any other term has none. -/
inductive TermShows (term : Json) : List Die → Prop
  | other (kind : ¬ term.Has "class" (.string dieClass)) : TermShows term []
  | dice {value : Json} {faces : Int} {results : List Json} {dice : List Die}
      (kind : term.Has "class" (.string dieClass)) (sides : term.Has "faces" value)
      (whole : value.toWhole = .ok faces) (listed : term.FieldItems "results" results)
      (shown : List.Forall₂ (ResultShows faces) results dice) : TermShows term dice

/-- What an object shows as a roll: its dice are those of its terms, term by term. -/
structure ValueShows (value : Json) (roll : Roll) : Prop where
  formula : ∃ formula, value.Has "formula" formula ∧ roll.formula = formula.display
  total : ∃ total, value.Has "total" total ∧ total.toDouble = .ok roll.outcome
  dice : ∃ terms dice, value.FieldItems "terms" terms ∧ List.Forall₂ TermShows terms dice ∧
    roll.dice = dice.flatten

/-- What a payload shows as a roll, be it written as text or not. -/
def RollShows (payload : Json) (roll : Roll) : Prop :=
  ∃ value, rollValue payload = .ok value ∧ ValueShows value roll

/-- The payloads of a record: the items of its rolls, when these count as present. -/
def Payloads (record : Json) (payloads : List Json) : Prop :=
  ∃ fields, record = .object fields ∧
    let rolls := (Json.lookup? "rolls" fields).getD .null
    if rolls.isTruthy then rolls.items = .ok payloads else payloads = []

/-- The dice that are read of a term are those it shows. -/
theorem termDice_eq_ok {term : Json} {dice : List Die} (read : termDice term = .ok dice) :
    TermShows term dice := by
  obtain ⟨kind, class_eq, read⟩ := Except.bind_eq_ok.mp read
  obtain ⟨fields, rfl, same⟩ := Json.exists_fields_of_fieldOr_eq_ok (expect_eq_ok class_eq)
  split at read
  · next other =>
    obtain rfl := Except.ok.inj read
    apply TermShows.other
    rintro ⟨held, shape, found⟩
    obtain rfl := Json.object.inj shape
    rw [found] at same
    obtain rfl := same
    rw [Option.getD_some, Json.sameName_string.mpr rfl] at other
    cases other
  · next here =>
    rw [Bool.not_eq_true', Bool.not_eq_false] at here
    obtain rfl := Json.sameName_string.mp here
    obtain ⟨faces, sides, read⟩ := Except.bind_eq_ok.mp read
    obtain ⟨value, has, whole⟩ := Except.bind_eq_ok.mp (expect_eq_ok sides)
    obtain ⟨results, listed, read⟩ := Except.bind_eq_ok.mp read
    have kind : (Json.object fields).Has "class" (.string dieClass) := by
      refine ⟨fields, rfl, ?_⟩
      cases found : Json.lookup? "class" fields with
      | none => rw [found] at same; cases same
      | some other =>
          rw [found] at same
          exact congrArg some same
    refine .dice kind (Json.require_eq_ok has) whole
      (Json.fieldItems_of_fieldOr_items (expect_eq_ok listed)) ?_
    apply (Except.forall₂_of_mapM_eq_ok read).imp
    intro result die shown
    obtain ⟨outcome, told, made⟩ := Except.bind_eq_ok.mp shown
    obtain ⟨value, present, number⟩ := Except.bind_eq_ok.mp (expect_eq_ok told)
    obtain rfl := Except.ok.inj made
    exact ⟨rfl, value, Json.require_eq_ok present, number⟩

/-- The roll that is read of a payload is the one it shows. -/
theorem readRoll_eq_ok {payload : Json} {roll : Roll} (read : readRoll payload = .ok roll) :
    RollShows payload roll := by
  obtain ⟨value, decoded, read⟩ := Except.bind_eq_ok.mp read
  obtain ⟨terms, listed, read⟩ := Except.bind_eq_ok.mp read
  obtain ⟨dice, shown, read⟩ := Except.bind_eq_ok.mp read
  obtain ⟨formula, written, read⟩ := Except.bind_eq_ok.mp read
  obtain ⟨total, counted, read⟩ := Except.bind_eq_ok.mp read
  obtain ⟨sum, has, number⟩ := Except.bind_eq_ok.mp (expect_eq_ok counted)
  obtain rfl := Except.ok.inj read
  refine ⟨value, decoded, ?_⟩
  exact
    { formula := ⟨formula, Json.require_eq_ok (expect_eq_ok written), rfl⟩
      total := ⟨sum, Json.require_eq_ok has, number⟩
      dice := ⟨terms, dice, Json.fieldItems_of_fieldOr_items (expect_eq_ok listed),
        (Except.forall₂_of_mapM_eq_ok shown).imp fun _ _ => termDice_eq_ok, rfl⟩ }

/-- The rolls of a record are those that its payloads show. -/
theorem recordRolls_eq_ok {value : Json} {rolls : List Roll}
    (read : recordRolls value = .ok rolls) :
    ∃ payloads, (if value.isTruthy then value.items = .ok payloads else payloads = []) ∧
      List.Forall₂ RollShows payloads rolls ∧ ((!value.isTruthy) = true ↔ rolls = []) := by
  unfold recordRolls at read
  split at read
  · next present =>
    obtain ⟨payloads, listed, read⟩ := Except.bind_eq_ok.mp read
    have items := expect_eq_ok listed
    have shown := Except.forall₂_of_mapM_eq_ok read
    refine ⟨payloads, by rw [if_pos present]; exact items, ?_, ?_⟩
    · exact shown.imp fun _ _ => readRoll_eq_ok
    · rw [present]
      constructor
      · intro absurdity
        cases absurdity
      · rintro rfl
        cases shown
        exact absurd rfl (Json.items_ne_nil present items)
  · next absent =>
    obtain rfl := Except.ok.inj read
    refine ⟨[], by rw [if_neg absent], .nil, ?_⟩
    rw [Bool.not_eq_true', Bool.eq_false_iff]
    exact iff_of_true absent rfl

/-- A time is read as whole milliseconds from the epoch. -/
theorem readTime_eq_ok {millis : Json} {time : Timestamp} (read : readTime millis = .ok time) :
    ∃ whole, millis.toWhole = .ok whole ∧ Timestamp.ofEpochMillis whole = .ok time := by
  obtain ⟨whole, number, placed⟩ := Except.bind_eq_ok.mp read
  refine ⟨whole, expect_eq_ok number, ?_⟩
  cases found : Timestamp.ofEpochMillis whole with
  | error fault => rw [found] at placed; cases placed
  | ok stamp =>
      rw [found] at placed
      exact congrArg Except.ok (Except.ok.inj placed)

/-- A post of a record has a roll for every payload, as the payload shows it, and is a message if
there are none. -/
theorem readRecord_eq_post {record : Json} {post : Post}
    (read : readRecord record = .ok (some post)) :
    (∃ payloads, Payloads record payloads ∧ List.Forall₂ RollShows payloads post.rolls) ∧
      (post.isMessage = true ↔ post.rolls = []) ∧
      ∃ millis, Timestamp.ofEpochMillis millis = .ok post.time := by
  obtain ⟨kind, -, read⟩ := Except.bind_eq_ok.mp read
  split at read
  · cases read
  obtain ⟨whisper, -, read⟩ := Except.bind_eq_ok.mp read
  split at read
  · cases read
  obtain ⟨value, held, read⟩ := Except.bind_eq_ok.mp read
  obtain ⟨rolls, told, read⟩ := Except.bind_eq_ok.mp read
  obtain ⟨id, -, read⟩ := Except.bind_eq_ok.mp read
  obtain ⟨sender, -, read⟩ := Except.bind_eq_ok.mp read
  obtain ⟨millis, -, read⟩ := Except.bind_eq_ok.mp read
  obtain ⟨time, stamped, read⟩ := Except.bind_eq_ok.mp read
  obtain ⟨content, -, read⟩ := Except.bind_eq_ok.mp read
  obtain rfl := Option.some.inj (Except.ok.inj read)
  obtain ⟨fields, rfl, rfl⟩ := Json.exists_fields_of_fieldOr_eq_ok (expect_eq_ok held)
  obtain ⟨payloads, listed, shown, silent⟩ := recordRolls_eq_ok told
  obtain ⟨whole, -, placed⟩ := readTime_eq_ok stamped
  exact ⟨⟨payloads, ⟨fields, rfl, listed⟩, shown⟩, silent, whole, placed⟩

end Foundry

end Transcript

end DiceLedger
