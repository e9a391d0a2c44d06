import DiceLedger.Proofs.Binary64.Rounding
import DiceLedger.Proofs.Dice.Throws

/-! # How many dice are rolled, and of how many sides

Dice are thrown when their rounded count and their rounded sides are within bounds, as many as were
counted, and otherwise not at all (`DiceLedger.Dice.RollsTo`). What they show is added up and
rounded once, and an evaluation asks for no other dice, whatever its text
(`DiceLedger.Dice.rolls_within_bounds`). -/

namespace DiceLedger

namespace Dice

open Binary64

variable {σ : Type}

/-- A number that is at least `least`, and not too great to count dice or sides. -/
def Rollable (least : Nat) (x : Binary64) : Prop :=
  (ofNat least).le x = true ∧ x.le (.ofNat maxDice) = true

/-- What can be counted is a whole number within the bounds. -/
theorem rollable_iff {x : Binary64} (entire : x.Entire) {least : Nat} (ordered : least ≤ maxDice) :
    Rollable least x ↔ ∃ n : Nat, x.IsWhole n ∧ least ≤ n ∧ n ≤ maxDice :=
  entire.isWhole_iff ordered (Nat.lt_trans maxDice_lt (by decide))

/-- An entire number counts what it is, if it is not too great. -/
theorem diceCount?_eq_some_iff {x : Binary64} (entire : x.Entire) {n : Nat} :
    diceCount? x = some n ↔ x.IsWhole n ∧ n ≤ maxDice := by
  have bounds := rollable_iff entire (Nat.zero_le maxDice)
  constructor
  · intro counted
    unfold diceCount? at counted
    split at counted
    · next within =>
      obtain ⟨m, whole, -, le⟩ := bounds.mp (Bool.and_eq_true_iff.mp within)
      rw [whole.truncate?] at counted
      obtain rfl : m = n := Option.some.inj counted
      exact ⟨whole, le⟩
    · cases counted
  · rintro ⟨whole, le⟩
    have within : ((0 : Binary64).le x && x.le (.ofNat maxDice)) = true :=
      Bool.and_eq_true_iff.mpr (bounds.mpr ⟨n, whole, Nat.zero_le n, le⟩)
    rw [diceCount?, if_pos within, whole.truncate?]
    rfl

/-- Sides, negative or not, are a single one if they round to one. -/
theorem eqv_one_of_isWhole {faces : Binary64} {sides : Nat}
    (whole : faces.roundHalfAway.IsWhole sides) :
    faces.abs.roundHalfAway.eqv 1 = decide (sides = 1) := by
  have single : place? 1 = some ((1 : Nat) * (one : Int)) :=
    (isWhole_ofNat (by decide : 1 < 2 ^ (53 : Nat))).place
  have pos : (one : Int) ≠ 0 := Int.natCast_ne_zero.mpr (Nat.ne_of_gt Binary64.one_pos)
  rw [roundHalfAway_abs, eqv_of_place whole.abs.place single]
  apply decide_eq_decide.mpr
  rw [Int.mul_eq_mul_right_iff pos, Int.natAbs_natCast, Int.natCast_inj]

/-- What rolling `count` dice of `faces` sides comes to: dice with a single side only multiply, and
others are thrown if they are within bounds. -/
inductive RollsTo (source : Source σ) (count faces : Binary64) (state : σ) :
    Option Binary64 × σ → Prop
  | single (single : faces.abs.roundHalfAway.eqv 1 = true) :
      RollsTo source count faces state (some (count * faces), state)
  | thrown {dice sides : Nat} (several : faces.abs.roundHalfAway.eqv 1 = false)
      (counted : count.roundHalfAway.IsWhole dice) (countable : dice ≤ maxDice)
      (sided : faces.roundHalfAway.IsWhole sides) (two_le : 2 ≤ sides) (within : sides ≤ maxDice) :
      RollsTo source count faces state
        (some (.ofNat (source.throws sides dice state).1.sum), (source.throws sides dice state).2)
  | refused (several : faces.abs.roundHalfAway.eqv 1 = false)
      (out : ¬(Rollable 0 count.roundHalfAway ∧ Rollable 1 faces.roundHalfAway)) :
      RollsTo source count faces state (none, state)

/-- A roll does what `RollsTo` says. -/
theorem rollsTo_roll (source : Source σ) (count faces : Binary64) (state : σ) :
    RollsTo source count faces state (roll source count faces state) := by
  cases several : faces.abs.roundHalfAway.eqv 1 with
  | true =>
      rw [roll_of_single source state several]
      exact .single several
  | false =>
      have counts {n : Nat} := diceCount?_eq_some_iff (entire_roundHalfAway count) (n := n)
      have sides {n : Nat} := diceCount?_eq_some_iff (entire_roundHalfAway faces) (n := n)
      have zero_le := rollable_iff (entire_roundHalfAway count) (Nat.zero_le maxDice)
      have one_le := rollable_iff (entire_roundHalfAway faces) (by decide : 1 ≤ maxDice)
      by_cases bounded : Rollable 0 count.roundHalfAway ∧ Rollable 1 faces.roundHalfAway
      · obtain ⟨dice, counted, -, countable⟩ := zero_le.mp bounded.1
        obtain ⟨many, sided, pos, within⟩ := one_le.mp bounded.2
        have other : many ≠ 1 := by
          rw [eqv_one_of_isWhole sided] at several
          exact of_decide_eq_false several
        rw [roll_of_counts source state several (counts.mpr ⟨counted, countable⟩)
          (sides.mpr ⟨sided, within⟩) (by omega), source.addDraws_eq, Nat.zero_add]
        exact .thrown several counted countable sided (by omega) within
      · have refused : roll source count faces state = (none, state) := by
          cases sided : diceCount? faces.roundHalfAway with
          | none => exact roll_of_uncounted source state several (.inr sided)
          | some many =>
              obtain ⟨whole, within⟩ := sides.mp sided
              rcases Nat.eq_zero_or_pos many with rfl | pos
              · exact roll_of_no_sides source state several sided
              · refine roll_of_uncounted source state several (.inl ?_)
                refine Option.eq_none_iff_forall_ne_some.mpr fun dice counted => bounded ?_
                obtain ⟨number, countable⟩ := counts.mp counted
                exact ⟨zero_le.mpr ⟨dice, number, Nat.zero_le dice, countable⟩,
                  one_le.mpr ⟨many, whole, pos, within⟩⟩
        rw [refused]
        exact .refused several bounded

/-- Draws from dice of at least two sides, and not too many. -/
def Bounded (draws : List (Nat × Nat)) : Prop :=
  ∀ drawn ∈ draws, 2 ≤ drawn.1 ∧ drawn.1 ≤ maxDice

section

variable (source : Source σ) {recording : Source.Recording σ} (bounded : Bounded recording.draws)

include bounded

/-- A roll draws within the bounds. -/
theorem bounded_roll (count faces : Binary64) :
    Bounded (roll source.recorded count faces recording).2.draws := by
  have rolled := rollsTo_roll source.recorded count faces recording
  generalize roll source.recorded count faces recording = result at rolled ⊢
  cases rolled with
  | single => exact bounded
  | refused => exact bounded
  | thrown _ _ _ _ two_le within =>
      rw [source.throws_recorded]
      refine List.forall_mem_append.mpr ⟨fun drawn member => ?_, bounded⟩
      obtain ⟨_, -, rfl⟩ := List.mem_map.mp (List.mem_reverse.mp member)
      exact ⟨two_le, within⟩

/-- An operator draws within the bounds. -/
theorem bounded_apply (operator : Operator) (x y : Binary64) :
    Bounded (apply source.recorded operator x y recording).2.draws := by
  by_cases rolls : operator = .roll
  · subst rolls
    exact bounded_roll source bounded x y
  · rwa [apply_state rolls]

/-- Every step of a run asks for dice within bounds. -/
theorem bounded_run (steps : List Step) (stack : List Binary64) :
    Bounded (run source.recorded steps stack recording).2.draws := by
  induction steps generalizing stack recording with
  | nil => exact bounded
  | cons step rest ih =>
      cases step with
      | push value => exact ih bounded _
      | apply operator =>
          match stack with
          | [] => exact bounded
          | [_] => exact bounded
          | right :: left :: stack =>
              have applied := bounded_apply source bounded operator left right
              rw [run]
              generalize apply source.recorded operator left right recording = result at applied ⊢
              obtain ⟨_ | value, later⟩ := result
              · exact applied
              · exact ih applied _

/-- Whatever a text says, its evaluation draws within the bounds. -/
theorem bounded_evaluate (text : String) :
    Bounded (evaluate source.recorded text recording).2.draws := by
  have ran := bounded_run source bounded (read text.toList).steps []
  rw [evaluate, Reading.value]
  generalize run source.recorded (read text.toList).steps [] recording = result at ran ⊢
  obtain ⟨_ | _ | ⟨value, stack⟩, later⟩ := result <;> exact ran

end

/-- Dice that were thrown for an operator: as many as the rounded left operand, each of as many
sides as the rounded right one, and the value is what they show together, rounded once. -/
structure Throw (count faces value : Binary64) (draws : List (Nat × Nat)) (dice sides : Nat) :
    Prop where
  counted : count.roundHalfAway.IsWhole dice
  sided : faces.roundHalfAway.IsWhole sides
  two_le : 2 ≤ sides
  asked : draws.map Prod.fst = List.replicate dice sides
  value : value = .ofNat (draws.map Prod.snd).sum

/-- The throws of a source are a throw of as many dice. -/
theorem throw_throws (source : Source σ) {count faces : Binary64} {dice sides : Nat}
    (counted : count.roundHalfAway.IsWhole dice) (sided : faces.roundHalfAway.IsWhole sides)
    (two_le : 2 ≤ sides) (state : σ) :
    Throw count faces (.ofNat (source.throws sides dice state).1.sum)
      ((source.throws sides dice state).1.map (sides, ·)) dice sides := by
  refine ⟨counted, sided, two_le, ?_, ?_⟩
  · have alike : Prod.fst ∘ (sides, ·) = fun _ : Nat => sides := rfl
    rw [List.map_map, alike, List.map_const', source.length_throws]
  · rw [List.map_map, show Prod.snd ∘ (sides, ·) = (id : Nat → Nat) from rfl, List.map_id]

/-- Fair dice show no less than they are many and no more than all of their sides, and their sum is
not so great that it has no nearest double. -/
theorem Source.Fair.bounds {source : Source σ} (fair : source.Fair) {dice sides : Nat}
    (countable : dice ≤ maxDice) (sided : 0 < sides) (within : sides ≤ maxDice) (state : σ) :
    dice ≤ (source.throws sides dice state).1.sum ∧
      (source.throws sides dice state).1.sum ≤ dice * sides ∧
      NearestTo (.ofNat (source.throws sides dice state).1.sum)
        (source.throws sides dice state).1.sum := by
  obtain ⟨least, most⟩ := fair.sum_throws sided dice state
  have all : dice * sides ≤ maxDice * maxDice := Nat.mul_le_mul countable within
  have small : maxDice * maxDice < 2 ^ (64 : Nat) := by decide
  have finite := Nat.pow_le_pow_right Nat.two_pos (by decide : 64 ≤ 1023)
  exact ⟨least, most, nearestTo_ofNat
    (Nat.lt_of_le_of_lt (Nat.le_trans most all) (Nat.lt_of_lt_of_le small finite))⟩

/-- **Dice stay within their bounds.** Sides that round to one, negative or not, only multiply.
Others are rolled exactly when the rounded count and the rounded sides are within bounds: as many as
were counted, each of the same sides. Fair dice add up to no less than they are many and no more
than all of their sides, and the value is the double nearest to that sum. Whatever a text says, its
evaluation asks for dice of at least two sides, and not too many. -/
theorem rolls_within_bounds (source : Source σ) (state : σ) :
    (∀ (count faces : Binary64) (result : Option Binary64) (recording : Source.Recording σ),
      apply source.recorded .roll count faces ⟨state, []⟩ = (result, recording) →
      apply source .roll count faces state = (result, recording.state) ∧
      (faces.abs.roundHalfAway.eqv 1 = true →
        result = some (count * faces) ∧ recording = ⟨state, []⟩) ∧
      (faces.abs.roundHalfAway.eqv 1 = false →
        (result.isSome ↔ Rollable 0 count.roundHalfAway ∧ Rollable 1 faces.roundHalfAway) ∧
        (result = none → recording = ⟨state, []⟩) ∧
        ∀ value ∈ result, ∃ (dice sides : Nat) (draws : List (Nat × Nat)),
          recording.draws = draws.reverse ∧ Throw count faces value draws dice sides ∧
          (source.Fair →
            dice ≤ (draws.map Prod.snd).sum ∧ (draws.map Prod.snd).sum ≤ dice * sides ∧
            value.NearestTo (draws.map Prod.snd).sum))) ∧
    ∀ text : String, Bounded (evaluate source.recorded text ⟨state, []⟩).2.draws := by
  have nothing : Bounded (Source.Recording.mk state []).draws := List.forall_mem_nil _
  refine ⟨fun count faces result recording applied => ?_, bounded_evaluate source nothing⟩
  have same := apply_recorded source .roll count faces ⟨state, []⟩
  have rolled : RollsTo source.recorded count faces ⟨state, []⟩ (result, recording) :=
    applied ▸ rollsTo_roll source.recorded count faces ⟨state, []⟩
  rw [applied] at same
  refine ⟨Prod.ext same.value.symm same.state.symm, ?_⟩
  generalize whole : (result, recording) = pair at rolled
  cases rolled with
  | single single =>
      obtain ⟨rfl, rfl⟩ := Prod.mk.inj whole
      exact ⟨fun _ => ⟨rfl, rfl⟩,
        fun several => absurd (several.symm.trans single) Bool.false_ne_true⟩
  | refused several out =>
      obtain ⟨rfl, rfl⟩ := Prod.mk.inj whole
      refine ⟨fun single => absurd (several.symm.trans single) Bool.false_ne_true,
        fun _ => ⟨?_, fun _ => rfl, fun _ valued => nomatch valued⟩⟩
      exact ⟨fun valued => absurd valued Bool.false_ne_true, fun bounded => absurd bounded out⟩
  | @thrown dice sides several counted countable sided two_le within =>
      have pos : 0 < sides := Nat.lt_of_lt_of_le Nat.two_pos two_le
      rw [source.throws_recorded, List.append_nil] at whole
      obtain ⟨rfl, rfl⟩ := Prod.mk.inj whole
      refine ⟨fun single => absurd (several.symm.trans single) Bool.false_ne_true,
        fun _ => ⟨⟨fun _ => ⟨?_, ?_⟩, fun _ => rfl⟩,
          fun none => absurd none (Option.some_ne_none _), ?_⟩⟩
      · exact (rollable_iff (entire_roundHalfAway count) (Nat.zero_le _)).mpr
          ⟨dice, counted, Nat.zero_le dice, countable⟩
      · exact (rollable_iff (entire_roundHalfAway faces) (by decide)).mpr
          ⟨sides, sided, pos, within⟩
      · intro value valued
        obtain rfl := Option.some.inj valued
        have thrown := throw_throws source counted sided two_le state
        refine ⟨dice, sides, _, rfl, thrown, fun fair => ?_⟩
        have shown := fair.bounds countable pos within state
        rwa [List.map_map, show Prod.snd ∘ (sides, ·) = id from rfl, List.map_id]

/-- Every die shows its highest face. -/
def highest : Source Unit := ⟨fun sides state => (sides, state)⟩

/-- Two dice of six sides that show their highest faces. -/
theorem rolls_within_bounds_highest :
    highest.Fair ∧ (apply highest.recorded .roll 2 6 ⟨(), []⟩).1 = some 12 ∧
      (∃ (dice sides : Nat) (draws : List (Nat × Nat)),
        (apply highest.recorded .roll 2 6 ⟨(), []⟩).2.draws = draws.reverse ∧
        Throw 2 6 12 draws dice sides ∧
        dice ≤ (draws.map Prod.snd).sum ∧ (draws.map Prod.snd).sum ≤ dice * sides ∧
        (12 : Binary64).NearestTo (draws.map Prod.snd).sum) ∧
      Bounded (evaluate highest.recorded "2d6-1d1" ⟨(), []⟩).2.draws := by
  have fair : highest.Fair := fun sides _ sided => ⟨sided, Nat.le_refl sides⟩
  have value : (apply highest.recorded .roll 2 6 ⟨(), []⟩).1 = some 12 := by decide +kernel
  obtain ⟨rolls, evaluates⟩ := rolls_within_bounds highest ()
  obtain ⟨-, -, several⟩ := rolls 2 6 _ _ (Prod.eta _).symm
  obtain ⟨-, -, thrown⟩ := several (by decide +kernel)
  obtain ⟨dice, sides, draws, asked, throw, within⟩ := thrown 12 value
  exact ⟨fair, value, ⟨dice, sides, draws, asked, throw, within fair⟩, evaluates "2d6-1d1"⟩

end Dice

end DiceLedger
