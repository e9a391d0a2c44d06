import DiceLedger.Chance.Luck
import DiceLedger.Proofs.Binary64.Near
import DiceLedger.Proofs.Chance.Trials
import Mathlib.Algebra.Order.Field.Rat
import Mathlib.Data.List.Forall2
import Mathlib.Tactic.GCongr
import Mathlib.Tactic.Linarith

/-! # Counted luck

Every replay is counted at most once: it beats the record, ties with it or does neither
(`DiceLedger.Chance.counted_replayDice_le`). What is drawn hangs on the faces alone, so records of
the same faces are compared with the same replays, and a higher record is beaten no more often, nor
is it when a tie counts for half (`DiceLedger.Chance.unbeaten_replayDice`). Both carry over to
reports, whose percentage is that of the counts, rounded to two places
(`DiceLedger.Chance.LuckReport.near_exactPercent`,
`DiceLedger.Chance.compareLuck_conserved_monotone`). -/

namespace DiceLedger

namespace Chance

open Dice

variable {σ : Type} (source : Source σ)

theorem replayDie_succ (die : Die) (repetitions : Nat) (replays : Replays) (state : σ) :
    replayDie source die (repetitions + 1) replays state =
      replayDie source die repetitions
        (replays.add (evaluate source (replayExpression die) state).1 die.outcome)
        (evaluate source (replayExpression die) state).2 :=
  rfl

theorem replayDice_cons (repetitions : Nat) (die : Die) (rest : List Die) (replays : Replays)
    (state : σ) :
    replayDice source repetitions (die :: rest) replays state =
      replayDice source repetitions rest (replayDie source die repetitions replays state).1
        (replayDie source die repetitions replays state).2 :=
  rfl

/-- Recording a source changes no count of replays. -/
theorem replayDie_recorded (die : Die) (repetitions : Nat) (replays : Replays)
    (recording : Source.Recording σ) :
    SameResult (replayDie source.recorded die repetitions replays recording)
      (replayDie source die repetitions replays recording.state) := by
  induction repetitions generalizing replays recording with
  | zero => exact ⟨rfl, rfl⟩
  | succ repetitions ih =>
      have now := evaluate_recorded source (replayExpression die) recording
      rw [replayDie_succ, replayDie_succ, ← now.value, ← now.state]
      exact ih _ _

/-- Recording changes neither the counts nor the source. -/
theorem replayDice_recorded (repetitions : Nat) (dice : List Die) (replays : Replays)
    (recording : Source.Recording σ) :
    SameResult (replayDice source.recorded repetitions dice replays recording)
      (replayDice source repetitions dice replays recording.state) := by
  induction dice generalizing replays recording with
  | nil => exact ⟨rfl, rfl⟩
  | cons die rest ih =>
      have now := replayDie_recorded source die repetitions replays recording
      rw [replayDice_cons, replayDice_cons, ← now.value, ← now.state]
      exact ih _ _

/-- How many replays beat the record or tied with it. -/
def Replays.counted (replays : Replays) : Nat := replays.beaten + replays.tied

/-- Records that were beaten no more often, even when a tie counts for half. -/
structure Unbeaten (higher lower : Replays) : Prop where
  beaten : higher.beaten ≤ lower.beaten
  scored : 2 * higher.beaten + higher.tied ≤ 2 * lower.beaten + lower.tied

variable {replays higher lower : Replays}

/-- A replay counts once, or not at all. -/
theorem Replays.counted_add_le (value : Option Binary64) (outcome : Int) :
    (replays.add value outcome).counted ≤ replays.counted + 1 := by
  unfold Replays.add counted
  split <;> grind

/-- Counting a replay never takes anything back. -/
theorem Unbeaten.add_lower (unbeaten : Unbeaten higher lower) (value : Option Binary64)
    (outcome : Int) : Unbeaten higher (lower.add value outcome) := by
  obtain ⟨beaten, scored⟩ := unbeaten
  unfold Replays.add
  constructor <;> split <;> grind

/-- The same replay counts for no more against a higher record. -/
theorem Unbeaten.add (unbeaten : Unbeaten higher lower) {n m : Int} (le : n ≤ m)
    (value : Option Binary64) : Unbeaten (higher.add value m) (lower.add value n) := by
  obtain ⟨beaten, scored⟩ := id unbeaten
  rw [Replays.add]
  split
  · next past =>
    obtain ⟨number, rfl, past⟩ := Option.bind_eq_some_iff.mp past
    rw [Replays.add, Option.bind_some, Binary64.compareInt?_gt_of_le past le]
    exact ⟨Nat.succ_le_succ beaten, by dsimp only; omega⟩
  · next same =>
    obtain ⟨number, rfl, equal⟩ := Option.bind_eq_some_iff.mp same
    rcases Int.lt_or_eq_of_le le with less | rfl
    · rw [Replays.add, Option.bind_some, Binary64.compareInt?_gt_of_lt equal less]
      exact ⟨Nat.le_succ_of_le beaten, by dsimp only; omega⟩
    · rw [Replays.add, Option.bind_some, equal]
      exact ⟨beaten, by dsimp only; omega⟩
  · exact unbeaten.add_lower value n

/-- Each repetition of a die counts once at most. -/
theorem counted_replayDie_le (die : Die) (repetitions : Nat) (replays : Replays) (state : σ) :
    (replayDie source die repetitions replays state).1.counted ≤
      replays.counted + repetitions := by
  induction repetitions generalizing replays state with
  | zero => exact Nat.le_refl _
  | succ repetitions ih =>
      have now := replays.counted_add_le (evaluate source (replayExpression die) state).1
        die.outcome
      rw [replayDie_succ]
      exact Nat.le_trans (ih _ _) (by omega)

/-- Each repetition of each die counts once at most. -/
theorem counted_replayDice_le (repetitions : Nat) (dice : List Die) (replays : Replays)
    (state : σ) :
    (replayDice source repetitions dice replays state).1.counted ≤
      replays.counted + dice.length * repetitions := by
  induction dice generalizing replays state with
  | nil => exact Nat.le_add_right _ _
  | cons die rest ih =>
      have now := counted_replayDie_le source die repetitions replays state
      rw [replayDice_cons, List.length_cons, Nat.succ_mul]
      exact Nat.le_trans (ih _ _) (by omega)

/-- The same die, with a record at least as high. -/
structure Raised (die higher : Die) : Prop where
  faces : higher.faces = die.faces
  outcome : die.outcome ≤ higher.outcome

/-- Dice of the same faces are replayed alike. -/
theorem unbeaten_replayDie {die raised : Die} (higherDie : Raised die raised)
    (unbeaten : Unbeaten higher lower) (repetitions : Nat) (state : σ) :
    Unbeaten (replayDie source raised repetitions higher state).1
        (replayDie source die repetitions lower state).1 ∧
      (replayDie source raised repetitions higher state).2 =
        (replayDie source die repetitions lower state).2 := by
  have same : replayExpression raised = replayExpression die :=
    congrArg (fun faces => "1d" ++ toString faces) higherDie.faces
  induction repetitions generalizing higher lower state with
  | zero => exact ⟨unbeaten, rfl⟩
  | succ repetitions ih =>
      rw [replayDie_succ, replayDie_succ, same]
      exact ih (unbeaten.add higherDie.outcome _) _

/-- Higher records of the same faces are replayed with the same values, and are beaten no more
often. -/
theorem unbeaten_replayDice {dice raised : List Die} (higherDice : List.Forall₂ Raised dice raised)
    (unbeaten : Unbeaten higher lower) (repetitions : Nat) (state : σ) :
    Unbeaten (replayDice source repetitions raised higher state).1
        (replayDice source repetitions dice lower state).1 ∧
      (replayDice source repetitions raised higher state).2 =
        (replayDice source repetitions dice lower state).2 := by
  induction higherDice generalizing higher lower state with
  | nil => exact ⟨unbeaten, rfl⟩
  | cons first _ ih =>
      obtain ⟨now, same⟩ := unbeaten_replayDie source first unbeaten repetitions state
      rw [replayDice_cons, replayDice_cons, same]
      exact ih now _

/-- A comparison replays all dice from the counts of nothing. -/
theorem compareLuck_eq (dice : List Die) {repetitions : Int} (pos : 0 < repetitions) (state : σ) :
    compareLuck source dice repetitions state =
      .ok (if dice.length * repetitions.toNat = 0 then none
        else some (.ofReplays (dice.length * repetitions.toNat)
          (replayDice source repetitions.toNat dice ⟨0, 0⟩ state).1),
        (replayDice source repetitions.toNat dice ⟨0, 0⟩ state).2) :=
  if_neg (Int.not_le.mpr pos)

/-- What was not counted is lost. -/
theorem LuckReport.conserved {rolled : Nat} (le : replays.counted ≤ rolled) :
    (LuckReport.ofReplays rolled replays).beaten + (LuckReport.ofReplays rolled replays).tied +
      (LuckReport.ofReplays rolled replays).lost = rolled := by
  unfold Replays.counted at le
  dsimp only [LuckReport.ofReplays]
  omega

/-- Luck in percent of perfect luck, before any rounding. -/
def LuckReport.exactPercent (report : LuckReport) : ℚ :=
  100 - (report.beaten + report.tied / 2) / report.rolled * 100

/-- Who is beaten no more often has no less of perfect luck. -/
theorem Unbeaten.exactPercent_le (unbeaten : Unbeaten higher lower) (rolled : Nat) :
    (LuckReport.ofReplays rolled lower).exactPercent ≤
      (LuckReport.ofReplays rolled higher).exactPercent := by
  have scored : (2 * higher.beaten + higher.tied : ℚ) ≤ 2 * lower.beaten + lower.tied := by
    exact_mod_cast unbeaten.scored
  have halves : (higher.beaten + higher.tied / 2 : ℚ) ≤ lower.beaten + lower.tied / 2 := by
    linarith
  unfold LuckReport.exactPercent
  dsimp only [LuckReport.ofReplays]
  gcongr

/-- Rates that are rounded themselves make a percentage that is rounded to two places: off by half a
hundredth, and by a billionth for all the roundings on the way. -/
theorem near_percent {beaten tied : Binary64} {beatenRate tiedRate : ℚ}
    (beatenNear : beaten.Near beatenRate Binary64.grain)
    (tiedNear : tied.Near tiedRate Binary64.grain) (beatenNonneg : 0 ≤ beatenRate)
    (tiedNonneg : 0 ≤ tiedRate) (shares : beatenRate + tiedRate ≤ 1) :
    (100 - ((beaten + tied / 2) * 100).roundHundredths).Near
      (100 - (beatenRate + tiedRate / 2) * 100) (1 / 200 + 1 / 10 ^ (9 : Nat)) := by
  have two : (2 : Binary64).value? = some (2 : ℚ) := by
    exact_mod_cast Binary64.value?_ofNat (by decide : 2 < 2 ^ (53 : Nat))
  have hundred : (100 : Binary64).value? = some (100 : ℚ) := by
    exact_mod_cast Binary64.value?_ofNat (by decide : 100 < 2 ^ (53 : Nat))
  have grain : Binary64.grain = 1 / 2 ^ (45 : Nat) := rfl
  have half : |tiedRate / 2| ≤ 1 := by
    rw [abs_of_nonneg (by linarith)]
    linarith
  have sum : |beatenRate + tiedRate / 2| ≤ 1 := by
    rw [abs_of_nonneg (by linarith)]
    linarith
  have percent : |(beatenRate + tiedRate / 2) * 100| ≤ 100 := by
    rw [abs_mul, abs_of_pos (by norm_num : (0 : ℚ) < 100)]
    linarith
  have rest : |100 + -((beatenRate + tiedRate / 2) * 100)| ≤ 200 := by
    refine (abs_add_le _ _).trans ?_
    rw [abs_neg, abs_of_pos (by norm_num : (0 : ℚ) < 100)]
    linarith
  -- The margin grows from step to step, and stays far below a billionth up to the last one.
  rw [grain] at beatenNear tiedNear
  have halved : (tied / 2).Near (tiedRate / 2) (1 / 2 ^ (44 : Nat)) :=
    (tiedNear.div two (by norm_num) (by norm_num; linarith)).mono (by norm_num [grain])
  have added : (beaten + tied / 2).Near (beatenRate + tiedRate / 2) (1 / 2 ^ (43 : Nat)) :=
    (beatenNear.add halved (by norm_num; linarith)).mono (by norm_num [grain])
  have scaled : ((beaten + tied / 2) * 100).Near ((beatenRate + tiedRate / 2) * 100)
      (1 / 2 ^ (36 : Nat)) :=
    (added.mul hundred (by norm_num; linarith)).mono (by norm_num [grain])
  have rounded : ((beaten + tied / 2) * 100).roundHundredths.Near
      ((beatenRate + tiedRate / 2) * 100) (1 / 200 + 1 / 2 ^ (35 : Nat)) :=
    (scaled.roundHundredths (by norm_num; linarith)).mono (by norm_num [grain])
  have whole : Binary64.Near 100 100 0 := ⟨_, hundred, by norm_num⟩
  rw [sub_eq_add_neg]
  exact (whole.add rounded.neg (by norm_num; linarith)).mono
    (by norm_num [grain])

/-- The percentage that is reported is the exact one but for rounding. -/
theorem LuckReport.near_exactPercent {rolled : Nat} (played : 0 < rolled)
    (le : replays.counted ≤ rolled) :
    (LuckReport.ofReplays rolled replays).percentOfPerfect.Near
      (LuckReport.ofReplays rolled replays).exactPercent (1 / 200 + 1 / 10 ^ (9 : Nat)) := by
  have rolledPos : (0 : ℚ) < rolled := Nat.cast_pos.mpr played
  have shares : (replays.beaten / rolled + replays.tied / rolled : ℚ) ≤ 1 := by
    rw [← add_div, div_le_one rolledPos]
    exact_mod_cast le
  have beatenNonneg : (0 : ℚ) ≤ replays.beaten / rolled := by positivity
  have tiedNonneg : (0 : ℚ) ≤ replays.tied / rolled := by positivity
  have exact : (LuckReport.ofReplays rolled replays).exactPercent =
      100 - (replays.beaten / rolled + replays.tied / rolled / 2) * 100 := by
    rw [exactPercent, ofReplays]
    ring
  rw [exact]
  exact near_percent (.of_ofRatio played (by linarith)) (.of_ofRatio played (by linarith))
    beatenNonneg tiedNonneg shares

/-- **Luck is counted whole, and raised records are never unluckier.** Of the same faces, higher
records are beaten no more often, nor when a tie counts for half. So the exact percentage of perfect
luck does not fall, and the one that is reported is that, rounded to two places. -/
theorem compareLuck_conserved_monotone {repetitions : Int} (pos : 0 < repetitions) (state : σ) :
    (∀ dice : List Die, ∃ (report : Option LuckReport) (recording : Source.Recording σ),
      compareLuck source dice repetitions state = .ok (report, recording.state) ∧
      compareLuck source.recorded dice repetitions ⟨state, []⟩ = .ok (report, recording) ∧
      (report = none ↔ dice = []) ∧
      ∀ found ∈ report, (found.rolled : Int) = dice.length * repetitions ∧
        found.beaten + found.tied + found.lost = found.rolled ∧
        found.percentOfPerfect.Near found.exactPercent (1 / 200 + 1 / 10 ^ (9 : Nat))) ∧
    ∀ dice raised : List Die, List.Forall₂ Raised dice raised →
      ∃ (before after : Option LuckReport) (recording : Source.Recording σ),
        compareLuck source.recorded dice repetitions ⟨state, []⟩ = .ok (before, recording) ∧
        compareLuck source.recorded raised repetitions ⟨state, []⟩ = .ok (after, recording) ∧
        ∀ lower ∈ before, ∀ higher ∈ after,
          higher.beaten ≤ lower.beaten ∧
          2 * higher.beaten + higher.tied ≤ 2 * lower.beaten + lower.tied ∧
          lower.exactPercent ≤ higher.exactPercent := by
  have cast : (repetitions.toNat : Int) = repetitions := Int.toNat_of_nonneg (Int.le_of_lt pos)
  refine ⟨fun dice => ?_, fun dice raised higherDice => ?_⟩
  · have same := replayDice_recorded source repetitions.toNat dice ⟨0, 0⟩ ⟨state, []⟩
    have counted := counted_replayDice_le source.recorded repetitions.toNat dice ⟨0, 0⟩ ⟨state, []⟩
    rw [show (⟨0, 0⟩ : Replays).counted = 0 from rfl, Nat.zero_add] at counted
    rw [compareLuck_eq _ _ pos, compareLuck_eq _ _ pos, ← same.value, ← same.state]
    generalize replayDice source.recorded repetitions.toNat dice ⟨0, 0⟩ ⟨state, []⟩ = result
      at counted ⊢
    refine ⟨_, _, rfl, rfl, ?_, fun found member => ?_⟩
    · have positive : repetitions.toNat ≠ 0 := by omega
      simp [positive]
    · obtain ⟨played, member⟩ := Option.ite_none_left_eq_some.mp member
      obtain rfl := Option.some.inj member
      refine ⟨?_, LuckReport.conserved counted, ?_⟩
      · rw [← cast]
        exact Int.natCast_mul _ _
      · exact LuckReport.near_exactPercent (Nat.pos_of_ne_zero played) counted
  · obtain ⟨unbeaten, same⟩ := unbeaten_replayDice source.recorded higherDice
      (⟨Nat.le_refl 0, Nat.le_refl 0⟩ : Unbeaten ⟨0, 0⟩ ⟨0, 0⟩) repetitions.toNat ⟨state, []⟩
    rw [compareLuck_eq _ _ pos, compareLuck_eq _ _ pos, same, ← higherDice.length_eq]
    refine ⟨_, _, _, rfl, rfl, fun lower before higher after => ?_⟩
    obtain ⟨-, before⟩ := Option.ite_none_left_eq_some.mp before
    obtain ⟨-, after⟩ := Option.ite_none_left_eq_some.mp after
    obtain rfl := Option.some.inj before
    obtain rfl := Option.some.inj after
    exact ⟨unbeaten.beaten, unbeaten.scored, unbeaten.exactPercent_le _⟩

/-- Two recorded dice, one of them raised, against two replays each. -/
theorem compareLuck_conserved_monotone_pair :
    (compareLuck inTurn [⟨3, 1⟩, ⟨2, 1⟩] 2 0).map (·.1.map fun report =>
        (report.rolled, report.beaten, report.tied, report.lost)) = .ok (some (4, 2, 2, 0)) ∧
      (∃ (report : Option LuckReport) (recording : Source.Recording Nat),
        compareLuck inTurn [⟨3, 1⟩, ⟨2, 1⟩] 2 0 = .ok (report, recording.state) ∧
        ∀ found ∈ report, (found.rolled : Int) = 2 * 2 ∧
          found.beaten + found.tied + found.lost = found.rolled ∧
          found.percentOfPerfect.Near found.exactPercent (1 / 200 + 1 / 10 ^ (9 : Nat))) ∧
      ∃ (before after : Option LuckReport) (recording : Source.Recording Nat),
        compareLuck inTurn.recorded [⟨3, 1⟩, ⟨2, 1⟩] 2 ⟨0, []⟩ = .ok (before, recording) ∧
        compareLuck inTurn.recorded [⟨3, 2⟩, ⟨2, 1⟩] 2 ⟨0, []⟩ = .ok (after, recording) ∧
        ∀ lower ∈ before, ∀ higher ∈ after, higher.beaten ≤ lower.beaten ∧
          2 * higher.beaten + higher.tied ≤ 2 * lower.beaten + lower.tied ∧
          lower.exactPercent ≤ higher.exactPercent := by
  have repeated : (0 : Int) < 2 := by decide
  obtain ⟨conserved, monotone⟩ := compareLuck_conserved_monotone inTurn repeated 0
  obtain ⟨report, recording, plain, -, -, counted⟩ := conserved [⟨3, 1⟩, ⟨2, 1⟩]
  refine ⟨by decide +kernel, ⟨report, recording, plain, counted⟩, monotone _ _ ?_⟩
  exact .cons ⟨rfl, by decide⟩ (.cons ⟨rfl, by decide⟩ .nil)

end Chance

end DiceLedger
