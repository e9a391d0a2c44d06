import DiceLedger.Proofs.Chance.Trials

/-! # Odds over thresholds and trials

An estimate is read off the values of its trials, which do not hang on the threshold: of two
thresholds the lower one is passed at least as often, with the same dice, and the passes of many
trials are those of the first of them and those of the others, which go on from where the first ones
left the source (`DiceLedger.Chance.estimateOdds_antitone_additive`).
-/

namespace DiceLedger

namespace Chance

open Dice

variable {σ : Type}

/-- What trials with the given values say of a threshold. -/
def estimateOf (expression : String) (threshold : Binary64) (values : List (Option Binary64)) :
    OddsEstimate :=
  { expression := expression
    threshold := threshold
    trials := values.length
    passes := values.countP (reaches threshold)
    percent := percent (values.countP (reaches threshold)) values.length }

section

variable (source : Source σ) (expression : String) (threshold : Binary64)

/-- An estimate is read off the values of its trials. -/
theorem estimateOdds_eq {trials : Int} (positive : 0 < trials) (state : σ) :
    estimateOdds source expression threshold trials state =
      .ok (estimateOf expression threshold
          (trialValues source expression trials.toNat state).1,
        (trialValues source expression trials.toNat state).2) := by
  have length := length_trialValues source expression trials.toNat state
  rw [estimateOdds, if_neg (Int.not_le.mpr positive), countPasses_eq, estimateOf, length]

end

/-- Of two thresholds the lower one is passed at least as often. -/
theorem countP_reaches_antitone {lower upper : Binary64} (below : lower.le upper = true)
    (values : List (Option Binary64)) :
    values.countP (reaches upper) ≤ values.countP (reaches lower) :=
  List.countP_mono_left fun _ _ => reaches_of_le below

/-- A trial without a value is no pass. -/
theorem countP_reaches_add_isNone_le (threshold : Binary64) (values : List (Option Binary64)) :
    values.countP (reaches threshold) + values.countP Option.isNone ≤ values.length := by
  have split := values.length_eq_countP_add_countP Option.isNone
  have valued : values.countP (reaches threshold) ≤
      values.countP fun value => ¬value.isNone = true := by
    refine List.countP_mono_left fun value _ reached => ?_
    cases value with
    | none => cases reached
    | some value => rfl
  omega

section

variable (source : Source σ) (expression : String) (state : σ) {trials more : Int}

/-- The same trials are held against a threshold and a greater one, which is passed no more
often. -/
theorem estimateOdds_of_le {lower upper : Binary64} (below : lower.le upper = true)
    (positive : 0 < trials) :
    ∃ (often seldom : OddsEstimate) (recording : Source.Recording σ),
      estimateOdds source expression lower trials state = .ok (often, recording.state) ∧
      estimateOdds source expression upper trials state = .ok (seldom, recording.state) ∧
      estimateOdds source.recorded expression lower trials ⟨state, []⟩ = .ok (often, recording) ∧
      estimateOdds source.recorded expression upper trials ⟨state, []⟩ = .ok (seldom, recording) ∧
      seldom.passes ≤ often.passes ∧ often.passes ≤ trials := by
  have recorded := trialValues_recorded source expression trials.toNat ⟨state, []⟩
  have length := length_trialValues source.recorded expression trials.toNat ⟨state, []⟩
  have plain (threshold : Binary64) := estimateOdds_eq source expression threshold positive state
  have noted (threshold : Binary64) :=
    estimateOdds_eq source.recorded expression threshold positive ⟨state, []⟩
  rw [← recorded.value, ← recorded.state] at plain
  generalize trialValues source.recorded expression trials.toNat ⟨state, []⟩ = held
    at length plain noted
  obtain ⟨values, recording⟩ := held
  dsimp only at length
  refine ⟨_, _, recording, plain lower, plain upper, noted lower, noted upper,
    countP_reaches_antitone below values, ?_⟩
  have passed : values.countP (reaches lower) ≤ values.length := List.countP_le_length
  simp only [estimateOf]
  omega

/-- Further trials add their passes to those of the first ones. -/
theorem estimateOdds_add (threshold : Binary64) (positive : 0 < trials) (further : 0 < more) :
    ∃ (first later whole : OddsEstimate) (middle last : σ),
      estimateOdds source expression threshold trials state = .ok (first, middle) ∧
      estimateOdds source expression threshold more middle = .ok (later, last) ∧
      estimateOdds source expression threshold (trials + more) state = .ok (whole, last) ∧
      whole.passes = first.passes + later.passes := by
  have all := estimateOdds_eq source expression threshold (Int.add_pos positive further) state
  rw [Int.toNat_add (Int.le_of_lt positive) (Int.le_of_lt further), trialValues_add] at all
  exact ⟨_, _, _, _, _, estimateOdds_eq source expression threshold positive state,
    estimateOdds_eq source expression threshold further _, all, List.countP_append⟩

/-- An estimate counts no trial without a value. -/
theorem estimateOdds_isNone (threshold : Binary64) (positive : 0 < trials) :
    ∃ (estimate : OddsEstimate) (last : σ),
      estimateOdds source expression threshold trials state = .ok (estimate, last) ∧
      estimate.passes + (trialValues source expression trials.toNat state).1.countP
        Option.isNone ≤ trials := by
  have counted := countP_reaches_add_isNone_le threshold
    (trialValues source expression trials.toNat state).1
  rw [length_trialValues] at counted
  refine ⟨_, _, estimateOdds_eq source expression threshold positive state, ?_⟩
  simp only [estimateOf]
  omega

/-- **Odds fall with the threshold and add up over the trials.** From one state of a source a
threshold and a greater one are estimated with the same draws, and the greater one is passed no more
often. So many trials and then others pass as often as all of them in a row, and a trial without a
value is no pass. -/
theorem estimateOdds_antitone_additive :
    (∀ {lower upper : Binary64} {trials : Int}, lower.le upper = true → 0 < trials →
      ∃ (often seldom : OddsEstimate) (recording : Source.Recording σ),
        estimateOdds source expression lower trials state = .ok (often, recording.state) ∧
        estimateOdds source expression upper trials state = .ok (seldom, recording.state) ∧
        estimateOdds source.recorded expression lower trials ⟨state, []⟩ =
          .ok (often, recording) ∧
        estimateOdds source.recorded expression upper trials ⟨state, []⟩ =
          .ok (seldom, recording) ∧
        seldom.passes ≤ often.passes ∧ often.passes ≤ trials) ∧
    (∀ (threshold : Binary64) {trials more : Int}, 0 < trials → 0 < more →
      ∃ (first later whole : OddsEstimate) (middle last : σ),
        estimateOdds source expression threshold trials state = .ok (first, middle) ∧
        estimateOdds source expression threshold more middle = .ok (later, last) ∧
        estimateOdds source expression threshold (trials + more) state = .ok (whole, last) ∧
        whole.passes = first.passes + later.passes) ∧
    ∀ (threshold : Binary64) {trials : Int}, 0 < trials →
      ∃ (estimate : OddsEstimate) (last : σ),
        estimateOdds source expression threshold trials state = .ok (estimate, last) ∧
        estimate.passes + (trialValues source expression trials.toNat state).1.countP
          Option.isNone ≤ trials :=
  ⟨estimateOdds_of_le source expression state, fun threshold =>
    estimateOdds_add source expression state threshold, fun threshold =>
    estimateOdds_isNone source expression state threshold⟩

end

/-- A quotient that has no value when the die shows a one. -/
theorem estimateOdds_antitone_additive_quotient :
    (estimateOdds inTurn "12/(1d3-1)" 6 3 0).map (·.1.passes) = .ok 2 ∧
      (estimateOdds inTurn "12/(1d3-1)" 10 3 0).map (·.1.passes) = .ok 1 ∧
      (∃ (often seldom : OddsEstimate) (recording : Source.Recording Nat),
        estimateOdds inTurn "12/(1d3-1)" 6 3 0 = .ok (often, recording.state) ∧
        estimateOdds inTurn "12/(1d3-1)" 10 3 0 = .ok (seldom, recording.state) ∧
        estimateOdds inTurn.recorded "12/(1d3-1)" 6 3 ⟨0, []⟩ = .ok (often, recording) ∧
        estimateOdds inTurn.recorded "12/(1d3-1)" 10 3 ⟨0, []⟩ = .ok (seldom, recording) ∧
        seldom.passes ≤ often.passes ∧ (often.passes : Int) ≤ 3) ∧
      ∃ (first later whole : OddsEstimate) (middle last : Nat),
        estimateOdds inTurn "12/(1d3-1)" 10 1 0 = .ok (first, middle) ∧
        estimateOdds inTurn "12/(1d3-1)" 10 2 middle = .ok (later, last) ∧
        estimateOdds inTurn "12/(1d3-1)" 10 3 0 = .ok (whole, last) ∧
        whole.passes = first.passes + later.passes := by
  have odds := estimateOdds_antitone_additive inTurn "12/(1d3-1)" 0
  exact ⟨by decide +kernel, by decide +kernel, odds.1 (by decide +kernel) (by decide),
    odds.2.1 10 (by decide) (by decide)⟩

end Chance

end DiceLedger
