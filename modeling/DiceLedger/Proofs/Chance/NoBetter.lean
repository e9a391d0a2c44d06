import DiceLedger.Proofs.Chance.LeastLikely
import DiceLedger.Proofs.Dice.WholeValues
import Mathlib.Algebra.Order.Field.Rat
import Mathlib.Tactic.FieldSimp
import Mathlib.Tactic.LinearCombination

/-! # Results no better than the recorded one

The percentage of a worst roll is what is left when the trials that exceed the recorded outcome by
one are taken away. Left are the trials that do no better than the outcome, those that fail, and
those that come to less than one more (`DiceLedger.Chance.Tried.worstShare_eq`). Of formulas that
come to whole numbers only the failures are counted besides
(`DiceLedger.Chance.worstShare_no_better`); where a result has a fraction, it may be counted too
(`DiceLedger.Chance.better_by_half_counted`). -/

namespace DiceLedger

namespace Chance

open Dice

variable {σ : Type}

/-- Whether a trial has a value that is not above the outcome. -/
def noBetter (outcome : Binary64) (value : Option Binary64) : Bool := value.any (·.le outcome)

/-- Whether a trial has no value, or none that is a number. -/
def failed (value : Option Binary64) : Bool := value.all (·.isNaN)

/-- Whether a trial has a value above the outcome, and yet below one more. -/
def betweenSteps (outcome : Binary64) (value : Option Binary64) : Bool :=
  value.any fun value => outcome.lt value && value.lt (outcome + 1)

/-- Whether a trial's value is not above the outcome, and yet not below one more: the outcome is so
great that one more is no other number. -/
def bothSides (outcome : Binary64) (value : Option Binary64) : Bool :=
  noBetter outcome value && reaches (outcome + 1) value

/-- Every trial exceeds the outcome by one, is no better, fails, or lies between. -/
theorem toNat_reaches_add {outcome : Binary64} (number : outcome.isNaN = false)
    (next : (outcome + 1).isNaN = false) (value : Option Binary64) :
    (reaches (outcome + 1) value).toNat + (noBetter outcome value).toNat + (failed value).toNat +
        (betweenSteps outcome value).toNat = 1 + (bothSides outcome value).toNat := by
  cases value with
  | none => rfl
  | some value =>
      obtain ⟨here, outcomeAt⟩ := Binary64.exists_place number
      obtain ⟨above, nextAt⟩ := Binary64.exists_place next
      simp only [bothSides, reaches, noBetter, failed, betweenSteps, Option.any_some,
        Option.all_some]
      cases valued : value.isNaN with
      | true =>
          obtain rfl := Binary64.eq_nan_of_isNaN valued
          simp
      | false =>
          obtain ⟨place, valueAt⟩ := Binary64.exists_place valued
          rw [Binary64.le_of_place nextAt valueAt, Binary64.le_of_place valueAt outcomeAt,
            Binary64.lt_of_place outcomeAt valueAt, Binary64.lt_of_place valueAt nextAt]
          by_cases beyond : above ≤ place <;> by_cases below : place ≤ here <;> grind

theorem countP_cons_toNat {α : Type} (p : α → Bool) (a : α) (as : List α) :
    (a :: as).countP p = as.countP p + (p a).toNat := by
  rw [List.countP_cons]
  cases p a <;> rfl

/-- Counting over trials adds up what is counted of each. -/
theorem countP_reaches_add {outcome : Binary64} (number : outcome.isNaN = false)
    (next : (outcome + 1).isNaN = false) (values : List (Option Binary64)) :
    values.countP (reaches (outcome + 1)) + values.countP (noBetter outcome) +
        values.countP failed + values.countP (betweenSteps outcome) =
      values.length + values.countP (bothSides outcome) := by
  induction values with
  | nil => rfl
  | cons value values ih =>
      have one := toNat_reaches_add number next value
      simp only [countP_cons_toNat, List.length_cons]
      omega

/-- Trials of a formula that comes to whole numbers leave entire values. -/
theorem entire_trialValues (source : Source σ) {formula : String}
    (whole : WholeFormula formula.toList) (trials : Nat) (state : σ) :
    ∀ value, some value ∈ (trialValues source formula trials state).1 → value.Entire := by
  induction trials generalizing state with
  | zero => exact fun _ member => nomatch member
  | succ trials ih =>
      intro value member
      rw [trialValues_succ] at member
      rcases List.mem_cons.mp member with now | later
      · exact whole.entire source state value now.symm
      · exact ih _ value later

/-- No entire value lies between a whole number and the next. -/
theorem betweenSteps_eq_false {outcome : Binary64} {n : Int} (whole : outcome.IsWhole n)
    {value : Option Binary64} (entire : ∀ number ∈ value, number.Entire) :
    betweenSteps outcome value = false := by
  cases value with
  | none => rfl
  | some value =>
      rw [betweenSteps, Option.any_some]
      cases above : outcome.lt value with
      | false => rfl
      | true => exact whole.not_between (entire value rfl) above

/-- Where one more is another number, no value is on both sides. -/
theorem bothSides_eq_false {outcome : Binary64} (less : outcome.lt (outcome + 1) = true)
    (value : Option Binary64) : bothSides outcome value = false := by
  cases value with
  | none => rfl
  | some value =>
      refine Bool.eq_false_iff.mpr fun both => ?_
      obtain ⟨below, beyond⟩ := Bool.and_eq_true_iff.mp both
      have same := Binary64.lt_of_le_of_lt below (Binary64.lt_of_lt_of_le less beyond)
      exact Bool.false_ne_true ((Binary64.lt_irrefl value).symm.trans same)

namespace Tried

/-- How many trials exceed the recorded outcome by one. -/
def better (tried : Tried) : Nat := tried.values.countP (reaches (tried.roll.outcome + 1))

/-- How many trials do no better than the recorded outcome. -/
def noBetter (tried : Tried) : Nat := tried.values.countP (Chance.noBetter tried.roll.outcome)

def failures (tried : Tried) : Nat := tried.values.countP failed

/-- How many trials come to less than one more than the recorded outcome, and yet to more. -/
def between (tried : Tried) : Nat := tried.values.countP (betweenSteps tried.roll.outcome)

/-- How many trials do no better than an outcome that one more does not change, and reach it. -/
def both (tried : Tried) : Nat := tried.values.countP (bothSides tried.roll.outcome)

/-- The percentage of a worst roll as an exact fraction. -/
def worstShare (tried : Tried) : ℚ := 100 - tried.better / tried.values.length * 100

variable {tried : Tried}

/-- The percentage of a worst roll is what those that are better leave of a hundred. -/
theorem percent_worst : tried.percent true =
    100 - Chance.percent tried.better tried.values.length := by
  rw [percent, if_pos rfl, better]

/-- All trials are counted: those that are better, those that are not, those that fail and those
between. -/
theorem better_add_noBetter (finite : tried.roll.outcome.isFinite = true) :
    tried.better + tried.noBetter + tried.failures + tried.between =
      tried.values.length + tried.both :=
  countP_reaches_add (Binary64.isNaN_of_isFinite finite)
    (Binary64.isNaN_add_one finite) tried.values

/-- The trials that do not exceed the outcome by one are those that are no better, those that fail
and those that lie between. -/
theorem worstShare_eq (finite : tried.roll.outcome.isFinite = true) (some : tried.values ≠ []) :
    tried.worstShare =
      100 * (tried.noBetter + tried.failures + tried.between - tried.both) /
        tried.values.length := by
  have sum : (tried.better + tried.noBetter + tried.failures + tried.between : ℚ) =
      tried.values.length + tried.both := by exact_mod_cast better_add_noBetter finite
  have nonzero : (tried.values.length : ℚ) ≠ 0 := by
    exact_mod_cast List.length_pos_iff.mpr some |>.ne'
  rw [worstShare]
  field_simp
  linear_combination -sum

/-- The exact share is that of the trials that are no better exactly when as many fail or lie
between as are counted on both sides. -/
theorem worstShare_eq_iff (finite : tried.roll.outcome.isFinite = true) (some : tried.values ≠ []) :
    tried.worstShare = 100 * tried.noBetter / tried.values.length ↔
      tried.failures + tried.between = tried.both := by
  have nonzero : (tried.values.length : ℚ) ≠ 0 := by
    exact_mod_cast List.length_pos_iff.mpr some |>.ne'
  rw [worstShare_eq finite some, div_left_inj' nonzero]
  constructor
  · intro same
    have cancelled : (tried.failures + tried.between : ℚ) = tried.both := by
      linear_combination same / 100
    exact_mod_cast cancelled
  · intro same
    have cancelled : (tried.failures + tried.between : ℚ) = tried.both := by exact_mod_cast same
    linear_combination 100 * cancelled

/-- Where results and outcome are whole, none lies between and none is on both sides. -/
theorem worstShare_eq_iff_of_entire {n : Int} (whole : tried.roll.outcome.IsWhole n)
    (entire : ∀ value, some value ∈ tried.values → value.Entire)
    (finite : tried.roll.outcome.isFinite = true) (some : tried.values ≠ []) :
    tried.worstShare = 100 * tried.noBetter / tried.values.length ↔ tried.failures = 0 := by
  have between : tried.between = 0 := List.countP_eq_zero.mpr fun value member =>
    Bool.eq_false_iff.mp (betweenSteps_eq_false whole fun number same => by
      rw [Option.mem_def] at same
      exact entire number (same ▸ member))
  have both : tried.both = 0 := List.countP_eq_zero.mpr fun value _ =>
    Bool.eq_false_iff.mp (bothSides_eq_false whole.lt_add_one value)
  rw [worstShare_eq_iff finite some, between, both, Nat.add_zero]

end Tried

/-- What a search tries are rolls of its list that can be rolled again, with the values of so many
trials of their formulas. -/
theorem Searched.exists_trials {source : Source σ} {trials : Nat} {rolls : List RecordedRoll}
    {state last : σ} {tried : List Tried}
    (searched : Searched source trials rolls state tried last) :
    ∀ one ∈ tried, one.roll ∈ rolls ∧ isReproducible one.roll.formula = true ∧
      ∃ start, one.values = (trialValues source one.roll.formula trials start).1 := by
  induction searched with
  | done => exact List.forall_mem_nil _
  | passed _ _ ih =>
      exact fun one member => (ih one member).imp_left (List.mem_cons_of_mem _)
  | tried reproducible _ again _ ih =>
      refine List.forall_mem_cons.mpr ⟨?_, fun one member =>
        (ih one member).imp_left (List.mem_cons_of_mem _)⟩
      exact ⟨List.mem_cons_self, reproducible, _, (congrArg Prod.fst again).symm⟩

/-- A search that tries one roll. -/
theorem searched_once {source : Source σ} {trials : Nat} {formula : String} {outcome : Binary64}
    {state : σ} (reproducible : isReproducible formula = true)
    (valued : (evaluate source formula state).1.isSome) :
    Searched source trials [rolledOnce formula outcome] state
      [⟨rolledOnce formula outcome,
        (trialValues source formula trials (evaluate source formula state).2).1⟩]
      (trialValues source formula trials (evaluate source formula state).2).2 := by
  obtain ⟨value, some⟩ := Option.isSome_iff_exists.mp valued
  exact .tried reproducible (Prod.ext some rfl) rfl .done

/-- **The percentage of a worst roll counts the trials that do no better**, as long as none of them
fails and none lies between the outcome and one more; a great outcome that one more does not change
is counted apart. Where formula and outcome are whole, failures alone are counted besides. -/
theorem worstShare_no_better (source : Source σ) (rolls : List RecordedRoll) {trials : Int}
    (positive : 0 < trials) (state : σ) :
    (∃ tried last, Searched source trials.toNat rolls state tried last) ∧
    ∀ (tried : List Tried) (last : σ), Searched source trials.toNat rolls state tried last →
      (∃ search, findSuperlative source rolls trials true state = .ok (search, last) ∧
        search.answer = leastOf (tried.map (·.superlative true))) ∧
      ∀ one ∈ tried,
        one.percent true = 100 - percent one.better one.values.length ∧
        one.values.length = trials.toNat ∧
        (one.roll.outcome.isFinite = true →
          one.worstShare =
            100 * (one.noBetter + one.failures + one.between - one.both) / trials ∧
          (one.worstShare = 100 * one.noBetter / trials ↔
            one.failures + one.between = one.both) ∧
          ∀ n, one.roll.outcome.IsWhole n → WholeFormula one.roll.formula.toList →
            (one.worstShare = 100 * one.noBetter / trials ↔ one.failures = 0)) := by
  refine ⟨exists_searched source trials.toNat rolls state, fun tried last searched =>
    ⟨searched.findSuperlative positive true, fun one member => ?_⟩⟩
  obtain ⟨-, -, start, values⟩ := searched.exists_trials one member
  have length : one.values.length = trials.toNat := by rw [values, length_trialValues]
  have some : one.values ≠ [] := by
    intro none
    rw [none, List.length_nil] at length
    omega
  have cast : (trials : ℚ) = one.values.length := by
    rw [length]
    exact_mod_cast (Int.toNat_of_nonneg positive.le).symm
  rw [cast]
  refine ⟨Tried.percent_worst, length, fun finite =>
    ⟨Tried.worstShare_eq finite some, Tried.worstShare_eq_iff finite some,
      fun n whole plain => ?_⟩⟩
  refine Tried.worstShare_eq_iff_of_entire whole (fun value => ?_) finite some
  rw [values]
  exact entire_trialValues source plain trials.toNat start value

/-- Two dice are rolled, and the source shows 3 and 4, and then 5 and 6: half of the trials do no
better than seven. -/
theorem worstShare_no_better_dice :
    (findSuperlative inTurn [rolledOnce "2d6" 7] 2 true 0).map
        (fun found => found.1.answer.map (·.percent)) = .ok (some 50) ∧
      ∃ tried last one, Searched inTurn 2 [rolledOnce "2d6" 7] 0 tried last ∧ one ∈ tried ∧
        one.noBetter = 1 ∧ one.worstShare = 100 * one.noBetter / 2 := by
  have searched : Searched inTurn 2 [rolledOnce "2d6" 7] 0 _ _ :=
    searched_once (by decide) (by decide +kernel)
  have whole : Binary64.IsWhole 7 7 := @Binary64.isWhole_ofNat 7 (by decide)
  have plain : WholeFormula "2d6".toList := by decide
  have share := ((@worstShare_no_better _ inTurn [rolledOnce "2d6" 7] 2 (by decide) 0).2 _ _
    searched).2 _ List.mem_cons_self
  refine ⟨by decide +kernel, _, _, _, searched, List.mem_cons_self, by decide +kernel, ?_⟩
  exact ((share.2.2 (by decide +kernel)).2.2 7 whole plain).mpr (by decide +kernel)

/-- A die of six is halved, and the recorded outcome is two: a trial that comes to two and a half is
counted, though it does better. -/
theorem better_by_half_counted :
    (findSuperlative inTurn [rolledOnce "1d6/2" 2] 1 true 3).map
        (fun found => found.1.answer.map (·.percent)) = .ok (some 100) ∧
      ¬∀ (tried : List Tried) (last : Nat), Searched inTurn 1 [rolledOnce "1d6/2" 2] 3 tried last →
        ∀ one ∈ tried, one.worstShare = 100 * one.noBetter / one.values.length := by
  refine ⟨by decide +kernel, fun counted => ?_⟩
  have share := counted _ _ (searched_once (by decide) (by decide +kernel)) _ List.mem_cons_self
  have balanced := (Tried.worstShare_eq_iff (by decide +kernel) (by decide +kernel)).mp share
  exact absurd balanced (by decide +kernel)

end Chance

end DiceLedger
