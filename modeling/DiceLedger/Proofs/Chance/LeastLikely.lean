import DiceLedger.Chance.Superlative
import DiceLedger.Proofs.Binary64.Whole
import DiceLedger.Proofs.Chance.Trials

/-! # The least likely of recorded rolls

A search goes through rolls in order with one source (`DiceLedger.Chance.Searched`): it passes over
those that cannot be rolled again or turn out to have no value, and tries every other one as often
as it is told. It finds the first of those with the least percentage, and what it passes over
matters to it for nothing but the state of the source
(`DiceLedger.Chance.findSuperlative_first_least`). -/

namespace DiceLedger

namespace Chance

open Dice

variable {σ : Type}

/-- A roll that a search tries, with the values of its trials. -/
structure Tried where
  roll : RecordedRoll
  values : List (Option Binary64)

namespace Tried

/-- The percentage that its trials give a roll: of those that reach the recorded outcome, or, among
the worst rolls, of those that do not exceed it by one. -/
def percent (worst : Bool) (tried : Tried) : Binary64 :=
  if worst then
    100 - Chance.percent (tried.values.countP (reaches (tried.roll.outcome + 1)))
      tried.values.length
  else Chance.percent (tried.values.countP (reaches tried.roll.outcome)) tried.values.length

def superlative (worst : Bool) (tried : Tried) : Superlative := ⟨tried.roll, tried.percent worst⟩

end Tried

/-- A roll that takes no part in a search, and the state that it leaves the source in: what cannot
be rolled again is not tried, and what has no value is tried once. -/
inductive PassedOver (source : Source σ) (roll : RecordedRoll) : σ → σ → Prop
  | unreproducible {state : σ} (other : isReproducible roll.formula = false) :
      PassedOver source roll state state
  | valueless {state next : σ} (reproducible : isReproducible roll.formula = true)
      (once : evaluate source roll.formula state = (none, next)) :
      PassedOver source roll state next

/-- A search through rolls in order with one source: the rolls that it tries so many times, and the
state that it leaves the source in. -/
inductive Searched (source : Source σ) (trials : Nat) :
    List RecordedRoll → σ → List Tried → σ → Prop
  | done {state : σ} : Searched source trials [] state [] state
  | passed {roll : RecordedRoll} {rest : List RecordedRoll} {state next last : σ}
      {tried : List Tried} (omitted : PassedOver source roll state next)
      (later : Searched source trials rest next tried last) :
      Searched source trials (roll :: rest) state tried last
  | tried {roll : RecordedRoll} {rest : List RecordedRoll} {state probed next last : σ}
      {value : Binary64} {values : List (Option Binary64)} {others : List Tried}
      (reproducible : isReproducible roll.formula = true)
      (once : evaluate source roll.formula state = (some value, probed))
      (again : trialValues source roll.formula trials probed = (values, next))
      (later : Searched source trials rest next others last) :
      Searched source trials (roll :: rest) state (⟨roll, values⟩ :: others) last

/-- The percentage of a roll is that of the values of its trials. -/
theorem percentAsExtreme_eq (source : Source σ) (roll : RecordedRoll) (trials : Nat) (worst : Bool)
    (state : σ) :
    percentAsExtreme source roll trials worst state =
      ((Tried.mk roll (trialValues source roll.formula trials state).1).percent worst,
        (trialValues source roll.formula trials state).2) := by
  rw [percentAsExtreme, Tried.percent, length_trialValues, countPasses_eq, countPasses_eq]
  cases worst with
  | true => rw [if_pos rfl, if_pos rfl]
  | false => rw [if_neg Bool.false_ne_true, if_neg Bool.false_ne_true]

theorem ofNat_hundred : (100 : Binary64) = .ofNat 100 := rfl

/-- A percentage is a number. -/
theorem isNaN_percent (part whole : Nat) : (percent part whole).isNaN = false := by
  rw [percent, ofNat_hundred]
  exact Binary64.isNaN_mul_ofNat (Binary64.isNaN_ofUnits _ _ _) (by decide) (by decide)

/-- A percentage is a number. -/
theorem Tried.isNaN_percent (worst : Bool) (tried : Tried) :
    (tried.percent worst).isNaN = false := by
  rw [Tried.percent]
  cases worst with
  | true =>
      rw [if_pos rfl, ofNat_hundred]
      exact Binary64.isNaN_ofNat_sub (Chance.isNaN_percent _ _) (by decide)
  | false =>
      rw [if_neg Bool.false_ne_true]
      exact Chance.isNaN_percent _ _

/-- The first of a list with the least percentage. -/
def FirstLeast (found : List Superlative) (best : Superlative) : Prop :=
  ∃ before after, found = before ++ best :: after ∧
    (∀ other ∈ before, best.percent.lt other.percent = true) ∧
    ∀ other ∈ after, best.percent.le other.percent = true

/-- The first of the least is not above the first of all. -/
theorem FirstLeast.le_head {head best : Superlative} {rest : List Superlative}
    (first : FirstLeast (head :: rest) best) (number : head.percent.isNaN = false) :
    best.percent.le head.percent = true := by
  obtain ⟨before, after, cut, earlier, _⟩ := first
  cases before with
  | nil =>
      obtain rfl := (List.cons.inj cut).1
      exact Binary64.le_refl number
  | cons one before =>
      obtain rfl := (List.cons.inj cut).1
      exact Binary64.le_of_lt (earlier _ List.mem_cons_self)

/-- The search keeps the first of the least. -/
theorem firstLeast_leastLikely (rest : List Superlative) :
    ∀ best : Superlative, (∀ one ∈ best :: rest, one.percent.isNaN = false) →
      FirstLeast (best :: rest) (leastLikely best rest) := by
  induction rest with
  | nil => exact fun best _ => ⟨[], [], rfl, List.forall_mem_nil _, List.forall_mem_nil _⟩
  | cons next rest ih =>
      intro best numbers
      obtain ⟨number, nextNumber, others⟩ :
          best.percent.isNaN = false ∧ next.percent.isNaN = false ∧
            ∀ one ∈ rest, one.percent.isNaN = false := by
        simpa only [List.forall_mem_cons] using numbers
      rw [leastLikely]
      split
      · next less =>
        have later := ih next (List.forall_mem_cons.mpr ⟨nextNumber, others⟩)
        have head := Binary64.lt_of_le_of_lt (later.le_head nextNumber) less
        obtain ⟨before, after, cut, earlier, behind⟩ := later
        refine ⟨best :: before, after, ?_, List.forall_mem_cons.mpr ⟨head, earlier⟩, behind⟩
        rw [cut, List.cons_append]
      · next notLess =>
        -- The next one is passed over: it stands behind the best so far, or behind the head.
        have above : best.percent.le next.percent = true :=
          Binary64.le_of_not_lt nextNumber number (Bool.eq_false_iff.mpr notLess)
        obtain ⟨before, after, cut, earlier, behind⟩ :=
          ih best (List.forall_mem_cons.mpr ⟨number, others⟩)
        cases before with
        | nil =>
            obtain ⟨head, rfl⟩ := List.cons.inj cut
            rw [← head] at behind ⊢
            exact ⟨[], next :: rest, rfl, List.forall_mem_nil _,
              List.forall_mem_cons.mpr ⟨above, behind⟩⟩
        | cons one before =>
            obtain ⟨rfl, tail⟩ := List.cons.inj cut
            obtain ⟨less, between⟩ := List.forall_mem_cons.mp earlier
            refine ⟨best :: next :: before, after, ?_, List.forall_mem_cons.mpr
              ⟨less, List.forall_mem_cons.mpr ⟨Binary64.lt_of_lt_of_le less above, between⟩⟩,
              behind⟩
            rw [List.cons_append, List.cons_append]
            exact congrArg (fun tail => best :: next :: tail) tail

/-- The answer of a search that has found these rolls. -/
def leastOf (found : List Superlative) : Option Superlative :=
  match found with
  | [] => none
  | first :: rest => some (leastLikely first rest)

/-- There is a least one unless there is none. -/
theorem leastOf_eq_none {found : List Superlative} : leastOf found = none ↔ found = [] := by
  cases found with
  | nil => exact iff_of_true rfl rfl
  | cons => exact iff_of_false (Option.some_ne_none _) (List.cons_ne_nil _ _)

/-- What is found is the first of the least. -/
theorem firstLeast_of_leastOf {found : List Superlative} {best : Superlative}
    (numbers : ∀ one ∈ found, one.percent.isNaN = false) (answer : leastOf found = some best) :
    FirstLeast found best := by
  cases found with
  | nil => cases answer
  | cons first rest =>
      obtain rfl := Option.some.inj answer
      exact firstLeast_leastLikely rest first numbers

/-- Every list of rolls is searched to its end. -/
theorem exists_searched (source : Source σ) (trials : Nat) (rolls : List RecordedRoll) :
    ∀ state, ∃ tried last, Searched source trials rolls state tried last := by
  induction rolls with
  | nil => exact fun state => ⟨[], state, .done⟩
  | cons roll rest ih =>
      intro state
      cases reproducible : isReproducible roll.formula with
      | false =>
          obtain ⟨tried, last, later⟩ := ih state
          exact ⟨tried, last, .passed (.unreproducible reproducible) later⟩
      | true =>
          rcases once : evaluate source roll.formula state with ⟨_ | value, next⟩
          · obtain ⟨tried, last, later⟩ := ih next
            exact ⟨tried, last, .passed (.valueless reproducible once) later⟩
          · rcases again : trialValues source roll.formula trials next with ⟨values, behind⟩
            obtain ⟨others, last, later⟩ := ih behind
            exact ⟨_, last, .tried reproducible once again later⟩

/-- The candidates are the rolls that a search tries. -/
theorem Searched.candidates {source : Source σ} {trials : Nat} {rolls : List RecordedRoll}
    {state last : σ} {tried : List Tried} (searched : Searched source trials rolls state tried last)
    (worst : Bool) :
    (candidates source trials worst rolls state).1.found = tried.map (·.superlative worst) ∧
      (candidates source trials worst rolls state).2 = last := by
  induction searched with
  | done => exact ⟨rfl, rfl⟩
  | passed omitted _ ih =>
      rw [Chance.candidates]
      cases omitted with
      | unreproducible other =>
          rw [if_neg (ne_true_of_eq_false other)]
          exact ih
      | valueless reproducible once =>
          rw [if_pos reproducible, once]
          exact ih
  | tried reproducible once again _ ih =>
      rw [Chance.candidates, if_pos reproducible, once]
      dsimp only
      rw [percentAsExtreme_eq, again]
      exact ⟨congrArg (_ :: ·) ih.1, ih.2⟩

/-- The search finds the first of the least of those that it tried. -/
theorem Searched.findSuperlative {source : Source σ} {trials : Int} {rolls : List RecordedRoll}
    {state last : σ} {tried : List Tried} (positive : 0 < trials)
    (searched : Searched source trials.toNat rolls state tried last) (worst : Bool) :
    ∃ search, findSuperlative source rolls trials worst state = .ok (search, last) ∧
      search.answer = leastOf (tried.map (·.superlative worst)) := by
  obtain ⟨found, ended⟩ := searched.candidates worst
  rw [Chance.findSuperlative, if_neg (Int.not_le.mpr positive)]
  rw [← found, ← ended]
  exact ⟨_, rfl, rfl⟩

/-- **A search finds the first of the least likely rolls.** It goes through the rolls with one
source: each that can be rolled again is evaluated once, and if that gives a value so many times
more, from which it gets its percentage. There is no answer when none gets one, and otherwise the
answer is the first with the least percentage. Whatever other rolls a search passes over, and with
whatever source, its answer is the same while the rolls that it tries come to the same values. -/
theorem findSuperlative_first_least (source : Source σ) (rolls : List RecordedRoll) {trials : Int}
    (positive : 0 < trials) (worst : Bool) (state : σ) :
    (∃ tried last, Searched source trials.toNat rolls state tried last) ∧
    ∀ (tried : List Tried) (last : σ), Searched source trials.toNat rolls state tried last →
      ∃ search, findSuperlative source rolls trials worst state = .ok (search, last) ∧
        (search.answer = none ↔ tried = []) ∧
        (∀ best, search.answer = some best → FirstLeast (tried.map (·.superlative worst)) best) ∧
        ∀ {τ : Type} (other : Source τ) (others : List RecordedRoll) (start stop : τ),
          Searched other trials.toNat others start tried stop →
          ∃ again, findSuperlative other others trials worst start = .ok (again, stop) ∧
            again.answer = search.answer := by
  refine ⟨exists_searched source trials.toNat rolls state, fun tried last searched => ?_⟩
  obtain ⟨search, found, answer⟩ := searched.findSuperlative positive worst
  refine ⟨search, found, ?_, ?_, ?_⟩
  · rw [answer, leastOf_eq_none, List.map_eq_nil_iff]
  · intro best least
    refine firstLeast_of_leastOf (fun one member => ?_) (answer.symm.trans least)
    obtain ⟨tried, _, rfl⟩ := List.mem_map.mp member
    exact tried.isNaN_percent worst
  · intro τ other others start stop same
    obtain ⟨again, ended, answerAgain⟩ := same.findSuperlative positive worst
    exact ⟨again, ended, answerAgain.trans answer.symm⟩

/-- A roll of a campaign, made on the second day of the calendar. -/
def rolledOnce (formula : String) (outcome : Binary64) : RecordedRoll :=
  ⟨"Moria", "Gimli", formula, outcome, .universal ⟨microsPerDay, by decide, by decide⟩⟩

/-- Two rolls that none of two trials reaches, behind one without a value and one with a modifier:
the first of the two is found. -/
theorem findSuperlative_first_least_tie :
    (findSuperlative inTurn [rolledOnce "d20+3" 5, rolledOnce "4d6k3" 18, rolledOnce "1d4" 4,
        rolledOnce "1d8" 8] 2 false 0).map (fun found => (found.1.answer.map (·.roll.formula),
          found.2)) = .ok (some "1d4", 6) ∧
      ∃ (tried : List Tried) (last : Nat) (search : Search),
        Searched inTurn 2 [rolledOnce "d20+3" 5, rolledOnce "4d6k3" 18, rolledOnce "1d4" 4,
          rolledOnce "1d8" 8] 0 tried last ∧
        findSuperlative inTurn [rolledOnce "d20+3" 5, rolledOnce "4d6k3" 18, rolledOnce "1d4" 4,
          rolledOnce "1d8" 8] 2 false 0 = .ok (search, last) ∧
        ∀ best, search.answer = some best →
          FirstLeast (tried.map (·.superlative false)) best := by
  have searches := @findSuperlative_first_least _ inTurn [rolledOnce "d20+3" 5,
    rolledOnce "4d6k3" 18, rolledOnce "1d4" 4, rolledOnce "1d8" 8] 2 (by decide) false 0
  obtain ⟨tried, last, searched⟩ := searches.1
  obtain ⟨search, found, _, least, _⟩ := searches.2 tried last searched
  exact ⟨by decide +kernel, tried, last, search, searched, found, least⟩

end Chance

end DiceLedger
