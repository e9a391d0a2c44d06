import DiceLedger.Proofs.Chance.Luck
import DiceLedger.Proofs.Dice.DiceTerms
import DiceLedger.Proofs.Dice.Printing
import DiceLedger.Proofs.Dice.Throws
import DiceLedger.Proofs.Text.Digits

/-! # Replaying a die

A die is replayed by evaluating the text that rolls one die of its faces. The text of faces that are
not negative rolls that many (`DiceLedger.Chance.evaluate_die`), and a sign makes it no expression
(`DiceLedger.Chance.evaluate_die_negative`). So a die of two faces or more, but not too many, is
thrown for every replay, a die of one face always shows it, and no other counts
(`DiceLedger.Chance.replayDie_throws`).
-/

namespace DiceLedger

namespace Dice

variable {σ : Type}

/-- The digits of a number. -/
def Numeral.ofNat (n : Nat) : Numeral where
  text := Nat.toDigits 10 n
  proper := (isNumeral_digits fun _ => Nat.isDigit_of_mem_toDigits (by decide) (by decide)).mpr
    Nat.toDigits_ne_nil

/-- A natural number is written in digits. -/
theorem Numeral.isDigit_ofNat (n : Nat) : ∀ c ∈ (Numeral.ofNat n).text, c.isDigit = true :=
  fun _ => Nat.isDigit_of_mem_toDigits (by decide) (by decide)

/-- A natural number is written as the numeral that has its value. -/
theorem Numeral.value_ofNat (n : Nat) : (Numeral.ofNat n).value = .ofNat n := by
  have read : (Numeral.ofNat n).value = .ofNat (Text.valueOfDigits (Nat.toDigits 10 n)) :=
    Numeral.value_of_digits (Numeral.isDigit_ofNat n)
  rw [read, Text.valueOfDigits_toDigits]

/-- Written dice are rolled. -/
theorem evaluate_written (source : Source σ) {text : String} {count faces : Nat}
    (written : text.toList = Nat.toDigits 10 count ++ 'd' :: Nat.toDigits 10 faces) (state : σ) :
    evaluate source text state = roll source (.ofNat count) (.ofNat faces) state := by
  rw [← Numeral.value_ofNat, ← Numeral.value_ofNat]
  exact evaluate_dice source (.ofNat count) (.ofNat faces) written state

/-- An operator right behind another one is a fault, and only the first operand was read. -/
theorem read_of_two_operators {text : List Char} {count : Numeral} {first second : Operator}
    {rest : List Token}
    (written : tokens text = .numeral count.text :: .operator first :: .operator second :: rest) :
    read text = ⟨[.push count.value], false, .operator second :: rest⟩ := by
  have missing := readExpression_operator 979 (first.precedence + 1) second rest
  have operand : readOperand 981 (tokens text) =
      ⟨[.push count.value], true, .operator first :: .operator second :: rest⟩ := by
    rw [written, readOperand, numeralValue?_numeral]
    exact readGroups_of_head_ne (by simp)
  have incomplete := congrArg Reading.complete missing
  rw [read, maxDepth, readExpression, operand]
  refine (readOperators_fault first.precedence_pos incomplete).trans ?_
  rw [missing]
  rfl

/-- What breaks off behind its first numeral draws nothing. -/
theorem evaluate_of_two_operators (source : Source σ) {text : String} {count : Numeral}
    {first second : Operator} {rest : List Token}
    (written : tokens text.toList =
      .numeral count.text :: .operator first :: .operator second :: rest) (state : σ) :
    evaluate source text state = (none, state) := by
  rw [evaluate, read_of_two_operators written]
  rfl

end Dice

namespace Chance

open Dice

variable {σ : Type} (source : Source σ)

/-- A die is replayed by rolling one of its faces. -/
theorem evaluate_die {die : Die} {faces : Nat} (faced : die.faces = faces) (state : σ) :
    evaluate source (replayExpression die) state =
      roll source (.ofNat 1) (.ofNat faces) state := by
  have digits : toString (faces : Int) = String.ofList (Nat.toDigits 10 faces) :=
    Nat.toString_eq_ofList_toDigits
  refine evaluate_written source ?_ state
  simp only [replayExpression, faced, digits, String.toList_append, String.toList_ofList]
  rfl

/-- A sign is an operator, and stands behind another one. -/
theorem evaluate_die_negative {die : Die} (negative : die.faces < 0) (state : σ) :
    evaluate source (replayExpression die) state = (none, state) := by
  obtain ⟨n, faced⟩ := Int.eq_negSucc_of_lt_zero negative
  have digits : toString (Int.negSucc n) = "-" ++ String.ofList (Nat.toDigits 10 (n + 1)) :=
    congrArg ("-" ++ ·) Nat.toString_eq_ofList_toDigits
  have cut : tokens (replayExpression die).toList = .numeral (Numeral.ofNat 1).text ::
      .operator .roll :: .operator .subtract :: tokens (Nat.toDigits 10 (n + 1)) := by
    simp only [replayExpression, faced, digits, String.toList_append, String.toList_ofList]
    rfl
  exact evaluate_of_two_operators source cut state

variable {die : Die}

/-- A die of two faces or more is thrown once, and its face is the value. -/
theorem evaluate_die_thrown (two_le : 2 ≤ die.faces) (within : die.faces ≤ maxDice) (state : σ) :
    evaluate source (replayExpression die) state =
      (some (.ofNat (source.draw die.faces.toNat state).1),
        (source.draw die.faces.toNat state).2) := by
  obtain ⟨faces, faced⟩ := Int.eq_ofNat_of_zero_le (by omega : 0 ≤ die.faces)
  rw [evaluate_die source faced, roll_ofNat source state (by decide) (by omega) (by omega),
    source.addDraws_eq, Nat.zero_add, faced, Int.toNat_natCast, source.throws_succ, List.sum_cons]
  rfl

/-- A die of one face shows one, and is not thrown. -/
theorem evaluate_die_single (single : die.faces = 1) (state : σ) :
    evaluate source (replayExpression die) state = (some (.ofNat 1), state) := by
  have faced : die.faces = (1 : Nat) := single
  have one : Binary64.ofNat 1 * .ofNat 1 = .ofNat 1 := by decide +kernel
  rw [evaluate_die source faced, roll_of_single source state (eqv_one_ofNat 1), one]

/-- A die of no faces, or of too many, has no value and is not thrown. -/
theorem evaluate_die_refused (out : die.faces < 1 ∨ maxDice < die.faces) (state : σ) :
    evaluate source (replayExpression die) state = (none, state) := by
  rcases Int.lt_or_le die.faces 0 with negative | nonneg
  · exact evaluate_die_negative source negative state
  · obtain ⟨faces, faced⟩ := Int.eq_ofNat_of_zero_le nonneg
    have several := several_ofNat (n := faces) (by unfold maxDice at out; omega)
    have sided := diceCount?_ofNat faces
    rw [evaluate_die source faced]
    rcases out with fewer | more
    · obtain rfl : faces = 0 := by omega
      exact roll_of_no_sides source state several sided
    · rw [if_neg (by omega)] at sided
      exact roll_of_uncounted source state several (.inr sided)

/-- Counts replays that show these numbers. -/
def Replays.addAll (replays : Replays) (values : List Nat) (outcome : Int) : Replays :=
  values.foldl (fun replays value => replays.add (some (.ofNat value)) outcome) replays

theorem Replays.addAll_cons (replays : Replays) (value : Nat) (values : List Nat) (outcome : Int) :
    replays.addAll (value :: values) outcome =
      (replays.add (some (.ofNat value)) outcome).addAll values outcome :=
  List.foldl_cons ..

/-- A value above the outcome beats it, and an equal one ties with it. -/
theorem Replays.add_ofNat (replays : Replays) {value : Nat} (small : value < 2 ^ (53 : Nat))
    (outcome : Int) :
    replays.add (some (.ofNat value)) outcome =
      ⟨replays.beaten + if outcome < value then 1 else 0,
        replays.tied + if outcome = value then 1 else 0⟩ := by
  rw [Replays.add, Option.bind_some, Binary64.compareInt?_ofNat small]
  rcases Int.lt_trichotomy value outcome with less | rfl | more
  · rw [Int.compare_eq_lt.mpr less, if_neg (by omega), if_neg (by omega)]
    rfl
  · rw [Int.compare_eq_eq.mpr rfl, if_neg (Int.lt_irrefl _), if_pos rfl]
    rfl
  · rw [Int.compare_eq_gt.mpr more, if_pos more, if_neg (by omega)]
    rfl

/-- The replays that show these numbers, counted directly. -/
def Replays.shown (values : List Nat) (outcome : Int) : Replays :=
  { beaten := values.countP fun value : Nat => outcome < value
    tied := values.countP fun value : Nat => outcome = value }

/-- Values are counted as they are, whatever has been counted before. -/
theorem Replays.addAll_eq {values : List Nat} (small : ∀ value ∈ values, value < 2 ^ (53 : Nat))
    (replays : Replays) (outcome : Int) :
    replays.addAll values outcome =
      ⟨replays.beaten + (shown values outcome).beaten,
        replays.tied + (shown values outcome).tied⟩ := by
  induction values generalizing replays with
  | nil => rfl
  | cons value rest ih =>
      obtain ⟨first, later⟩ := List.forall_mem_cons.mp small
      rw [Replays.addAll_cons, ih later, replays.add_ofNat first]
      simp only [shown, List.countP_cons, decide_eq_true_eq, Nat.add_assoc,
        Nat.add_comm (List.countP _ rest)]

/-- Counted from nothing, the values are counted by themselves. -/
theorem Replays.addAll_nothing {values : List Nat}
    (small : ∀ value ∈ values, value < 2 ^ (53 : Nat)) (outcome : Int) :
    (⟨0, 0⟩ : Replays).addAll values outcome = shown values outcome := by
  rw [Replays.addAll_eq small, Nat.zero_add, Nat.zero_add]

/-- **Replays of a die are its throws**: as many as there are repetitions, each counted once, and in
the order in which the source gives them. -/
theorem replayDie_thrown (two_le : 2 ≤ die.faces) (within : die.faces ≤ maxDice)
    (repetitions : Nat) (replays : Replays) (state : σ) :
    replayDie source die repetitions replays state =
      (replays.addAll (source.throws die.faces.toNat repetitions state).1 die.outcome,
        (source.throws die.faces.toNat repetitions state).2) := by
  induction repetitions generalizing replays state with
  | zero => rfl
  | succ repetitions ih =>
      rw [replayDie_succ, evaluate_die_thrown source two_le within, ih, source.throws_succ,
        Replays.addAll_cons]

/-- Replays of a die of one face all show one, and throw nothing. -/
theorem replayDie_single (single : die.faces = 1) (repetitions : Nat) (replays : Replays)
    (state : σ) :
    replayDie source die repetitions replays state =
      (replays.addAll (List.replicate repetitions 1) die.outcome, state) := by
  induction repetitions generalizing replays with
  | zero => rfl
  | succ repetitions ih =>
      rw [replayDie_succ, evaluate_die_single source single, ih, List.replicate_succ,
        Replays.addAll_cons]

/-- Replays of a die that cannot be rolled count nothing, and throw nothing. -/
theorem replayDie_refused (out : die.faces < 1 ∨ maxDice < die.faces) (repetitions : Nat)
    (replays : Replays) (state : σ) :
    replayDie source die repetitions replays state = (replays, state) := by
  induction repetitions with
  | zero => rfl
  | succ repetitions ih => rw [replayDie_succ, evaluate_die_refused source out, ← ih]; rfl

/-- **A die that is replayed is rolled.** A die of two faces or more, but not too many, is thrown
for every replay, and what it shows is compared with the record. A die of one face is not thrown and
shows it every time, and any other die neither is thrown nor counts. -/
theorem replayDie_throws (die : Die) (repetitions : Nat) (state : σ) :
    ∃ (replays : Replays) (recording : Source.Recording σ),
      replayDie source die repetitions ⟨0, 0⟩ state = (replays, recording.state) ∧
      replayDie source.recorded die repetitions ⟨0, 0⟩ ⟨state, []⟩ = (replays, recording) ∧
      (2 ≤ die.faces → die.faces ≤ maxDice →
        ∃ values : List Nat, values.length = repetitions ∧
          recording.draws = (values.map (die.faces.toNat, ·)).reverse ∧
          (source.Fair → replays = .shown values die.outcome)) ∧
      (die.faces = 1 →
        replays = .shown (List.replicate repetitions 1) die.outcome ∧ recording.draws = []) ∧
      (die.faces < 1 ∨ maxDice < die.faces → replays = ⟨0, 0⟩ ∧ recording.draws = []) := by
  have same := replayDie_recorded source die repetitions ⟨0, 0⟩ ⟨state, []⟩
  refine ⟨_, _, Prod.ext same.value.symm same.state.symm, rfl, fun two_le within => ?_,
    fun single => ?_, fun out => ?_⟩
  · rw [replayDie_thrown source.recorded two_le within, source.throws_recorded, List.append_nil]
    refine ⟨_, source.length_throws _ _ _, rfl, fun fair => Replays.addAll_nothing ?_ _⟩
    intro value member
    have face := fair.mem_throws (by omega) _ _ value member
    have small : maxDice < 2 ^ (53 : Nat) := by decide
    omega
  · rw [replayDie_single source.recorded single]
    refine ⟨Replays.addAll_nothing ?_ _, rfl⟩
    intro value member
    rw [(List.mem_replicate.mp member).2]
    decide
  · rw [replayDie_refused source.recorded out]
    exact ⟨rfl, rfl⟩

/-- Three replays each of a die of six faces, of one face and of a negative number of faces. -/
theorem replayDie_throws_six :
    inTurn.Fair ∧
      (∃ (values : List Nat) (recording : Source.Recording Nat),
        replayDie inTurn ⟨6, 2⟩ 3 ⟨0, 0⟩ 0 = (.shown values 2, recording.state) ∧
        replayDie inTurn.recorded ⟨6, 2⟩ 3 ⟨0, 0⟩ ⟨0, []⟩ = (.shown values 2, recording) ∧
        values.length = 3 ∧ recording.draws = (values.map (6, ·)).reverse) ∧
      (∃ recording : Source.Recording Nat, recording.draws = [] ∧
        replayDie inTurn.recorded ⟨1, 1⟩ 3 ⟨0, 0⟩ ⟨0, []⟩ = (⟨0, 3⟩, recording)) ∧
      ∃ recording : Source.Recording Nat, recording.draws = [] ∧
        replayDie inTurn.recorded ⟨-6, 2⟩ 3 ⟨0, 0⟩ ⟨0, []⟩ = (⟨0, 0⟩, recording) := by
  have fair : inTurn.Fair := fun sides state sided =>
    ⟨Nat.succ_pos _, Nat.succ_le_of_lt (Nat.mod_lt state sided)⟩
  obtain ⟨_, six, plain, noted, thrown, -, -⟩ := replayDie_throws inTurn ⟨6, 2⟩ 3 0
  obtain ⟨values, count, asked, shown⟩ := thrown (by decide) (by decide)
  obtain rfl := shown fair
  obtain ⟨_, one, -, always, -, single, -⟩ := replayDie_throws inTurn ⟨1, 1⟩ 3 0
  obtain ⟨rfl, unasked⟩ := single rfl
  obtain ⟨_, negative, -, never, -, -, refused⟩ := replayDie_throws inTurn ⟨-6, 2⟩ 3 0
  obtain ⟨rfl, nothing⟩ := refused (.inl (by decide))
  exact ⟨fair, ⟨values, six, plain, noted, count, asked⟩, ⟨one, unasked, always⟩,
    negative, nothing, never⟩

end Chance

end DiceLedger
