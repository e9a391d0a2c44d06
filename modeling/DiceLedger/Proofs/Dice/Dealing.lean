import DiceLedger.Dice.Term

/-! # Dealing outcomes to dice

Dealing outcomes to a formula comes to an answer, also where they do not fit it, unless a term
that it reaches has a number of too many digits (`DiceLedger.Dice.buildRoll_eq_error`). Where
there are as many outcomes as dice, each die gets its own in order; any other number does not fit
(`DiceLedger.Dice.deal_of_short`).
-/

namespace DiceLedger

namespace Dice

/-- A formula with a term whose numbers have too many digits. -/
def LongNumeral (formula : String) : Prop :=
  ∃ term ∈ (formulaTerms formula.toList).terms,
    Text.maxWholeDigits < term.count.length ∨ Text.maxWholeDigits < term.faces.length

instance (formula : String) : Decidable (LongNumeral formula) :=
  inferInstanceAs (Decidable (∃ term ∈ _, _))

/-- A number is refused only if it has too many digits. -/
theorem termNumber_eq_error {digits : List Char} {fault : DealFault}
    (failed : termNumber digits = .error fault) : Text.maxWholeDigits < digits.length := by
  unfold termNumber at failed
  split at failed
  · assumption
  · cases failed

/-- Dealing fails only for a numeral with too many digits. -/
theorem dealTerms_eq_error {terms : List Term} {outcomes : List Int} {fault : DealFault}
    (failed : dealTerms terms outcomes = .error fault) :
    ∃ term ∈ terms,
      Text.maxWholeDigits < term.count.length ∨ Text.maxWholeDigits < term.faces.length := by
  induction terms generalizing outcomes with
  | nil => cases failed
  | cons term rest ih =>
      simp only [dealTerms] at failed
      split at failed
      · next count => exact ⟨term, List.mem_cons_self, .inl (termNumber_eq_error count)⟩
      · next faces _ => exact ⟨term, List.mem_cons_self, .inr (termNumber_eq_error faces)⟩
      · split at failed
        · cases failed
        · split at failed
          · cases failed
          · obtain ⟨other, member, long⟩ := ih failed
            exact ⟨other, List.mem_cons_of_mem _ member, long⟩

/-- Dealing fails only over a number of too many digits. -/
theorem buildRoll_eq_error {formula : String} {outcomes : List Int} {total : Binary64}
    {fault : DealFault} (failed : buildRoll formula outcomes total = .error fault) :
    LongNumeral formula := by
  simp only [buildRoll, deal] at failed
  split at failed
  · next dealt =>
    split at dealt
    · next stopped => exact dealTerms_eq_error stopped
    · cases dealt
    · cases dealt
  · cases failed

/-- The faces of the dice of a term, one for each die. -/
def Term.diceFaces (term : Term) : List Nat :=
  List.replicate (Text.valueOfDigits term.count) (Text.valueOfDigits term.faces)

/-- Dice with the outcomes in the same places. -/
def handed (faces : List Nat) (outcomes : List Int) : List Die :=
  List.zipWith (fun (faces : Nat) outcome => ⟨faces, outcome⟩) faces outcomes

/-- A term whose numbers can be converted. -/
structure Term.Short (term : Term) : Prop where
  count : term.count.length ≤ Text.maxWholeDigits
  faces : term.faces.length ≤ Text.maxWholeDigits

/-- A numeral that is short enough is the number that it writes. -/
theorem termNumber_of_le {digits : List Char} (short : digits.length ≤ Text.maxWholeDigits) :
    termNumber digits = .ok (Text.valueOfDigits digits) :=
  if_neg (Nat.not_lt.mpr short)

theorem handed_replicate (faces : Nat) (outcomes : List Int) :
    handed (List.replicate outcomes.length faces) outcomes = outcomes.map (⟨faces, ·⟩) := by
  induction outcomes with
  | nil => rfl
  | cons outcome rest ih => exact congrArg (Die.mk faces outcome :: ·) ih

/-- The first dice take the first outcomes, and the others those behind them. -/
theorem handed_append {faces others : List Nat} {outcomes : List Int}
    (enough : faces.length ≤ outcomes.length) :
    handed (faces ++ others) outcomes =
      handed faces (outcomes.take faces.length) ++
        handed others (outcomes.drop faces.length) := by
  have fits : faces.length = (outcomes.take faces.length).length := by
    rw [List.length_take, Nat.min_eq_left enough]
  rw [handed, handed, handed, ← List.zipWith_append fits, List.take_append_drop]

/-- Dice and outcomes are handed out in pairs. -/
theorem handed_eq_map_zip (faces : List Nat) (outcomes : List Int) :
    handed faces outcomes =
      (faces.zip outcomes).map fun (pair : Nat × Int) => ⟨pair.1, pair.2⟩ := by
  rw [handed, List.map_zip_eq_zipWith]
  rfl

/-- Where there are dice enough, all outcomes are handed out in order. -/
theorem map_outcome_handed {faces : List Nat} {outcomes : List Int}
    (enough : outcomes.length ≤ faces.length) :
    (handed faces outcomes).map Die.outcome = outcomes := by
  rw [handed_eq_map_zip, List.map_map]
  exact List.map_snd_zip enough

/-- Where there are outcomes enough, all dice get one. -/
theorem map_faces_handed {faces : List Nat} {outcomes : List Int}
    (enough : faces.length ≤ outcomes.length) :
    (handed faces outcomes).map Die.faces = faces.map Int.ofNat := by
  have firsts := congrArg (List.map Int.ofNat) (List.map_fst_zip enough)
  rw [List.map_map] at firsts
  rw [handed_eq_map_zip, List.map_map]
  exact firsts

/-- Terms take what they have dice for, and leave the rest. -/
theorem dealTerms_of_short {terms : List Term} (short : ∀ term ∈ terms, term.Short)
    (outcomes : List Int) :
    dealTerms terms outcomes =
      .ok (if outcomes.length < (terms.flatMap Term.diceFaces).length then none
        else some (handed (terms.flatMap Term.diceFaces) outcomes,
          outcomes.drop (terms.flatMap Term.diceFaces).length)) := by
  induction terms generalizing outcomes with
  | nil => rfl
  | cons term rest ih =>
      have later := ih (fun other member => short other (List.mem_cons_of_mem _ member))
        (outcomes.drop (Text.valueOfDigits term.count))
      obtain ⟨count, faces⟩ := short term List.mem_cons_self
      have own : term.diceFaces.length = Text.valueOfDigits term.count := List.length_replicate
      simp only [dealTerms, termNumber_of_le count, termNumber_of_le faces, later,
        List.flatMap_cons, List.length_append, List.length_drop, own]
      by_cases few : outcomes.length < Text.valueOfDigits term.count
      · rw [if_pos few, if_pos (Nat.lt_add_right _ few)]
      · have enough := Nat.le_of_not_lt few
        rw [if_neg few]
        by_cases fewer : outcomes.length - Text.valueOfDigits term.count <
            (rest.flatMap Term.diceFaces).length
        · rw [if_pos fewer, if_pos (by omega)]
        · rw [if_neg fewer, if_neg (by omega), handed_append (own ▸ enough), own, List.drop_drop]
          have taken : (outcomes.take (Text.valueOfDigits term.count)).length =
              Text.valueOfDigits term.count := by
            rw [List.length_take, Nat.min_eq_left enough]
          have first := handed_replicate (Text.valueOfDigits term.faces)
            (outcomes.take (Text.valueOfDigits term.count))
          rw [taken] at first
          rw [Term.diceFaces, first]

/-- Outcomes fit a formula exactly when there are as many as dice and no `d` dangles at its end,
and then each die has the one in its place. -/
theorem deal_eq_of_short {formula : String}
    (short : ∀ term ∈ (formulaTerms formula.toList).terms, term.Short) (outcomes : List Int) :
    deal formula outcomes =
      .ok (if (formulaTerms formula.toList).dangling = true ∨ outcomes.length ≠
          ((formulaTerms formula.toList).terms.flatMap Term.diceFaces).length then
        none
      else some
        (handed ((formulaTerms formula.toList).terms.flatMap Term.diceFaces) outcomes)) := by
  simp only [deal, dealTerms_of_short short]
  generalize (formulaTerms formula.toList).terms.flatMap Term.diceFaces = faces
  generalize (formulaTerms formula.toList).dangling = dangling
  by_cases few : outcomes.length < faces.length
  · rw [if_pos few, if_pos (.inr (Nat.ne_of_lt few))]
  · rw [if_neg few]
    by_cases same : outcomes.length = faces.length
    · simp only [← same, List.drop_length, List.isEmpty_nil, Bool.not_true, Bool.or_false, ne_eq,
        not_true_eq_false, or_false]
    · have more : (outcomes.drop faces.length).isEmpty = false := by
        simp only [List.isEmpty_eq_false_iff, ne_eq, List.drop_eq_nil_iff]
        omega
      rw [if_pos (.inr same)]
      simp only [more, Bool.not_false, Bool.or_true, ↓reduceIte]

/-- Outcomes fit a formula at whose end no `d` dangles exactly when there are as many as dice. -/
theorem deal_of_short {formula : String}
    (short : ∀ term ∈ (formulaTerms formula.toList).terms, term.Short)
    (ended : (formulaTerms formula.toList).dangling = false) (outcomes : List Int) :
    deal formula outcomes =
      .ok (if outcomes.length =
          ((formulaTerms formula.toList).terms.flatMap Term.diceFaces).length then
        some (handed ((formulaTerms formula.toList).terms.flatMap Term.diceFaces) outcomes)
      else none) := by
  rw [deal_eq_of_short short, ended]
  simp only [Bool.false_eq_true, false_or, ne_eq, ite_not]

/-- A number that is read is the one that is written. -/
theorem termNumber_eq_ok {digits : List Char} {n : Nat} (read : termNumber digits = .ok n) :
    n = Text.valueOfDigits digits := by
  unfold termNumber at read
  split at read
  · cases read
  · exact (Except.ok.inj read).symm

/-- What is dealt has the faces of the terms, in order. -/
theorem dealTerms_faces {terms : List Term} {outcomes left : List Int} {dice : List Die}
    (dealt : dealTerms terms outcomes = .ok (some (dice, left))) :
    dice.map Die.faces = (terms.flatMap Term.diceFaces).map Int.ofNat := by
  induction terms generalizing outcomes left dice with
  | nil =>
      obtain ⟨rfl, -⟩ := Prod.mk.inj (Option.some.inj (Except.ok.inj dealt))
      rfl
  | cons term rest ih =>
      simp only [dealTerms] at dealt
      split at dealt
      · cases dealt
      · cases dealt
      · next count faces counted sided =>
        obtain rfl := termNumber_eq_ok counted
        obtain rfl := termNumber_eq_ok sided
        split at dealt
        · cases dealt
        · next enough =>
          split at dealt
          · next others _ later =>
            obtain ⟨rfl, -⟩ := Prod.mk.inj (Option.some.inj (Except.ok.inj dealt))
            rw [List.map_append, ih later, List.flatMap_cons, List.map_append, List.map_map,
              Term.diceFaces, List.map_replicate]
            congr 1
            refine List.eq_replicate_iff.mpr ⟨?_, fun face member => ?_⟩
            · rw [List.length_map, List.length_take, Nat.min_eq_left (Nat.le_of_not_lt enough)]
            · obtain ⟨_, -, rfl⟩ := List.mem_map.mp member
              rfl
          · next other => exact absurd dealt (other _ _)

/-- The dice that outcomes are dealt to have the faces that the terms give them. -/
theorem deal_faces {formula : String} {outcomes : List Int} {dice : List Die}
    (dealt : deal formula outcomes = .ok (some dice)) :
    dice.map Die.faces =
      ((formulaTerms formula.toList).terms.flatMap Term.diceFaces).map Int.ofNat := by
  simp only [deal] at dealt
  split at dealt
  · cases dealt
  · cases dealt
  · next read =>
    split at dealt
    · cases dealt
    · obtain rfl := Option.some.inj (Except.ok.inj dealt)
      exact dealTerms_faces read

end Dice

end DiceLedger
