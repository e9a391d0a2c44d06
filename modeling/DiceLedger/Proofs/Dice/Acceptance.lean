import DiceLedger.Proofs.Dice.Grammar
import DiceLedger.Proofs.Dice.ReadingComplete
import DiceLedger.Proofs.Dice.ReadingSentence

/-! # Which texts have a value

A text has a value exactly when its sentence is an expression of the grammar and no operator
of it is applied to operands that it is not defined for
(`DiceLedger.Dice.evaluate_isSome_iff_sentence`). A text whose sentence is malformed never has
one, and texts of one sentence have the same one.
-/

namespace DiceLedger

namespace Dice

variable {σ : Type}

/-- A text whose sentence a phrase writes has the value of the phrase. -/
theorem evaluate_of_phrase (source : Source σ) {text : String} {phrase : Phrase}
    (proper : phrase.WellFormed) (written : phrase.tokens = sentence text)
    (within : phrase.nesting + 2 ≤ maxDepth) (state : σ) :
    evaluate source text state = phrase.evaluate source state := by
  have ended : Stops 1 [] := trivial
  have read := readExpression_phrase proper within phrase.tightness_pos ended
  rw [List.append_nil] at read
  rw [evaluate_sentence, ← written, read, value_of_steps]

/-- What is read completely is a phrase that writes the sentence, whatever it is evaluated
with. -/
theorem exists_phrase_of_complete {text : String} (complete : (read text.toList).complete = true) :
    ∃ phrase : Phrase, phrase.WellFormed ∧ phrase.tokens = sentence text ∧
      ∀ {τ : Type} (source : Source τ) (state : τ),
        evaluate source text state = phrase.evaluate source state := by
  obtain ⟨phrase, read⟩ := readExpression_sound maxDepth (by decide : 1 ≤ 5) _
    (lexed_tokens text.toList) complete
  have ended : balanced 0 (tokens text.toList) =
      [] ++ (phrase.tokens ++ balanced 0 (Dice.read text.toList).rest) := read.tokens 0
  have nothing : balanced 0 (Dice.read text.toList).rest = [] := by
    obtain ⟨us, behind | ⟨behind, _⟩⟩ := read.stops.exists_closes
    · exact congrArg (balanced 0) behind
    · exact congrArg (balanced 0) behind
  rw [List.nil_append] at ended
  refine ⟨phrase, read.wellFormed, ?_, fun source state => ?_⟩
  · rw [sentence, ended, nothing, List.append_nil]
  · have whole : Dice.read text.toList = ⟨phrase.steps, true, (Dice.read text.toList).rest⟩ := by
      rw [← read.steps, ← complete]
      rfl
    rw [evaluate, whole, value_of_steps]

/-- Only a text whose sentence is an expression is read completely. -/
theorem derives_of_complete {text : String} (complete : (read text.toList).complete = true) :
    Derives .expression (sentence text) := by
  obtain ⟨phrase, proper, written, -⟩ := exists_phrase_of_complete complete
  exact derives_iff_phrase.mpr ⟨phrase, proper, written⟩

theorem complete_of_isSome {source : Source σ} {reading : Reading} {state : σ}
    (valued : (reading.value source state).1.isSome) : reading.complete = true := by
  unfold Reading.value at valued
  split at valued
  · split at valued
    · assumption
    · cases valued
  · cases valued

/-- **A text has a value exactly when its sentence is an expression, and none of its
operators meets operands that it is not defined for.** A malformed sentence has none, and
what stands behind the sentence does not matter. -/
theorem evaluate_isSome_iff_sentence (source : Source σ) (text : String) (state : σ)
    (within : ∀ phrase : Phrase, phrase.WellFormed → phrase.tokens = sentence text →
      phrase.nesting + 2 ≤ maxDepth) :
    ((evaluate source text state).1.isSome ↔
      Derives .expression (sentence text) ∧ ∀ phrase : Phrase, phrase.WellFormed →
        phrase.tokens = sentence text → (phrase.evaluate source state).1.isSome) ∧
    (Malformed (sentence text) → (evaluate source text state).1 = none) ∧
    ∀ other : String, sentence other = sentence text →
      evaluate source other state = evaluate source text state := by
  have derives (valued : (evaluate source text state).1.isSome) :
      Derives .expression (sentence text) :=
    derives_of_complete (complete_of_isSome valued)
  refine ⟨⟨fun valued => ⟨derives valued, fun phrase proper written => ?_⟩, ?_⟩, ?_,
    fun other same => evaluate_congr_sentence source same state⟩
  · rwa [← evaluate_of_phrase source proper written (within phrase proper written)]
  · rintro ⟨derived, defined⟩
    obtain ⟨phrase, proper, written⟩ := derives_iff_phrase.mp derived
    rw [evaluate_of_phrase source proper written (within phrase proper written)]
    exact defined phrase proper written
  · intro malformed
    by_contra valued
    exact (derives (Option.isSome_iff_ne_none.mpr valued)).not_malformed malformed

/-- A group that is not closed, dice that all show one, and a text with more behind it. -/
theorem evaluate_isSome_iff_open_group :
    Derives .expression (sentence "2d6 + (1") ∧
      evaluate (⟨fun _ state => (1, state)⟩ : Source Unit) "2d6 + (1)) + 5" () =
        evaluate ⟨fun _ state => (1, state)⟩ "2d6 + (1" () := by
  have within (phrase : Phrase) (_ : phrase.WellFormed)
      (written : phrase.tokens = sentence "2d6 + (1") : phrase.nesting + 2 ≤ maxDepth := by
    have short := phrase.nesting_le_length
    have tokens : (sentence "2d6 + (1").length = 7 := by decide
    rw [written, tokens] at short
    unfold maxDepth
    omega
  have accepted := evaluate_isSome_iff_sentence (⟨fun _ state => (1, state)⟩ : Source Unit)
    "2d6 + (1" () within
  exact ⟨(accepted.1.mp (by decide +kernel)).1, accepted.2.2 _ (by decide)⟩

end Dice

end DiceLedger
