import DiceLedger.Proofs.Binary64.Entire
import DiceLedger.Proofs.Dice.DiceTerms

/-! # Formulas with whole values

Dice show whole numbers, and of the operators only division and powers make other numbers of them.
Whatever the value of a text that holds neither of these, and no decimal point, it is entire
(`DiceLedger.Dice.WholeFormula.entire`).
-/

namespace DiceLedger

namespace Dice

open Binary64

variable {σ : Type}

/-- A text without division, powers and decimal points. -/
def WholeFormula (text : List Char) : Prop := ∀ c ∈ text, c ≠ '/' ∧ c ≠ '^' ∧ c ≠ '.'

instance (text : List Char) : Decidable (WholeFormula text) :=
  List.decidableBAll (fun c => c ≠ '/' ∧ c ≠ '^' ∧ c ≠ '.') text

/-- Rolling entire numbers adds up faces, or multiplies. -/
theorem entire_roll (source : Source σ) {count faces value : Binary64} (counted : Entire count)
    (sided : Entire faces) (state : σ) (rolled : value ∈ (roll source count faces state).1) :
    Entire value := by
  unfold roll at rolled
  split at rolled
  · obtain rfl := Option.some.inj rolled
    exact counted.mul sided
  · split at rolled
    · split at rolled
      · cases rolled
      · obtain rfl := Option.some.inj rolled
        exact entire_ofNat _
    · cases rolled

/-- Operators other than division and powers leave entire numbers entire. -/
theorem entire_apply (source : Source σ) {operator : Operator} (total : operator.IsTotal)
    {x y value : Binary64} (left : Entire x) (right : Entire y) (state : σ)
    (applied : value ∈ (apply source operator x y state).1) : Entire value := by
  cases operator with
  | add => exact Option.some.inj applied ▸ left.add right
  | subtract => exact Option.some.inj applied ▸ left.sub right
  | multiply => exact Option.some.inj applied ▸ left.mul right
  | divide => exact absurd rfl total.1
  | power => exact absurd rfl total.2
  | roll => exact entire_roll source left right state applied

/-- Entire operands leave an operator with an entire value. -/
theorem entire_applyInOrder (source : Source σ) {operator : Operator} (total : operator.IsTotal)
    {left right : σ → Option Binary64 × σ}
    (leftEntire : ∀ state, ∀ value ∈ (left state).1, Entire value)
    (rightEntire : ∀ state, ∀ value ∈ (right state).1, Entire value) (state : σ) :
    ∀ value ∈ (applyInOrder source operator left right state).1, Entire value := by
  have first := leftEntire state
  unfold applyInOrder
  generalize left state = result at first ⊢
  obtain ⟨_ | x, middle⟩ := result
  · exact fun _ none => nomatch none
  · have second := rightEntire middle
    dsimp only
    generalize right middle = result at second ⊢
    obtain ⟨_ | y, last⟩ := result
    · exact fun _ none => nomatch none
    · exact fun _ applied => entire_apply source total (first x rfl) (second y rfl) last applied

/-- A token that makes whole numbers of whole numbers. -/
def Token.IsWhole : Token → Prop
  | .numeral text => ∀ c ∈ text, c.isDigit = true
  | .operator applied => applied.IsTotal
  | .opening => True
  | .closing => True

/-- A phrase of such tokens has entire values. -/
theorem Phrase.entire (source : Source σ) (phrase : Phrase)
    (whole : ∀ t ∈ phrase.tokens, t.IsWhole) (state : σ) :
    ∀ value ∈ (phrase.evaluate source state).1, Entire value := by
  induction phrase generalizing state with
  | numeral written =>
      rintro _ ⟨⟩
      rw [Numeral.value_of_digits (whole _ List.mem_cons_self)]
      exact entire_ofNat _
  | group inner ih =>
      exact ih (fun t member => whole t (by simp [tokens, member])) state
  | beside left inner ihLeft ihInner =>
      have total : Operator.multiply.IsTotal := ⟨by decide, by decide⟩
      exact entire_applyInOrder source total
        (ihLeft fun t member => whole t (by simp [tokens, member]))
        (ihInner fun t member => whole t (by simp [tokens, member])) state
  | binary operator left right ihLeft ihRight =>
      exact entire_applyInOrder source (whole (.operator operator) (by simp [tokens]))
        (ihLeft fun t member => whole t (by simp [tokens, member]))
        (ihRight fun t member => whole t (by simp [tokens, member])) state

/-- The operators of whole numbers are neither division nor powers. -/
theorem Token.ofChar?_isWhole {c : Char} {t : Token} (written : Token.ofChar? c = some t)
    (other : c ≠ '/' ∧ c ≠ '^' ∧ c ≠ '.') : t.IsWhole := by
  unfold Token.ofChar? at written
  split at written
  · exact Option.some.inj written ▸ trivial
  · exact Option.some.inj written ▸ trivial
  · obtain ⟨operator, symbol, rfl⟩ := Option.map_eq_some_iff.mp written
    unfold Operator.ofSymbol? at symbol
    split at symbol <;> grind [Token.IsWhole, Operator.IsTotal]

/-- A formula without division, powers and points has tokens of whole numbers alone. -/
theorem WholeFormula.tokensAfter {text : List Char} (whole : WholeFormula text) :
    ∀ digits : List Char, (∀ c ∈ digits, c.isDigit = true) →
      ∀ t ∈ tokensAfter digits text, t.IsWhole := by
  have pending (digits : List Char) (all : ∀ c ∈ digits, c.isDigit = true) :
      ∀ t ∈ pendingNumeral digits, t.IsWhole := by
    unfold pendingNumeral
    split
    · exact List.forall_mem_nil _
    · exact List.forall_mem_singleton.mpr fun c member => all c (List.mem_reverse.mp member)
  induction text with
  | nil => exact pending
  | cons c rest ih =>
      intro digits all
      obtain ⟨other, later⟩ := List.forall_mem_cons.mp whole
      rw [Dice.tokensAfter]
      split
      · next numeral =>
        have digit : c.isDigit = true := by
          by_contra point
          exact other.2.2 (eq_point_of_not_digit numeral (Bool.eq_false_iff.mpr point))
        exact ih later _ (List.forall_mem_cons.mpr ⟨digit, all⟩)
      · split
        · next t written =>
          exact List.forall_mem_append.mpr ⟨pending digits all, List.forall_mem_cons.mpr
            ⟨Token.ofChar?_isWhole written other, ih later [] (List.forall_mem_nil _)⟩⟩
        · exact ih later digits all

/-- A sentence holds no other tokens than its text, closing parentheses apart. -/
theorem mem_of_mem_balanced {t : Token} (other : t ≠ .closing) {ts : List Token} :
    ∀ {opened : Nat}, t ∈ balanced opened ts → t ∈ ts := by
  intro opened
  fun_induction balanced opened ts with
  | case1 opened => exact fun member => absurd (List.eq_of_mem_replicate member) other
  | case5 => exact fun member => nomatch member
  | _ => grind

/-- **A formula without division, powers and decimal points has entire values.** -/
theorem WholeFormula.entire {text : String} (whole : WholeFormula text.toList)
    (source : Source σ) (state : σ) : ∀ value ∈ (evaluate source text state).1, Entire value := by
  intro value valued
  have complete : (read text.toList).complete = true :=
    complete_of_isSome (Option.isSome_iff_exists.mpr ⟨value, valued⟩)
  obtain ⟨phrase, -, written, same⟩ := exists_phrase_of_complete complete
  rw [same] at valued
  refine phrase.entire source (fun t member => ?_) state value valued
  rw [written, sentence] at member
  by_cases closing : t = .closing
  · exact closing ▸ trivial
  · exact whole.tokensAfter [] (List.forall_mem_nil _) t (mem_of_mem_balanced closing member)

end Dice

end DiceLedger
