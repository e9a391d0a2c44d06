import DiceLedger.Proofs.Dice.Phrase
import Mathlib.Data.List.Chain

/-! # The grammar of dice expressions

An expression is a chain of operands and operators, an operand a numeral or a group with any
number of groups directly behind it, a group an expression in parentheses. What the grammar
derives is what well-formed phrases write (`DiceLedger.Dice.derives_iff_phrase`), and it is
never malformed: no operator lacks an operand, no group is empty, no numeral stands behind a
group or has two points (`DiceLedger.Dice.Derives.not_malformed`).
-/

namespace DiceLedger

namespace Dice

/-- What the grammar derives. -/
inductive Category where
  | expression
  | operand
  | group

/-- The grammar of dice expressions. -/
inductive Derives : Category → List Token → Prop where
  | group {inner : List Token} (within : Derives .expression inner) :
      Derives .group (.opening :: inner ++ [.closing])
  | numeral {text : List Char} (proper : IsNumeral text) : Derives .operand [.numeral text]
  | first {ts : List Token} (group : Derives .group ts) : Derives .operand ts
  | next {left ts : List Token} (operand : Derives .operand left) (group : Derives .group ts) :
      Derives .operand (left ++ ts)
  | operand {ts : List Token} (single : Derives .operand ts) : Derives .expression ts
  | operator {left right : List Token} (applied : Operator) (chain : Derives .expression left)
      (last : Derives .operand right) :
      Derives .expression (left ++ .operator applied :: right)

/-- Two expressions with an operator between them are an expression. -/
theorem Derives.join {left right : List Token} (chain : Derives .expression left)
    (applied : Operator) (further : Derives .expression right) :
    Derives .expression (left ++ .operator applied :: right) := by
  generalize same : Category.expression = category at further
  induction further with
  | operand single => exact chain.operator applied single
  | operator later _ last ihChain _ =>
      rw [← List.cons_append, ← List.append_assoc]
      exact (ihChain rfl).operator later last
  | _ => cases same

namespace Phrase

/-- What a well-formed phrase writes is derived. -/
theorem WellFormed.derives {phrase : Phrase} (proper : phrase.WellFormed) :
    Derives .expression phrase.tokens ∧
      (4 < phrase.tightness → Derives .operand phrase.tokens) := by
  induction phrase with
  | numeral written =>
      have operand : Derives .operand [.numeral written.text] := Derives.numeral written.proper
      exact ⟨operand.operand, fun _ => operand⟩
  | group inner ih =>
      have operand : Derives .operand (.opening :: inner.tokens ++ [.closing]) :=
        (Derives.group (ih proper).1).first
      exact ⟨operand.operand, fun _ => operand⟩
  | beside left inner ihLeft ihInner =>
      obtain ⟨leftProper, tight, innerProper⟩ := proper
      have operand : Derives .operand (left.tokens ++ (.opening :: inner.tokens ++ [.closing])) :=
        ((ihLeft leftProper).2 tight).next (Derives.group (ihInner innerProper).1)
      rw [← List.append_assoc] at operand
      exact ⟨operand.operand, fun _ => operand⟩
  | binary operator left right ihLeft ihRight =>
      obtain ⟨⟨leftProper, _⟩, rightProper, _⟩ := proper
      exact ⟨(ihLeft leftProper).1.join operator (ihRight rightProper).1,
        fun tight => absurd tight (Nat.not_lt.mpr operator.precedence_le)⟩

/-- Writes an operator and an operand behind a phrase: the operator takes as much of the
phrase for its left operand as its precedence allows. -/
def append (operator : Operator) (operand : Phrase) : Phrase → Phrase
  | binary last left right =>
    if operator.precedence ≤ last.precedence then
      binary operator (binary last left right) operand
    else binary last left (append operator operand right)
  | phrase => binary operator phrase operand

theorem tokens_append (operator : Operator) (operand phrase : Phrase) :
    (append operator operand phrase).tokens =
      phrase.tokens ++ .operator operator :: operand.tokens := by
  induction phrase with
  | binary last left right _ ihRight =>
      unfold append
      split
      · rfl
      · rw [tokens, ihRight, tokens, List.append_assoc, List.cons_append]
  | _ => rfl

/-- An operand that is added loosens a phrase to its operator. -/
theorem tightness_append (operator : Operator) (operand phrase : Phrase) :
    (append operator operand phrase).tightness = min phrase.tightness operator.precedence := by
  have single : min 5 operator.precedence = operator.precedence :=
    Nat.min_eq_right (Nat.le_succ_of_le operator.precedence_le)
  cases phrase with
  | binary last left right =>
      unfold append
      split
      · exact (Nat.min_eq_right (by assumption)).symm
      · exact (Nat.min_eq_left (Nat.le_of_not_le (by assumption))).symm
  | _ => exact single.symm

/-- An operand that binds tightly enough may be added to any phrase. -/
theorem WellFormed.append {phrase operand : Phrase} (proper : phrase.WellFormed)
    (operator : Operator) (operandProper : operand.WellFormed) (tight : 4 < operand.tightness) :
    (append operator operand phrase).WellFormed := by
  have right : operator.precedence < operand.tightness :=
    Nat.lt_of_le_of_lt operator.precedence_le tight
  have loose : operator.precedence ≤ 5 := Nat.le_succ_of_le operator.precedence_le
  induction phrase with
  | binary last left rest _ ihRest =>
      unfold Phrase.append
      split
      · exact ⟨⟨proper, by assumption⟩, operandProper, right⟩
      · obtain ⟨leftProper, restProper, restTight⟩ := proper
        refine ⟨leftProper, ihRest restProper, ?_⟩
        rw [tightness_append]
        exact Nat.lt_min.mpr ⟨restTight, Nat.lt_of_not_le (by assumption)⟩
  | _ => exact ⟨⟨proper, loose⟩, operandProper, right⟩

end Phrase

/-- What the phrases of a category write. -/
def Category.Writes : Category → List Token → Prop
  | .expression, ts => ∃ phrase : Phrase, phrase.WellFormed ∧ phrase.tokens = ts
  | .operand, ts => ∃ phrase : Phrase, phrase.WellFormed ∧ phrase.tokens = ts ∧ 4 < phrase.tightness
  | .group, ts => ∃ inner : Phrase, inner.WellFormed ∧ (Phrase.group inner).tokens = ts

/-- What is derived is written by a phrase. -/
theorem Derives.writes {category : Category} {ts : List Token} (derived : Derives category ts) :
    category.Writes ts := by
  induction derived with
  | group _ ih =>
      obtain ⟨inner, proper, rfl⟩ := ih
      exact ⟨inner, proper, rfl⟩
  | numeral proper => exact ⟨.numeral ⟨_, proper⟩, trivial, rfl, Nat.lt_succ_self 4⟩
  | first _ ih =>
      obtain ⟨inner, proper, rfl⟩ := ih
      exact ⟨.group inner, proper, rfl, Nat.lt_succ_self 4⟩
  | next _ _ ihOperand ihGroup =>
      obtain ⟨left, leftProper, rfl, tight⟩ := ihOperand
      obtain ⟨inner, proper, rfl⟩ := ihGroup
      exact ⟨.beside left inner, ⟨leftProper, tight, proper⟩, List.append_assoc _ _ _,
        Nat.lt_succ_self 4⟩
  | operand _ ih =>
      obtain ⟨phrase, proper, written, _⟩ := ih
      exact ⟨phrase, proper, written⟩
  | operator applied _ _ ihChain ihLast =>
      obtain ⟨chain, chainProper, rfl⟩ := ihChain
      obtain ⟨last, lastProper, rfl, tight⟩ := ihLast
      exact ⟨Phrase.append applied last chain, chainProper.append applied lastProper tight,
        Phrase.tokens_append applied last chain⟩

/-- The grammar derives what well-formed phrases write. -/
theorem derives_iff_phrase {ts : List Token} :
    Derives .expression ts ↔ ∃ phrase : Phrase, phrase.WellFormed ∧ phrase.tokens = ts := by
  constructor
  · exact Derives.writes
  · rintro ⟨phrase, proper, rfl⟩
    exact proper.derives.1

/-- Whether the second token may not stand directly behind the first one. -/
def Token.clashes : Token → Token → Bool
  | .opening, .operator _ => true
  | .opening, .closing => true
  | .operator _, .operator _ => true
  | .operator _, .closing => true
  | .closing, .numeral _ => true
  | .numeral _, .numeral _ => true
  | _, _ => false

/-- Between the parentheses that enclose the tokens, two neighbours clash, or a numeral has
two points: an operator at the beginning, at the end or behind another one, nothing between
parentheses, a numeral behind a closing one or behind another numeral. -/
def Malformed (ts : List Token) : Prop :=
  (∃ first second, Token.clashes first second = true ∧
    [first, second] <:+: .opening :: ts ++ [.closing]) ∨
  ∃ text, .numeral text ∈ ts ∧ 2 ≤ text.count '.'

/-- No two neighbours clash. -/
def Tidy (ts : List Token) : Prop :=
  ts.IsChain fun first second => Token.clashes first second = false

/-- Another last token may stand where a closing parenthesis may. -/
theorem Tidy.replace_last {ts : List Token} {t : Token} (tidy : Tidy (ts ++ [.closing]))
    (milder : ∀ before : Token, before.clashes .closing = false → before.clashes t = false) :
    Tidy (ts ++ [t]) := by
  obtain ⟨front, _, meets⟩ := List.isChain_append.mp tidy
  refine List.isChain_append.mpr ⟨front, List.IsChain.singleton t, ?_⟩
  rintro last member next ⟨⟩
  exact milder last (meets last member .closing rfl)

/-- Another first token may stand where an opening parenthesis may. -/
theorem Tidy.replace_head {ts : List Token} {t : Token} (tidy : Tidy (.opening :: ts))
    (milder : ∀ after, Token.clashes .opening after = false → t.clashes after = false) :
    Tidy (t :: ts) := by
  obtain ⟨meets, back⟩ := List.isChain_cons.mp tidy
  exact List.isChain_cons.mpr ⟨fun after member => milder after (meets after member), back⟩

/-- Tidy tokens that share one are tidy together. -/
theorem Tidy.join {ts us : List Token} {t : Token} (front : Tidy (ts ++ [t]))
    (back : Tidy (t :: us)) : Tidy (ts ++ t :: us) :=
  List.isChain_split.mpr ⟨front, back⟩

/-- Derived tokens are tidy between parentheses. -/
theorem Derives.tidy {category : Category} {ts : List Token} (derived : Derives category ts) :
    Tidy (.opening :: ts ++ [.closing]) := by
  induction derived with
  | @group inner _ ih =>
      have closed : Tidy ((.opening :: inner) ++ .closing :: [.closing]) :=
        Tidy.join ih (List.IsChain.cons_cons rfl (List.IsChain.singleton _))
      rw [List.cons_append, List.append_assoc]
      exact List.IsChain.cons_cons rfl closed
  | numeral proper =>
      exact List.IsChain.cons_cons rfl (List.IsChain.cons_cons rfl (List.IsChain.singleton _))
  | first _ ih => exact ih
  | @next left _ _ group ihOperand ihGroup =>
      cases group with
      | @group inner _ =>
          have front : Tidy ((.opening :: left) ++ [.opening]) :=
            ihOperand.replace_last fun before _ => by cases before <;> rfl
          have back : Tidy (.opening :: (inner ++ [.closing] ++ [.closing])) := ihGroup.tail
          rw [List.cons_append, List.append_assoc]
          exact front.join back
  | operand _ ih => exact ih
  | @operator left right applied _ _ ihChain ihLast =>
      have front : Tidy ((.opening :: left) ++ [.operator applied]) :=
        ihChain.replace_last fun before plain => by cases before <;> trivial
      have back : Tidy (.operator applied :: (right ++ [.closing])) :=
        ihLast.replace_head fun after plain => by cases after <;> trivial
      rw [List.cons_append, List.append_assoc]
      exact front.join back

/-- The numerals of derived tokens are numerals. -/
theorem Derives.isNumeral {category : Category} {ts : List Token} (derived : Derives category ts)
    {text : List Char} (member : .numeral text ∈ ts) : IsNumeral text := by
  induction derived with
  | group _ ih => exact ih (by simpa using member)
  | numeral proper =>
      obtain ⟨⟩ := List.mem_singleton.mp member
      exact proper
  | first _ ih => exact ih member
  | next _ _ ihOperand ihGroup => exact (List.mem_append.mp member).elim ihOperand ihGroup
  | operand _ ih => exact ih member
  | operator applied _ _ ihChain ihLast =>
      rcases List.mem_append.mp member with front | back
      · exact ihChain front
      · exact ihLast (by simpa using back)

/-- Nothing malformed is derived. -/
theorem Derives.not_malformed {category : Category} {ts : List Token}
    (derived : Derives category ts) : ¬ Malformed ts := by
  rintro (⟨first, second, clash, ⟨front, back, whole⟩⟩ | ⟨text, member, points⟩)
  · have tidy := derived.tidy
    rw [← whole, List.append_assoc] at tidy
    have pair := (List.isChain_split.mp tidy).2.rel
    rw [pair] at clash
    cases clash
  · exact absurd (derived.isNumeral member).points (Nat.not_le.mpr points)

end Dice

end DiceLedger
