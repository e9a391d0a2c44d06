import DiceLedger.Dice.Token
import Mathlib.Data.List.Chain

/-! # The tokens of a text, and its sentence

Cutting a text gives numerals of digits and points that never stand side by side
(`DiceLedger.Dice.lexed_tokens`); such tokens, written one after another, are cut into
themselves again (`DiceLedger.Dice.tokens_flatMap_chars`). The sentence of a text is what an
evaluation can see of it: its tokens up to the first closing parenthesis that nothing
opened, and behind them the closing parentheses that are missing
(`DiceLedger.Dice.sentence`).
-/

namespace DiceLedger

namespace Dice

def Token.isNumeral : Token → Bool
  | .numeral _ => true
  | _ => false

/-- Tokens as they are cut from a text. -/
structure Lexed (ts : List Token) : Prop where
  chars : ∀ text, .numeral text ∈ ts → ∀ c ∈ text, isNumeralChar c = true
  apart : ts.IsChain fun first second => first.isNumeral = false ∨ second.isNumeral = false

/-- The end of tokens that were cut is so, too. -/
theorem Lexed.suffix {ts us : List Token} (lexed : Lexed ts) (behind : us <:+ ts) : Lexed us :=
  ⟨fun text member => lexed.chars text (behind.subset member), lexed.apart.suffix behind⟩

theorem Lexed.tail {t : Token} {ts : List Token} (lexed : Lexed (t :: ts)) : Lexed ts :=
  lexed.suffix (List.suffix_cons t ts)

/-- No numeral stands behind a numeral. -/
theorem Lexed.head_of_numeral {text : List Char} {ts : List Token}
    (lexed : Lexed (.numeral text :: ts)) (other : List Char) :
    ts.head? ≠ some (.numeral other) := by
  intro head
  have apart := lexed.apart.rel_head? head
  simp only [Token.isNumeral, Bool.true_eq_false, or_self] at apart

/-- Tokens of one character are no numerals. -/
theorem ofChar?_isNumeral {c : Char} {token : Token} (written : Token.ofChar? c = some token) :
    token.isNumeral = false := by
  unfold Token.ofChar? at written
  split at written
  · obtain rfl := Option.some.inj written
    rfl
  · obtain rfl := Option.some.inj written
    rfl
  · obtain ⟨operator, _, rfl⟩ := Option.map_eq_some_iff.mp written
    rfl

/-- In front of tokens that were cut, one that is no numeral may stand. -/
theorem Lexed.cons_of_not_numeral {t : Token} {ts : List Token} (plain : t.isNumeral = false)
    (lexed : Lexed ts) : Lexed (t :: ts) where
  chars := by
    intro text member
    rcases List.mem_cons.mp member with rfl | later
    · cases plain
    · exact lexed.chars text later
  apart := lexed.apart.cons fun _ _ => Or.inl plain

/-- The tokens of a text have no two numerals side by side, and only proper characters in them. -/
theorem lexed_tokensAfter (text : List Char) :
    ∀ digits : List Char, (∀ c ∈ digits, isNumeralChar c = true) →
      Lexed (tokensAfter digits text) := by
  have pending : ∀ digits : List Char, (∀ c ∈ digits, isNumeralChar c = true) →
      ∀ t ∈ pendingNumeral digits, ∀ numeral, t = .numeral numeral →
        ∀ c ∈ numeral, isNumeralChar c = true := by
    intro digits chars t member numeral same c inside
    unfold pendingNumeral at member
    split at member
    · cases member
    · obtain rfl := List.mem_singleton.mp member
      obtain rfl := Token.numeral.inj same
      exact chars c (List.mem_reverse.mp inside)
  induction text with
  | nil =>
      intro digits chars
      refine ⟨fun numeral member => pending digits chars _ member numeral rfl, ?_⟩
      unfold tokensAfter pendingNumeral
      split
      · exact List.IsChain.nil
      · exact List.IsChain.singleton _
  | cons c rest ih =>
      intro digits chars
      unfold tokensAfter
      split
      · rename_i numeral
        exact ih _ fun d member => (List.mem_cons.mp member).elim (· ▸ numeral) (chars d)
      · split
        · rename_i token written
          have plain := ofChar?_isNumeral written
          have later : Lexed (token :: tokensAfter [] rest) :=
            Lexed.cons_of_not_numeral plain (ih [] fun _ member => nomatch member)
          unfold pendingNumeral
          split
          · exact later
          · refine ⟨fun numeral member => ?_, later.apart.cons fun next head => ?_⟩
            · rcases List.mem_cons.mp member with same | member
              · obtain rfl := Token.numeral.inj same
                exact fun d inside => chars d (List.mem_reverse.mp inside)
              · exact later.chars numeral member
            · obtain rfl := Option.some.inj head
              exact Or.inr plain
        · exact ih digits chars

/-- The tokens of a text are numerals of digits and points, never two side by side, and
single characters. -/
theorem lexed_tokens (text : List Char) : Lexed (tokens text) :=
  lexed_tokensAfter text [] fun _ member => nomatch member

/-- The characters that write a token. -/
def Token.chars : Token → List Char
  | .numeral text => text
  | .operator applied => [applied.symbol]
  | .opening => ['(']
  | .closing => [')']

/-- Characters without meaning are passed over, also within a numeral. -/
theorem tokensAfter_of_skipped {c : Char} (other : isSignificant c = false)
    (digits rest : List Char) : tokensAfter digits (c :: rest) = tokensAfter digits rest := by
  obtain ⟨numeral, token⟩ := Bool.or_eq_false_iff.mp other
  have absent : Token.ofChar? c = none := by simpa using token
  rw [tokensAfter, numeral, absent]
  rfl

/-- The characters of numerals go on with the numeral in progress. -/
theorem tokensAfter_append (text rest : List Char)
    (chars : ∀ c ∈ text, isNumeralChar c = true) :
    ∀ digits, tokensAfter digits (text ++ rest) = tokensAfter (text.reverse ++ digits) rest := by
  induction text with
  | nil => exact fun digits => rfl
  | cons c text ih =>
      intro digits
      rw [List.cons_append, tokensAfter, if_pos (chars c List.mem_cons_self),
        ih (fun d member => chars d (List.mem_cons_of_mem _ member)), List.reverse_cons,
        List.append_assoc, List.singleton_append]

/-- A token of one character ends the numeral in progress. -/
theorem tokensAfter_cons_of_token {c : Char} {t : Token} (other : isNumeralChar c = false)
    (written : Token.ofChar? c = some t) (digits rest : List Char) :
    tokensAfter digits (c :: rest) = pendingNumeral digits ++ t :: tokensAfter [] rest := by
  simp only [tokensAfter, other, Bool.false_eq_true, ↓reduceIte, written]

/-- A token that is no numeral is read from its text. -/
theorem tokensAfter_chars_of_not_numeral {t : Token} (plain : t.isNumeral = false)
    (digits rest : List Char) :
    tokensAfter digits (t.chars ++ rest) =
      pendingNumeral digits ++ t :: tokensAfter [] rest := by
  cases t with
  | numeral text => cases plain
  | opening => exact tokensAfter_cons_of_token rfl rfl digits rest
  | closing => exact tokensAfter_cons_of_token rfl rfl digits rest
  | operator operator =>
      cases operator <;> exact tokensAfter_cons_of_token rfl rfl digits rest

/-- A numeral that is read is kept as it was written. -/
theorem pendingNumeral_reverse {text : List Char} (nonempty : text ≠ []) :
    pendingNumeral text.reverse = [.numeral text] := by
  have written : text.reverse.isEmpty = false := by simpa using nonempty
  rw [pendingNumeral, written, List.reverse_reverse]
  rfl

/-- Tokens that could have been cut from a text are cut from what they write. -/
theorem tokens_flatMap_chars {ts : List Token} (lexed : Lexed ts)
    (nonempty : ∀ text, .numeral text ∈ ts → text ≠ []) :
    tokens (ts.flatMap Token.chars) = ts := by
  have plain (t : Token) (later : t.isNumeral = false) (rest : List Token)
      (digits : List Char) (ih : tokens (rest.flatMap Token.chars) = rest) :
      tokensAfter digits ((t :: rest).flatMap Token.chars) =
        pendingNumeral digits ++ t :: rest := by
    rw [List.flatMap_cons, tokensAfter_chars_of_not_numeral later]
    exact congrArg (pendingNumeral digits ++ t :: ·) ih
  induction ts with
  | nil => rfl
  | cons t rest ih =>
      have restRead := ih lexed.tail fun text member =>
        nonempty text (List.mem_cons_of_mem _ member)
      cases t with
      | opening => exact plain _ rfl rest [] restRead
      | closing => exact plain _ rfl rest [] restRead
      | operator operator => exact plain _ rfl rest [] restRead
      | numeral text =>
          have some := nonempty text List.mem_cons_self
          have read := tokensAfter_append text (rest.flatMap Token.chars)
            (lexed.chars text List.mem_cons_self) []
          rw [List.append_nil] at read
          rw [tokens, List.flatMap_cons, Token.chars, read]
          cases rest with
          | nil => rw [List.flatMap_nil, tokensAfter, pendingNumeral_reverse some]
          | cons next rest =>
              have apart : next.isNumeral = false := by
                cases next with
                | numeral other => exact absurd rfl (lexed.head_of_numeral other)
                | _ => rfl
              have later := ih lexed.tail fun text member =>
                nonempty text (List.mem_cons_of_mem _ member)
              rw [tokens, List.flatMap_cons, tokensAfter_chars_of_not_numeral apart] at later
              rw [List.flatMap_cons, tokensAfter_chars_of_not_numeral apart,
                pendingNumeral_reverse some]
              exact congrArg (Token.numeral text :: ·) later

/-- Tokens up to the first closing parenthesis that nothing opened, and behind them the
closing parentheses that are missing; `opened` groups were opened before. -/
def balanced : (opened : Nat) → List Token → List Token
  | opened, [] => List.replicate opened .closing
  | opened, .opening :: rest => .opening :: balanced (opened + 1) rest
  | opened, .numeral text :: rest => .numeral text :: balanced opened rest
  | opened, .operator operator :: rest => .operator operator :: balanced opened rest
  | 0, .closing :: _ => []
  | opened + 1, .closing :: rest => .closing :: balanced opened rest

/-- The tokens of a text that an evaluation can see, with all groups closed. -/
def sentence (text : String) : List Token := balanced 0 (tokens text.toList)

end Dice

end DiceLedger
