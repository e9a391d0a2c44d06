import DiceLedger.Dice.Evaluation
import DiceLedger.Proofs.Dice.Lexing
import DiceLedger.Proofs.Text.Digits

/-! # Expressions inside free text

An evaluation sees of a text only the characters that tokens are written with. The tokens of
a text write exactly these characters (`DiceLedger.Dice.flatMap_chars_tokens`), and nothing is
cut otherwise when the other characters are taken out, wherever they stood
(`DiceLedger.Dice.tokens_visible`); so no source of dice tells apart two texts that show the
same ones (`DiceLedger.Dice.evaluatesAlike_of_visible_eq`).
-/

namespace DiceLedger

namespace Dice

/-- The characters that tokens are written with. -/
def tokenChars : List Char := "0123456789.+-*/^d()".toList

/-- What an expression sees of a text. -/
def visible (text : List Char) : List Char := text.filter (· ∈ tokenChars)

/-- The characters of tokens have a meaning. -/
theorem isSignificant_of_mem {c : Char} (member : c ∈ tokenChars) : isSignificant c = true := by
  have all : tokenChars.all isSignificant = true := by decide
  exact List.all_eq_true.mp all c member

/-- Digits are characters of tokens. -/
theorem mem_of_isDigit {c : Char} (digit : c.isDigit = true) : c ∈ tokenChars :=
  List.mem_append_left ".+-*/^d()".toList (Text.mem_of_isDigit digit)

/-- A character that is a token of its own is what the token writes. -/
theorem chars_of_ofChar? {c : Char} {token : Token} (written : Token.ofChar? c = some token) :
    token.chars = [c] := by
  unfold Token.ofChar? at written
  split at written
  · obtain rfl := Option.some.inj written
    rfl
  · obtain rfl := Option.some.inj written
    rfl
  · obtain ⟨operator, symbol, rfl⟩ := Option.map_eq_some_iff.mp written
    unfold Operator.ofSymbol? at symbol
    split at symbol <;> cases symbol <;> rfl

/-- What is a token by itself is a character of tokens. -/
theorem mem_of_ofChar? {c : Char} {token : Token} (written : Token.ofChar? c = some token) :
    c ∈ tokenChars := by
  have single := chars_of_ofChar? written
  cases token with
  | numeral text => cases ofChar?_isNumeral written
  | opening => exact List.head_eq_of_cons_eq single ▸ by decide
  | closing => exact List.head_eq_of_cons_eq single ▸ by decide
  | operator operator =>
      obtain rfl := List.head_eq_of_cons_eq single
      cases operator <;> decide

/-- The characters that are part of a token are those that tokens are written with. -/
theorem isSignificant_eq (c : Char) : isSignificant c = decide (c ∈ tokenChars) := by
  by_cases member : c ∈ tokenChars
  · rw [isSignificant_of_mem member, decide_eq_true member]
  · rw [decide_eq_false member]
    have notDigit : c.isDigit = false :=
      Bool.eq_false_iff.mpr fun digit => member (mem_of_isDigit digit)
    have notPoint : c ≠ '.' := by
      rintro rfl
      exact member (by decide)
    have noToken : Token.ofChar? c = none :=
      Option.eq_none_iff_forall_ne_some.mpr fun _ written => member (mem_of_ofChar? written)
    simp [isSignificant, isNumeralChar, notDigit, notPoint, noToken]

theorem visible_cons (c : Char) (rest : List Char) :
    visible (c :: rest) = if isSignificant c then c :: visible rest else visible rest := by
  rw [isSignificant_eq]
  exact List.filter_cons

theorem visible_append (first second : List Char) :
    visible (first ++ second) = visible first ++ visible second :=
  List.filter_append first second

/-- Nothing is visible of noise. -/
theorem visible_eq_nil {noise : List Char} (foreign : ∀ c ∈ noise, c ∉ tokenChars) :
    visible noise = [] :=
  List.filter_eq_nil_iff.mpr fun c member => by simpa using foreign c member

/-- Whatever numeral is in progress, the tokens behind it are those of what is visible. -/
theorem tokensAfter_visible (text : List Char) :
    ∀ digits, tokensAfter digits (visible text) = tokensAfter digits text := by
  induction text with
  | nil => exact fun _ => rfl
  | cons c rest ih =>
      intro digits
      rw [visible_cons]
      cases significant : isSignificant c with
      | false =>
          rw [tokensAfter_of_skipped significant, ← ih]
          rfl
      | true => simp only [↓reduceIte, tokensAfter, ih]

/-- The tokens of a text are those of what is visible of it. -/
theorem tokens_visible (text : List Char) : tokens (visible text) = tokens text :=
  tokensAfter_visible text []

/-- A numeral in progress is written with its own characters. -/
theorem flatMap_chars_pendingNumeral (digits : List Char) :
    (pendingNumeral digits).flatMap Token.chars = digits.reverse := by
  cases digits with
  | nil => rfl
  | cons c digits => exact List.append_nil _

/-- Tokens write the numeral in progress and what is visible behind it. -/
theorem flatMap_chars_tokensAfter (text : List Char) :
    ∀ digits, (tokensAfter digits text).flatMap Token.chars = digits.reverse ++ visible text := by
  induction text with
  | nil => exact fun digits => (flatMap_chars_pendingNumeral digits).trans (List.append_nil _).symm
  | cons c rest ih =>
      intro digits
      rw [visible_cons]
      cases significant : isSignificant c with
      | false =>
          rw [tokensAfter_of_skipped significant, ih]
          rfl
      | true =>
          cases numeral : isNumeralChar c with
          | true =>
              rw [tokensAfter, if_pos numeral, ih, List.reverse_cons, List.append_assoc]
              rfl
          | false =>
              have token : (Token.ofChar? c).isSome = true := by
                rwa [isSignificant, numeral, Bool.false_or] at significant
              obtain ⟨token, written⟩ := Option.isSome_iff_exists.mp token
              rw [tokensAfter_cons_of_token numeral written, List.flatMap_append,
                List.flatMap_cons, flatMap_chars_pendingNumeral, chars_of_ofChar? written, ih]
              rfl

/-- The tokens of a text write what is visible of it. -/
theorem flatMap_chars_tokens (text : List Char) :
    (tokens text).flatMap Token.chars = visible text :=
  flatMap_chars_tokensAfter text []

/-- Texts have the same tokens exactly when the same is visible of them. -/
theorem tokens_eq_tokens_iff {first second : List Char} :
    tokens first = tokens second ↔ visible first = visible second := by
  constructor
  · intro same
    rw [← flatMap_chars_tokens, same, flatMap_chars_tokens]
  · intro same
    rw [← tokens_visible, same, tokens_visible]

/-- No source of dice tells two texts apart: it gives them the same value, if there is one, is
left in the same state, and is asked for the same draws. -/
def EvaluatesAlike (first second : String) : Prop :=
  ∀ {σ : Type} (source : Source σ) (state : σ),
    evaluate source first state = evaluate source second state ∧
      ∀ draws, evaluate source.recorded first ⟨state, draws⟩ =
        evaluate source.recorded second ⟨state, draws⟩

/-- Texts of the same tokens evaluate alike. -/
theorem evaluatesAlike_of_tokens_eq {first second : String}
    (same : tokens first.toList = tokens second.toList) : EvaluatesAlike first second := by
  intro σ source state
  have read : read first.toList = read second.toList := congrArg (readExpression maxDepth 1) same
  simp only [evaluate, read, implies_true, and_self]

/-- **Characters that no token is written with make no difference** to what an expression
evaluates to and which dice it draws: texts of which the same is visible evaluate alike, and so
does a text with any such characters put in anywhere. -/
theorem evaluatesAlike_of_visible_eq :
    (∀ first second : String, visible first.toList = visible second.toList →
        EvaluatesAlike first second) ∧
      ∀ before noise after : String, (∀ c ∈ noise.toList, c ∉ tokenChars) →
        EvaluatesAlike (before ++ noise ++ after) (before ++ after) := by
  have alike (first second : String) (same : visible first.toList = visible second.toList) :
      EvaluatesAlike first second :=
    evaluatesAlike_of_tokens_eq (tokens_eq_tokens_iff.mpr same)
  refine ⟨alike, fun before noise after foreign => alike _ _ ?_⟩
  simp only [String.toList_append, visible_append, visible_eq_nil foreign, List.append_nil]

/-- Words around a roll, and a blank inside its numeral. -/
theorem evaluatesAlike_of_visible_eq_request :
    visible "please roll 2d2 0 now".toList = visible "2d20".toList ∧
      EvaluatesAlike "please roll 2d2 0 now" "2d20" ∧
      (∀ c ∈ " sixes, ".toList, c ∉ tokenChars) ∧
      EvaluatesAlike ("1" ++ " sixes, " ++ "d6") ("1" ++ "d6") := by
  have shown : visible "please roll 2d2 0 now".toList = visible "2d20".toList := by decide
  have foreign : ∀ c ∈ " sixes, ".toList, c ∉ tokenChars := by
    have none : " sixes, ".toList.all (fun c => decide (c ∉ tokenChars)) = true := by decide
    exact fun c member => of_decide_eq_true (List.all_eq_true.mp none c member)
  exact ⟨shown, evaluatesAlike_of_visible_eq.1 _ _ shown, foreign,
    evaluatesAlike_of_visible_eq.2 _ _ _ foreign⟩

end Dice

end DiceLedger
