import DiceLedger.Text.Numeral

/-! # Tokens of a dice expression

An expression stands inside free text: every character that is not a digit, a point,
an operator or a parenthesis is passed over, and does not even end a numeral
(`1 2` reads as `12`). So two numerals never stand side by side.
-/

namespace DiceLedger

namespace Dice

/-- The binary operators. -/
inductive Operator where
  | add
  | subtract
  | multiply
  | divide
  | power
  | roll
  deriving DecidableEq, Repr

namespace Operator

/-- How tightly an operator binds; a greater number binds tighter. -/
def precedence : Operator → Nat
  | add => 1
  | subtract => 1
  | multiply => 2
  | divide => 2
  | power => 3
  | roll => 4

/-- The character that writes an operator. -/
def symbol : Operator → Char
  | add => '+'
  | subtract => '-'
  | multiply => '*'
  | divide => '/'
  | power => '^'
  | roll => 'd'

def ofSymbol? : Char → Option Operator
  | '+' => some add
  | '-' => some subtract
  | '*' => some multiply
  | '/' => some divide
  | '^' => some power
  | 'd' => some roll
  | _ => none

end Operator

/-- A token; a numeral keeps its digits and points as they were written. -/
inductive Token where
  | numeral (text : List Char)
  | operator (operator : Operator)
  | opening
  | closing
  deriving DecidableEq, Repr

/-- Whether a character belongs to numerals. -/
def isNumeralChar (c : Char) : Bool := c.isDigit || c = '.'

/-- The token that a single character writes, numerals apart. -/
def Token.ofChar? : Char → Option Token
  | '(' => some .opening
  | ')' => some .closing
  | c => (Operator.ofSymbol? c).map .operator

/-- Whether a character is part of any token. -/
def isSignificant (c : Char) : Bool := isNumeralChar c || (Token.ofChar? c).isSome

/-- The numeral read so far, unless it is empty. -/
def pendingNumeral (digits : List Char) : List Token :=
  if digits.isEmpty then [] else [.numeral digits.reverse]

/-- Tokens of a text, after the reversed `digits` of a numeral in progress. -/
def tokensAfter : List Char → List Char → List Token
  | digits, [] => pendingNumeral digits
  | digits, c :: rest =>
    if isNumeralChar c then tokensAfter (c :: digits) rest
    else match Token.ofChar? c with
      | some token => pendingNumeral digits ++ token :: tokensAfter [] rest
      | none => tokensAfter digits rest

def tokens (text : List Char) : List Token := tokensAfter [] text

/-- The value of a numeral: it needs a digit and may have one point. -/
def numeralValue? (text : List Char) : Option Binary64 := Text.readDecimal? false text

end Dice

end DiceLedger
