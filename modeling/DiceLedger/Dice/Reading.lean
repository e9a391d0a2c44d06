import DiceLedger.Dice.Token

/-! # Reading an expression into steps

An expression is read into the steps of a stack computation: push a number, apply an
operator to the top two. Operators of one precedence group to the left, tighter ones
first; a group that directly follows a numeral or another group is multiplied before
any operator. Reading stops at the end, at a closing parenthesis that nothing opened,
or at a fault; the steps read before a fault are kept, because their dice are rolled.

Groups still open at the end are closed there. The depth of reading is bounded by
`maxDepth`.
-/

namespace DiceLedger

namespace Dice

/-- One step of a stack computation. -/
inductive Step where
  | push (value : Binary64)
  | apply (operator : Operator)
  deriving DecidableEq

/-- What was read: the steps, whether a whole expression was read or a fault met, and
the tokens not read. -/
structure Reading where
  steps : List Step
  complete : Bool
  rest : List Token

/-- Reading is nested at most this deep: every open parenthesis counts twice and every
operator waiting for its right operand once. -/
def maxDepth : Nat := 982

/-- Reads the groups that stand one after another. `steps` computes the operand so
far, which exists when `some` operand was read; `bound` is at least the number of
tokens. -/
def readGroups (group : List Token → Reading) :
    (bound : Nat) → (operandRead : Bool) → List Step → List Token → Reading
  | bound + 1, operandRead, steps, .opening :: rest =>
    let inner := group rest
    if inner.complete then
      let after := match inner.rest with
        | .closing :: after => after
        | after => after
      let steps := steps ++ inner.steps ++ (if operandRead then [.apply .multiply] else [])
      match after with
      | .numeral _ :: _ => ⟨steps, false, after⟩
      | _ => readGroups group bound true steps after
    else ⟨steps ++ inner.steps, false, inner.rest⟩
  | _, operandRead, steps, tokens => ⟨steps, operandRead, tokens⟩

/-- Reads operators that bind at least as tightly as `least`, each with its right
operand; `steps` computes the left operand, `bound` is at least the number of
tokens. -/
def readOperators (right : Nat → List Token → Reading) (least : Nat) :
    (bound : Nat) → List Step → List Token → Reading
  | bound + 1, steps, .operator operator :: rest =>
    if least ≤ operator.precedence then
      let operand := right (operator.precedence + 1) rest
      if operand.complete then
        readOperators right least bound (steps ++ operand.steps ++ [.apply operator])
          operand.rest
      else ⟨steps ++ operand.steps, false, operand.rest⟩
    else ⟨steps, true, .operator operator :: rest⟩
  | _, steps, tokens => ⟨steps, true, tokens⟩

mutual

/-- Reads operands joined by operators that bind at least as tightly as `least`. -/
def readExpression : (depth : Nat) → (least : Nat) → List Token → Reading
  | 0, _, tokens => ⟨[], false, tokens⟩
  | depth + 1, least, tokens =>
    let operand := readOperand depth tokens
    if operand.complete then
      readOperators (readExpression depth) least operand.rest.length operand.steps operand.rest
    else operand

/-- Reads a numeral or a group, and the groups that follow it. -/
def readOperand : (depth : Nat) → List Token → Reading
  | 0, tokens => ⟨[], false, tokens⟩
  | depth + 1, tokens =>
    match tokens with
    | .numeral text :: rest =>
      match numeralValue? text with
      | some value => readGroups (readExpression depth 1) rest.length true [.push value] rest
      | none => ⟨[], false, rest⟩
    | _ => readGroups (readExpression depth 1) tokens.length false [] tokens

end

/-- Reads a whole text. -/
def read (text : List Char) : Reading := readExpression maxDepth 1 (tokens text)

end Dice

end DiceLedger
