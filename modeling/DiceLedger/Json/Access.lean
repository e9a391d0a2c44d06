import DiceLedger.Json.Basic
import DiceLedger.Text.Numeral

/-! # Taking JSON values apart

Looking up fields, going through items and reading numbers, each with the fault that
ends it. Values of another kind than expected are not always faults: a number may be
written as text, and the items of a text are its letters.
-/

namespace DiceLedger

namespace Json

/-- Why a value does not have the expected shape. -/
inductive Mismatch where
  /-- Fields were looked for in a value that is no object. -/
  | noFields
  | missingField
  /-- The value is of a kind that cannot be used in its place. -/
  | wrongKind
  /-- A text that should write a number does not, or the value is not a number. -/
  | unreadable
  | tooLarge
  /-- A text with a half of a character where only characters will do. -/
  | unencodable
  deriving DecidableEq, Repr

/-- A field of an object, if it is there. -/
def field? (name : LooseText) : Json → Except Mismatch (Option Json)
  | object fields => .ok (lookup? name fields)
  | _ => .error .noFields

/-- A field of an object, or the given value. -/
def fieldOr (json : Json) (name : LooseText) (value : Json) : Except Mismatch Json :=
  (json.field? name).map (·.getD value)

def require (name : LooseText) : Json → Except Mismatch Json
  | object fields =>
    match lookup? name fields with
    | some value => .ok value
    | none => .error .missingField
  | _ => .error .wrongKind

/-- The items of a value: those of an array, the names of an object, the letters of a
text. -/
def items : Json → Except Mismatch (List Json)
  | array items => .ok items
  | object fields => .ok (fields.map fun field => .string field.1)
  | string value => .ok (value.letters.map fun letter => .string (.ofLetters [letter]))
  | _ => .error .wrongKind

/-- The value as a whole number; what follows the point is cut off. -/
def toWhole : Json → Except Mismatch Int
  | integer value => .ok value
  | bool value => .ok (if value then 1 else 0)
  | number value =>
    match value with
    | .nan => .error .unreadable
    | .infinity _ => .error .tooLarge
    | .finite .. => .ok (value.truncate?.getD 0)
  | string (.text value) =>
    match Text.readInt? value.toList with
    | some whole => .ok whole
    | none => .error .unreadable
  | string (.broken ..) => .error .unreadable
  | _ => .error .wrongKind

/-- A whole number as a double; one that would become infinite is too large. -/
def wholeToDouble (value : Int) : Except Mismatch Binary64 :=
  let nearest := Binary64.ofInt value
  if nearest.isFinite then .ok nearest else .error .tooLarge

def toDouble : Json → Except Mismatch Binary64
  | integer value => wholeToDouble value
  | bool value => .ok (if value then 1 else 0)
  | number value => .ok value
  | string (.text value) =>
    match Text.readDouble? value.toList with
    | some double => .ok double
    | none => .error .unreadable
  | string (.broken ..) => .error .unreadable
  | _ => .error .wrongKind

/-- Whether a value may name something: arrays and objects may not. -/
def isName : Json → Bool
  | array _ => false
  | object _ => false
  | _ => true

/-- The number that a value counts as. -/
def asNumber? : Json → Option (Int ⊕ Binary64)
  | bool value => some (.inl (if value then 1 else 0))
  | integer value => some (.inl value)
  | number value => some (.inr value)
  | _ => none

/-- Equality of numbers of both kinds: their values are equal, or neither has one. -/
def sameNumber : Int ⊕ Binary64 → Int ⊕ Binary64 → Bool
  | .inl m, .inl n => m = n
  | .inl m, .inr y => y.compareInt? m = some .eq
  | .inr x, .inl n => x.compareInt? n = some .eq
  | .inr x, .inr y => x.eqv y || (x.isNaN && y.isNaN)

/-- Equality of names: numbers of all kinds, truth values among them, are equal when
their values are; not-a-number is one name. -/
def sameName : Json → Json → Bool
  | null, null => true
  | string a, string b => a = b
  | a, b =>
    match a.asNumber?, b.asNumber? with
    | some m, some n => sameNumber m n
    | _, _ => false

mutual

/-- Equality of values: arrays are equal item by item, and objects field by field, in whatever
order the fields stand. -/
def same : Json → Json → Bool
  | array first, array second => sameItems first second
  | object first, object second => first.length = second.length && sameFields first second
  | a, b => a.sameName b

def sameItems : List Json → List Json → Bool
  | [], [] => true
  | a :: first, b :: second => same a b && sameItems first second
  | _, _ => false

/-- Whether the fields are among others, with equal values. -/
def sameFields : List (LooseText × Json) → List (LooseText × Json) → Bool
  | [], _ => true
  | (name, value) :: rest, fields =>
    (match lookup? name fields with
      | some other => same value other
      | none => false) && sameFields rest fields

end

end Json

end DiceLedger
