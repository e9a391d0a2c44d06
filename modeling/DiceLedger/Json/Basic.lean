import DiceLedger.Binary64.Display
import DiceLedger.Text.Quoted

/-! # JSON values

Whole numbers are unbounded and kept apart from other numbers; the fields of an
object keep the order in which their names first appear, and a repeated name keeps
the last value. `Json.display` is the form in which a value is shown in a line of
text.
-/

namespace DiceLedger

inductive Json where
  | null
  | bool (value : Bool)
  | integer (value : Int)
  | number (value : Binary64)
  | string (value : LooseText)
  | array (items : List Json)
  | object (fields : List (LooseText × Json))

namespace Json

instance : Inhabited Json := ⟨.null⟩

/-- A text stands for the value it is. -/
instance : Coe String Json := ⟨fun value => .string value⟩

/-- Sets a field: the place of an old one is kept, a new one goes to the end. -/
def setField (name : LooseText) (value : Json) : List (LooseText × Json) → List (LooseText × Json)
  | [] => [(name, value)]
  | (other, old) :: rest =>
    if other = name then (name, value) :: rest else (other, old) :: setField name value rest

/-- The field of that name in a list of fields. -/
def lookup? (name : LooseText) (fields : List (LooseText × Json)) : Option Json :=
  (fields.find? fun field => field.1 = name).map (·.2)

/-- Whether a value counts as present: everything but null, false, zero and what is
empty. -/
def isTruthy : Json → Bool
  | null => false
  | bool value => value
  | integer value => value ≠ 0
  | number value => !value.eqv 0
  | string value => value ≠ ""
  | array items => !items.isEmpty
  | object fields => !fields.isEmpty

mutual

/-- A value inside another: strings are quoted. -/
def displayChars : Json → List Char
  | null => "None".toList
  | bool true => "True".toList
  | bool false => "False".toList
  | integer value => (toString value).toList
  | number value => value.displayChars
  | string value => Text.quotedChars value
  | array items => '[' :: displayItems items ++ [']']
  | object fields => '\x7b' :: displayFields fields ++ ['\x7d']

def displayItems : List Json → List Char
  | [] => []
  | [item] => displayChars item
  | item :: rest => displayChars item ++ ',' :: ' ' :: displayItems rest

def displayFields : List (LooseText × Json) → List Char
  | [] => []
  | [(name, value)] => Text.quotedChars name ++ ':' :: ' ' :: displayChars value
  | (name, value) :: rest =>
    Text.quotedChars name ++ ':' :: ' ' :: displayChars value ++ ',' :: ' ' ::
      displayFields rest

end

/-- A value shown on its own: a string as it is. -/
def display : Json → LooseText
  | string value => value
  | other => String.ofList other.displayChars

end Json

end DiceLedger
