import DiceLedger.Text.Digit

/-! # Texts with halves of characters

Sixteen-bit units write the characters beyond their range as two halves, and an escape can write
one half without the other. A loose text may hold such halves. It is a value like any other: it
is compared, looked up and shown, and texts with different halves are different texts. But no
encoding has a form for a half, so a text that holds one is neither kept nor printed.
-/

namespace DiceLedger

/-- A half of a character without the other one, by its place among all halves. -/
structure Half where
  place : Fin 0x800
  deriving DecidableEq, Repr

namespace Half

/-- The half that a sixteen-bit unit stands for; most units stand for characters. -/
def ofUnit? (unit : Nat) : Option Half :=
  if inside : 0xD800 ≤ unit ∧ unit < 0xE000 then some ⟨unit - 0xD800, by omega⟩ else none

def unit (half : Half) : Nat := 0xD800 + half.place

/-- The escape that writes a half. -/
def escape (half : Half) : List Char := '\\' :: 'u' :: Text.hexDigits 4 half.unit

end Half

/-- What a loose text is made of. -/
inductive Letter where
  | char (c : Char)
  | half (half : Half)
  deriving DecidableEq, Repr

namespace Letter

/-- What a sixteen-bit unit stands for on its own. -/
def ofUnit (unit : Nat) : Letter :=
  match Half.ofUnit? unit with
  | some lone => .half lone
  | none => .char (Char.ofNat unit)

/-- The number of a letter. -/
def code : Letter → Nat
  | char c => c.toNat
  | half lone => lone.unit

/-- A letter that a number of 16 bits stands for has that number. -/
theorem code_ofUnit {unit : Nat} (short : unit < 0x10000) : (ofUnit unit).code = unit := by
  by_cases inside : 0xD800 ≤ unit ∧ unit < 0xE000
  · rw [ofUnit, Half.ofUnit?, dif_pos inside]
    exact Nat.add_sub_cancel' inside.1
  · have valid : unit.isValidChar := by
      unfold Nat.isValidChar
      omega
    have written : Char.ofNat unit = Char.ofNatAux unit valid := dif_pos valid
    rw [ofUnit, Half.ofUnit?, dif_neg inside]
    dsimp only [code]
    rw [written]
    rfl

/-- Different units stand for different letters, halves among them. -/
theorem ofUnit_inj {a b : Nat} (shortA : a < 0x10000) (shortB : b < 0x10000)
    (same : ofUnit a = ofUnit b) : a = b := by
  rw [← code_ofUnit shortA, same, code_ofUnit shortB]

/-- A letter as it is shown: a half has no form but its escape. -/
def shown : Letter → List Char
  | char c => [c]
  | half lone => lone.escape

end Letter

/-- A text of characters, or one with a half: the characters before its first half, that half,
and whatever follows. -/
inductive LooseText where
  | text (value : String)
  | broken (before : String) (half : Half) (after : List Letter)
  deriving DecidableEq, Repr

namespace LooseText

instance : Coe String LooseText := ⟨.text⟩

def letters : LooseText → List Letter
  | text value => value.toList.map .char
  | broken before half after => before.toList.map .char ++ .half half :: after

/-- The empty text alone has no letters. -/
theorem letters_eq_nil {loose : LooseText} : loose.letters = [] ↔ loose = "" := by
  cases loose with
  | text value =>
      rw [letters, List.map_eq_nil_iff, String.toList_eq_nil_iff, text.injEq]
  | broken before half after =>
      simp only [letters, List.append_eq_nil_iff, reduceCtorEq, and_false]

/-- The text of some characters, given in reverse, and letters behind them. -/
def ofLettersBehind (held : List Char) : List Letter → LooseText
  | [] => text (String.ofList held.reverse)
  | .char c :: rest => ofLettersBehind (c :: held) rest
  | .half half :: rest => broken (String.ofList held.reverse) half rest

def ofLetters (letters : List Letter) : LooseText := ofLettersBehind [] letters

/-- A text that is put together of letters has these letters. -/
theorem letters_ofLettersBehind (held : List Char) (letters : List Letter) :
    (ofLettersBehind held letters).letters = held.reverse.map .char ++ letters := by
  induction letters generalizing held with
  | nil => simp only [ofLettersBehind, LooseText.letters, String.toList_ofList, List.append_nil]
  | cons letter rest ih =>
      cases letter with
      | char c =>
          rw [ofLettersBehind, ih, List.reverse_cons, List.map_append, List.append_assoc]
          rfl
      | half half => rw [ofLettersBehind, LooseText.letters, String.toList_ofList]

/-- Different letters make different texts: nothing is lost in a loose text. -/
theorem letters_ofLetters (letters : List Letter) : (ofLetters letters).letters = letters :=
  letters_ofLettersBehind [] letters

/-- The text as one of characters alone, if it is one. -/
def plain? : LooseText → Option String
  | text value => some value
  | broken .. => none

def isPlain (text : LooseText) : Bool := text.plain?.isSome

@[simp] theorem isPlain_text (value : String) : (text value).isPlain = true := rfl

@[simp] theorem isPlain_broken (before : String) (half : Half) (after : List Letter) :
    (broken before half after).isPlain = false := rfl

/-- A text that is made of characters is one of the texts proper. -/
theorem isPlain_iff {loose : LooseText} :
    loose.isPlain = true ↔ ∃ value : String, loose = value := by
  cases loose with
  | text value => exact ⟨fun _ => ⟨value, rfl⟩, fun _ => rfl⟩
  | broken before half after =>
      constructor
      · intro plain
        cases plain
      · rintro ⟨value, same⟩
        cases same

def append : LooseText → LooseText → LooseText
  | text front, text back => text (front ++ back)
  | front, back => ofLetters (front.letters ++ back.letters)

instance : Append LooseText := ⟨append⟩

/-- The text as it is shown to whoever reads along. -/
def shown : LooseText → String
  | text value => value
  | broken before half after =>
    before ++ String.ofList ((Letter.half half :: after).flatMap Letter.shown)

@[simp] theorem shown_text (value : String) : (text value).shown = value := rfl

/-- A text without halves is shown as it is. -/
theorem shown_of_isPlain {loose : LooseText} (plain : loose.isPlain = true) :
    (loose.shown : LooseText) = loose := by
  obtain ⟨value, rfl⟩ := isPlain_iff.mp plain
  rfl

end LooseText

end DiceLedger
