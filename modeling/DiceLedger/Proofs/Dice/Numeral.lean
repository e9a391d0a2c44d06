import DiceLedger.Dice.Token
import Mathlib.Data.List.TakeWhile

/-! # Which numerals have a value

Of the texts made of digits and points, exactly those with a digit and at most one point
are numerals (`DiceLedger.Dice.numeralValue?_isSome_iff`).
-/

namespace DiceLedger

namespace Dice

/-- A non-negative decimal numeral: at least one digit, and at most one point. -/
structure IsNumeral (text : List Char) : Prop where
  chars : ∀ c ∈ text, isNumeralChar c = true
  digit : ∃ c ∈ text, c.isDigit = true
  points : text.count '.' ≤ 1

/-- A numeral is made of digits, at least one, with a point at most. -/
theorem isNumeral_iff (text : List Char) : IsNumeral text ↔
    text.all isNumeralChar = true ∧ text.any Char.isDigit = true ∧ text.count '.' ≤ 1 := by
  rw [List.all_eq_true, List.any_eq_true]
  exact ⟨fun numeral => ⟨numeral.chars, numeral.digit, numeral.points⟩,
    fun ⟨chars, digit, points⟩ => ⟨chars, digit, points⟩⟩

instance (text : List Char) : Decidable (IsNumeral text) :=
  decidable_of_iff _ (isNumeral_iff text).symm

theorem isNumeralChar_of_isDigit {c : Char} (digit : c.isDigit = true) :
    isNumeralChar c = true := by
  rw [isNumeralChar, digit, Bool.true_or]

/-- The only other character of numerals is the point. -/
theorem eq_point_of_not_digit {c : Char} (numeral : isNumeralChar c = true)
    (other : c.isDigit = false) : c = '.' := by
  simpa only [isNumeralChar, other, Bool.false_or, decide_eq_true_eq] using numeral

/-- What follows the first digits of a text of digits and points begins with a point. -/
theorem head_dropWhile_isDigit {text rest : List Char} {c : Char}
    (chars : ∀ c ∈ text, isNumeralChar c = true)
    (split : text.dropWhile Char.isDigit = c :: rest) : c = '.' := by
  have member : c ∈ text :=
    (List.dropWhile_suffix Char.isDigit).subset (split ▸ List.mem_cons_self)
  have other := List.head?_dropWhile_not Char.isDigit text
  rw [split] at other
  exact eq_point_of_not_digit (chars c member) (by simpa using other)

/-- There is no point among digits. -/
theorem count_point_of_digits {text : List Char} (digits : ∀ c ∈ text, c.isDigit = true) :
    text.count '.' = 0 := by
  rw [List.count_eq_zero]
  exact fun member => absurd (digits '.' member) (by decide)

/-- A point begins no exponent. -/
theorem readExponent?_point (text : List Char) : Text.readExponent? ('.' :: text) = none := by
  simp only [Text.readExponent?, Char.reduceEq, decide_false, Bool.or_self, Bool.false_and,
    Bool.false_eq_true, ↓reduceIte]

/-- A text of digits has a value unless it is empty. -/
theorem numeralValue?_digits {whole : List Char} (digits : ∀ c ∈ whole, c.isDigit = true) :
    (numeralValue? whole).isSome ↔ whole ≠ [] := by
  have taken : whole.takeWhile Char.isDigit = whole := List.takeWhile_eq_self_iff.mpr digits
  have dropped : whole.dropWhile Char.isDigit = [] := List.dropWhile_eq_nil_iff.mpr digits
  cases whole with
  | nil => simp [numeralValue?, Text.readDecimal?]
  | cons c rest => simp [numeralValue?, Text.readDecimal?, taken, dropped, Text.readExponent?]

/-- Behind digits and a point only digits may follow, and one digit has to be there. -/
theorem numeralValue?_point {whole after : List Char}
    (digits : ∀ c ∈ whole, c.isDigit = true) (chars : ∀ c ∈ after, isNumeralChar c = true) :
    (numeralValue? (whole ++ '.' :: after)).isSome ↔
      (∀ c ∈ after, c.isDigit = true) ∧ whole ++ after ≠ [] := by
  have point : Char.isDigit '.' = false := by decide
  have taken : (whole ++ '.' :: after).takeWhile Char.isDigit = whole := by
    rw [List.takeWhile_append_of_pos digits, List.takeWhile_cons_of_neg (by rw [point]; decide),
      List.append_nil]
  have dropped : (whole ++ '.' :: after).dropWhile Char.isDigit = '.' :: after := by
    rw [List.dropWhile_append_of_pos digits, List.dropWhile_cons_of_neg (by rw [point]; decide)]
  cases split : after.dropWhile Char.isDigit with
  | nil =>
      have all := List.dropWhile_eq_nil_iff.mp split
      have fraction : after.takeWhile Char.isDigit = after := List.takeWhile_eq_self_iff.mpr all
      simp only [numeralValue?, Text.readDecimal?, taken, dropped, split, fraction,
        Text.readExponent?]
      by_cases empty : whole.isEmpty && after.isEmpty
      · have both : whole ++ after = [] := by simpa using empty
        simp [empty, both]
      · have some : whole ++ after ≠ [] := by simpa using empty
        simp only [empty, Bool.false_eq_true, ↓reduceIte, ne_eq, some, not_false_eq_true,
          and_true]
        simpa using all
  | cons c rest =>
      obtain rfl := head_dropWhile_isDigit chars split
      have second : '.' ∈ after :=
        (List.dropWhile_suffix Char.isDigit).subset (split ▸ List.mem_cons_self)
      have mixed : ¬ ∀ c ∈ after, c.isDigit = true := fun all => absurd (all '.' second) (by decide)
      simp only [numeralValue?, Text.readDecimal?, taken, dropped, split, readExponent?_point,
        mixed, false_and, iff_false]
      split <;> simp

/-- Digits are a numeral unless there are none. -/
theorem isNumeral_digits {whole : List Char} (digits : ∀ c ∈ whole, c.isDigit = true) :
    IsNumeral whole ↔ whole ≠ [] := by
  constructor
  · rintro ⟨_, ⟨c, member, _⟩, _⟩
    exact List.ne_nil_of_mem member
  · intro nonempty
    obtain ⟨c, member⟩ := List.exists_mem_of_ne_nil whole nonempty
    refine ⟨fun c member => ?_, ⟨c, member, digits c member⟩, ?_⟩
    · exact isNumeralChar_of_isDigit (digits c member)
    · rw [count_point_of_digits digits]
      exact Nat.zero_le 1

/-- With a point between them, digits are a numeral unless there are none. -/
theorem isNumeral_point {whole after : List Char} (digits : ∀ c ∈ whole, c.isDigit = true)
    (chars : ∀ c ∈ after, isNumeralChar c = true) :
    IsNumeral (whole ++ '.' :: after) ↔ (∀ c ∈ after, c.isDigit = true) ∧ whole ++ after ≠ [] := by
  have counted : (whole ++ '.' :: after).count '.' = after.count '.' + 1 := by
    rw [List.count_append, count_point_of_digits digits, List.count_cons_self, Nat.zero_add]
  constructor
  · intro numeral
    have single : after.count '.' = 0 := by
      have bound := numeral.points
      omega
    refine ⟨fun c member => ?_, ?_⟩
    · by_contra other
      obtain rfl := eq_point_of_not_digit (chars c member) (by simpa using other)
      exact List.count_eq_zero.mp single member
    · obtain ⟨c, member, digit⟩ := numeral.digit
      rcases List.mem_append.mp member with front | back
      · exact List.ne_nil_of_mem (List.mem_append_left _ front)
      · rcases List.mem_cons.mp back with rfl | later
        · exact absurd digit (by decide)
        · exact List.ne_nil_of_mem (List.mem_append_right _ later)
  · rintro ⟨all, nonempty⟩
    have digit : ∀ c ∈ whole ++ after, c.isDigit = true := fun c member =>
      (List.mem_append.mp member).elim (digits c) (all c)
    obtain ⟨c, member⟩ := List.exists_mem_of_ne_nil _ nonempty
    refine ⟨fun c member => ?_, ⟨c, ?_, digit c member⟩, ?_⟩
    · rcases List.mem_append.mp member with front | back
      · exact isNumeralChar_of_isDigit (digits c front)
      · rcases List.mem_cons.mp back with rfl | later
        · rfl
        · exact chars c later
    · rcases List.mem_append.mp member with front | back
      · exact List.mem_append_left _ front
      · exact List.mem_append_right _ (List.mem_cons_of_mem _ back)
    · rw [counted, count_point_of_digits all]

/-- Of the texts of digits and points, the numerals are those that have a value. -/
theorem numeralValue?_isSome_iff {text : List Char}
    (chars : ∀ c ∈ text, isNumeralChar c = true) :
    (numeralValue? text).isSome ↔ IsNumeral text := by
  have joined := List.takeWhile_append_dropWhile (p := Char.isDigit) (l := text)
  have digits : ∀ c ∈ text.takeWhile Char.isDigit, c.isDigit = true :=
    fun c member => List.mem_takeWhile_imp member
  cases split : text.dropWhile Char.isDigit with
  | nil =>
      have all := List.dropWhile_eq_nil_iff.mp split
      rw [numeralValue?_digits all, isNumeral_digits all]
  | cons c after =>
      obtain rfl := head_dropWhile_isDigit chars split
      rw [split] at joined
      have afterChars : ∀ c ∈ after, isNumeralChar c = true := fun c member =>
        chars c (joined ▸ List.mem_append_right _ (List.mem_cons_of_mem _ member))
      rw [← joined, numeralValue?_point digits afterChars, isNumeral_point digits afterChars]

/-- A decimal numeral. -/
structure Numeral where
  text : List Char
  proper : IsNumeral text

/-- The number that a numeral writes. -/
def Numeral.value (numeral : Numeral) : Binary64 :=
  (numeralValue? numeral.text).get ((numeralValue?_isSome_iff numeral.proper.chars).mpr
    numeral.proper)

@[simp] theorem numeralValue?_numeral (numeral : Numeral) :
    numeralValue? numeral.text = some numeral.value :=
  (Option.some_get _).symm

/-- A text of digits and points that has a value is a numeral of that value. -/
theorem exists_numeral_of_value {text : List Char} {value : Binary64}
    (chars : ∀ c ∈ text, isNumeralChar c = true) (valued : numeralValue? text = some value) :
    ∃ numeral : Numeral, numeral.text = text ∧ numeral.value = value := by
  have proper := (numeralValue?_isSome_iff chars).mp (by rw [valued]; rfl)
  have value := numeralValue?_numeral ⟨text, proper⟩
  rw [valued] at value
  exact ⟨⟨text, proper⟩, rfl, (Option.some.inj value).symm⟩

end Dice

end DiceLedger
