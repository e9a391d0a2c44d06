import DiceLedger.Text.Numeral
import Mathlib.Data.List.TakeWhile

/-! # The characters of numbers

A text that writes a number is made of digits, signs, points, underscores, blanks and the letters
of an exponent and of the words for infinity and not-a-number
(`DiceLedger.Text.spells_of_readDouble?`), in the plain form of its characters.
-/

namespace DiceLedger

namespace Text

/-- The letters of an exponent and of the words that are numbers. -/
def numberLetters : List Char := ['a', 'e', 'f', 'i', 'n', 't', 'y']

/-- Whether a character in its plain form may stand in a number, blanks around it apart. -/
def spells (c : Char) : Bool :=
  c.isDigit || ['+', '-', '.', '_'].contains c || numberLetters.contains c.toLower

/-- Digits may stand in a number. -/
theorem spells_of_isDigit {c : Char} (digit : c.isDigit = true) : spells c = true := by
  rw [spells, digit, Bool.true_or, Bool.true_or]

/-- The letters of numbers may stand in one, in capital or small letters. -/
theorem spells_of_letter {c : Char} (letter : c.toLower ∈ numberLetters) : spells c = true := by
  rw [spells, List.contains_iff_mem.mpr letter, Bool.or_true]

/-- What is cut off around a number is blank. -/
theorem blank_or_mem_plainNumeral {text : List Char} {c : Char} (member : c ∈ text) :
    isPlainBlank (plainForm c) = true ∨ plainForm c ∈ plainNumeral text := by
  have inside : plainForm c ∈ text.map plainForm := List.mem_map_of_mem member
  rw [← List.takeWhile_append_dropWhile (p := isPlainBlank) (l := text.map plainForm)] at inside
  rcases List.mem_append.mp inside with front | later
  · exact .inl (List.mem_takeWhile_imp front)
  · rw [← List.mem_reverse, ← List.takeWhile_append_dropWhile (p := isPlainBlank)
      (l := ((text.map plainForm).dropWhile isPlainBlank).reverse)] at later
    rcases List.mem_append.mp later with back | between
    · exact .inl (List.mem_takeWhile_imp back)
    · exact .inr (List.mem_reverse.mpr between)

/-- Joining digits takes out underscores and nothing else. -/
theorem eq_or_mem_of_joinDigits? {afterDigit : Bool} {text joined : List Char}
    (joins : joinDigits? afterDigit text = some joined) {c : Char} (member : c ∈ text) :
    c = '_' ∨ c ∈ joined := by
  fun_induction joinDigits? afterDigit text generalizing joined with
  | case1 => cases member
  | case2 afterDigit next rest between ih =>
      rcases List.mem_cons.mp member with rfl | later
      · exact .inl rfl
      · exact ih joins later
  | case3 => cases joins
  | case4 => cases joins
  | case5 afterDigit d rest _ ih =>
      obtain ⟨others, joined', rfl⟩ := Option.map_eq_some_iff.mp joins
      rcases List.mem_cons.mp member with rfl | later
      · exact .inr List.mem_cons_self
      · exact (ih joined' later).imp id (List.mem_cons_of_mem d)

/-- What stands in a text is its sign, or stands behind it. -/
theorem spells_or_mem_takeSign {text : List Char} {c : Char} (member : c ∈ text) :
    spells c = true ∨ c ∈ (takeSign text).2 := by
  unfold takeSign
  split
  · exact (List.mem_cons.mp member).imp_left fun sign : c = '+' => sign ▸ by decide
  · exact (List.mem_cons.mp member).imp_left fun sign : c = '-' => sign ▸ by decide
  · exact .inr member

/-- An exponent is spelled with the characters of numbers. -/
theorem spells_of_readExponent? {text : List Char} {exponent : Int}
    (reads : readExponent? text = some exponent) : ∀ c ∈ text, spells c = true := by
  cases text with
  | nil => exact List.forall_mem_nil _
  | cons e rest =>
      rw [readExponent?] at reads
      split at reads
      next negative digits sign =>
      split at reads
      · next proper =>
        simp only [Bool.and_eq_true, Bool.or_eq_true, decide_eq_true_eq] at proper
        obtain ⟨⟨mark, -⟩, all⟩ := proper
        refine List.forall_mem_cons.mpr ⟨?_, fun c member => ?_⟩
        · rcases mark with rfl | rfl <;> decide
        · refine (spells_or_mem_takeSign member).elim id fun digit => ?_
          rw [sign] at digit
          exact spells_of_isDigit (List.all_eq_true.mp all c digit)
      · cases reads

/-- Digits may stand in front of what is spelled with the characters of numbers. -/
theorem spells_of_dropWhile {text : List Char}
    (rest : ∀ c ∈ text.dropWhile Char.isDigit, spells c = true) : ∀ c ∈ text, spells c = true := by
  intro c member
  rw [← List.takeWhile_append_dropWhile (p := Char.isDigit) (l := text)] at member
  exact (List.mem_append.mp member).elim
    (fun front => spells_of_isDigit (List.mem_takeWhile_imp front)) (rest c)

/-- A decimal is spelled with the characters of numbers. -/
theorem spells_of_readDecimal? {negative : Bool} {text : List Char} {value : Binary64}
    (reads : readDecimal? negative text = some value) : ∀ c ∈ text, spells c = true := by
  refine spells_of_dropWhile ?_
  simp only [readDecimal?] at reads
  split at reads
  · next after point =>
    split at reads
    · cases reads
    · obtain ⟨exponent, written, -⟩ := Option.bind_eq_some_iff.mp reads
      rw [point]
      exact List.forall_mem_cons.mpr
        ⟨by decide, spells_of_dropWhile (spells_of_readExponent? written)⟩
  · split at reads
    · cases reads
    · obtain ⟨exponent, written, -⟩ := Option.bind_eq_some_iff.mp reads
      exact spells_of_readExponent? written

/-- **A number is spelled with the characters of numbers.** -/
theorem spells_of_readDouble? {text : List Char} {value : Binary64}
    (reads : readDouble? text = some value) {c : Char} (member : c ∈ text) :
    isPlainBlank (plainForm c) = true ∨ spells (plainForm c) = true := by
  refine (blank_or_mem_plainNumeral member).imp id fun inside => ?_
  obtain ⟨plain, joins, rest⟩ := Option.bind_eq_some_iff.mp reads
  rcases eq_or_mem_of_joinDigits? joins inside with underscore | kept
  · rw [underscore]
    decide
  · refine (spells_or_mem_takeSign kept).elim id fun body => ?_
    have word {name : String} (same : String.ofList ((takeSign plain).2.map Char.toLower) = name)
        (letters : name.toList.all (· ∈ numberLetters) = true) : spells (plainForm c) = true := by
      refine spells_of_letter (of_decide_eq_true (List.all_eq_true.mp letters _ ?_))
      rw [← same, String.toList_ofList]
      exact List.mem_map_of_mem body
    dsimp only at rest
    split at rest
    · next infinite =>
      simp only [Bool.or_eq_true, decide_eq_true_eq] at infinite
      exact infinite.elim (fun same => word same (by decide)) fun same => word same (by decide)
    · split at rest
      · next same => exact word same (by decide)
      · exact spells_of_readDecimal? rest _ body

end Text

end DiceLedger
