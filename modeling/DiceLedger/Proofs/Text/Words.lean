import DiceLedger.Text.Blank

/-! # The words of a text

Blanks in front of a text, behind it and between its words make no difference to its words, as
long as there are some between two words (`DiceLedger.Text.words_append_gap`).
-/

namespace DiceLedger

namespace Text

/-- What no blank has, a character without it is no blank. -/
theorem isBlank_eq_false (has : Char → Bool)
    (none : ∀ code ∈ blankCodes, has (Char.ofNat code) = false) {c : Char} (held : has c = true) :
    isBlank c = false := by
  rw [isBlank, ← Bool.not_eq_true, List.contains_iff_mem]
  intro blank
  have other := none c.toNat blank
  rw [Char.ofNat_toNat, held] at other
  cases other

theorem runs_append_separator {separator : Char → Bool} {c : Char} (apart : separator c = true)
    (first second : List Char) :
    ∀ run, runs separator run (first ++ c :: second) =
      runs separator run first ++ runs separator [] second := by
  induction first with
  | nil =>
      intro run
      cases run <;> simp [runs, apart]
  | cons d first ih =>
      intro run
      rw [List.cons_append, runs, runs, ih, ih]
      split
      · split <;> rfl
      · rfl

theorem words_append_blank {c : Char} (blank : isBlank c = true) (first second : List Char) :
    words (first ++ c :: second) = words first ++ words second :=
  runs_append_separator blank first second []

/-- Blanks in front of a text belong to no word. -/
theorem words_gap_append {gap : List Char} (blank : ∀ c ∈ gap, isBlank c = true)
    (text : List Char) : words (gap ++ text) = words text := by
  induction gap with
  | nil => rfl
  | cons c gap ih =>
      rw [List.cons_append, ← List.nil_append (c :: _),
        words_append_blank (blank c List.mem_cons_self), ih fun d member =>
          blank d (List.mem_cons_of_mem _ member)]
      rfl

/-- Blanks end a word. -/
theorem words_append_gap {gap : List Char} (some : gap ≠ [])
    (blank : ∀ c ∈ gap, isBlank c = true) (first second : List Char) :
    words (first ++ (gap ++ second)) = words first ++ words second := by
  obtain ⟨c, gap, rfl⟩ := List.exists_cons_of_ne_nil some
  rw [List.cons_append, words_append_blank (blank c List.mem_cons_self),
    words_gap_append fun d member => blank d (List.mem_cons_of_mem _ member)]

/-- Blanks behind a text belong to no word. -/
theorem words_append_of_blank {gap : List Char} (blank : ∀ c ∈ gap, isBlank c = true)
    (text : List Char) : words (text ++ gap) = words text := by
  cases gap with
  | nil => rw [List.append_nil]
  | cons c gap =>
      have behind := words_append_gap (List.cons_ne_nil c gap) blank text []
      rwa [List.append_nil, show words [] = [] from rfl, List.append_nil] at behind

theorem runs_append_plain {separator : Char → Bool} {word : List Char}
    (plain : ∀ c ∈ word, separator c = false) :
    ∀ run rest, runs separator run (word ++ rest) = runs separator (word.reverse ++ run) rest := by
  induction word with
  | nil => exact fun _ _ => rfl
  | cons c word ih =>
      intro run rest
      rw [List.cons_append, runs, if_neg (by rw [plain c List.mem_cons_self]; decide),
        ih fun d member => plain d (List.mem_cons_of_mem _ member), List.reverse_cons,
        List.append_assoc, List.singleton_append]

/-- A text without blanks is a word. -/
theorem words_eq_singleton {word : List Char} (nonempty : word ≠ [])
    (plain : ∀ c ∈ word, isBlank c = false) : words word = [word] := by
  have read := runs_append_plain plain [] []
  rw [List.append_nil, List.append_nil] at read
  have written : word.reverse.isEmpty = false := by simpa using nonempty
  rw [words, read, runs, written, List.reverse_reverse]
  rfl

/-- A text without blanks is trimmed to itself. -/
theorem trim_of_plain {text : List Char} (plain : ∀ c ∈ text, isBlank c = false) :
    trim text = text := by
  have kept {line : List Char} (visible : ∀ c ∈ line, isBlank c = false) :
      line.dropWhile isBlank = line := by
    cases line with
    | nil => rfl
    | cons c rest => rw [List.dropWhile_cons, visible c List.mem_cons_self, if_neg (by decide)]
  rw [trim, trimStart, trimEnd, dropEndWhile, kept plain,
    kept fun c member => plain c (List.mem_reverse.mp member), List.reverse_reverse]

end Text

end DiceLedger
