import DiceLedger.Proofs.Roll20.TagCutting
import Mathlib.Data.List.DropRight

/-! # What the text of a tag says

A title is declared in front of any bracket
(`DiceLedger.Transcript.startsWithTitle_append_bracket`), whatever stands behind it
(`DiceLedger.Transcript.startsWithTitle_append`). In what a scanner holds of a tag a space
changes nothing (`DiceLedger.Transcript.awaitsValue_space`,
`DiceLedger.Transcript.depthStep?_space`), unless it parts what belongs together: the bracket and
the slash of a closing tag, or the characters of a name.
-/

namespace DiceLedger

namespace Text

/-- Blanks in front of two texts are those in front of the first, and if it is blank, of the second.
-/
theorem trimStart_append (text rest : List Char) :
    trimStart (text ++ rest) = trimStart (trimStart text ++ rest) := by
  simp only [trimStart, List.dropWhile_append, List.dropWhile_idempotent]

/-- Blanks in front of a text that is not blank end within it. -/
theorem trimStart_append_of_ne_nil {text : List Char} (visible : trimStart text ≠ [])
    (rest : List Char) : trimStart (text ++ rest) = trimStart text ++ rest := by
  have some : ¬(text.dropWhile isBlank).isEmpty = true := mt List.isEmpty_iff.mp visible
  rw [trimStart, List.dropWhile_append, if_neg some]
  rfl

/-- The last visible character of a text. -/
theorem getLast?_trimEnd (text : List Char) :
    (trimEnd text).getLast? = text.reverse.find? (!isBlank ·) := by
  rw [trimEnd, dropEndWhile, List.getLast?_reverse, List.find?_not_eq_head?_dropWhile]

/-- A blank in between does not matter for what a text ends in, blanks aside. -/
theorem getLast?_trimEnd_space (front back : List Char) :
    (trimEnd (front ++ ' ' :: back)).getLast? = (trimEnd (front ++ back)).getLast? := by
  have blank : [' '].find? (!isBlank ·) = none := by decide
  simp only [getLast?_trimEnd, List.reverse_append, List.reverse_cons, List.find?_append, blank,
    Option.or_none]

end Text

namespace Transcript

/-- What begins with a word does so in front of any character that is not in it. -/
theorem isPrefixOf_append_cons {pattern : List Char} {c : Char} (absent : c ∉ pattern)
    (text rest : List Char) :
    pattern.isPrefixOf (text ++ c :: rest) = pattern.isPrefixOf text := by
  induction pattern generalizing text with
  | nil => rfl
  | cons d pattern ih =>
      rw [List.mem_cons, not_or] at absent
      cases text with
      | nil => simp [List.isPrefixOf, Ne.symm absent.1]
      | cons e text => simp only [List.cons_append, List.isPrefixOf, ih absent.2]

/-- Blanks in front of a bracket end there. -/
theorem trimStart_append_bracket (text rest : List Char) :
    Text.trimStart (text ++ '<' :: rest) = Text.trimStart text ++ '<' :: rest := by
  have visible : Text.isBlank '<' = false := by decide
  simp only [Text.trimStart, List.dropWhile_append, List.isEmpty_iff,
    List.dropWhile_cons_of_neg (ne_true_of_eq_false visible)]
  split
  · next blank => rw [blank, List.nil_append]
  · rfl

/-- Whether a text begins with an equals sign and a quote. -/
def startsWithValue : List Char → Bool
  | '=' :: value => (Text.trimStart value).head?.any Roll20.isQuote
  | _ => false

/-- A title is declared by its name, with a sign of equality and a quote behind it. -/
theorem startsWithTitle_eq (line : List Char) :
    startsWithTitle line = ("title".toList.isPrefixOf (Text.trimStart line) &&
      startsWithValue (Text.trimStart ((Text.trimStart line).drop 5))) := by
  unfold startsWithTitle
  dsimp only
  cases "title".toList.isPrefixOf (Text.trimStart line) with
  | false => rfl
  | true =>
      rw [if_pos rfl, Bool.true_and]
      split
      · next value equals =>
        rw [equals, startsWithValue]
        cases Text.trimStart value <;> rfl
      · next other => exact (startsWithValue.eq_2 _ other).symm

/-- A bracket behind a text makes no value of it. -/
theorem startsWithValue_append_bracket (text rest : List Char) :
    startsWithValue (text ++ '<' :: rest) = startsWithValue text := by
  cases text with
  | nil => rfl
  | cons sign value =>
      by_cases equals : sign = '='
      · subst equals
        rw [List.cons_append, startsWithValue, startsWithValue, trimStart_append_bracket]
        cases Text.trimStart value <;> rfl
      · rw [List.cons_append, startsWithValue.eq_2, startsWithValue.eq_2]
        · exact fun _ same => equals (List.cons.inj same).1
        · exact fun _ same => equals (List.cons.inj same).1

/-- A title stands in front of any bracket. -/
theorem startsWithTitle_append_bracket (text rest : List Char) :
    startsWithTitle (text ++ '<' :: rest) = startsWithTitle text := by
  rw [startsWithTitle_eq, startsWithTitle_eq, trimStart_append_bracket,
    isPrefixOf_append_cons (by decide)]
  cases title : "title".toList.isPrefixOf (Text.trimStart text) with
  | false => rfl
  | true =>
      have long : 5 ≤ (Text.trimStart text).length :=
        (List.isPrefixOf_iff_prefix.mp title).length_le
      rw [List.drop_append_of_le_length long, trimStart_append_bracket,
        startsWithValue_append_bracket]

/-- What begins with a value does so whatever stands behind. -/
theorem startsWithValue_append {text : List Char} (valued : startsWithValue text = true)
    (rest : List Char) : startsWithValue (text ++ rest) = true := by
  unfold startsWithValue at valued
  split at valued
  · next value =>
    have visible : Text.trimStart value ≠ [] := by
      intro none
      rw [none] at valued
      cases valued
    rw [List.cons_append, startsWithValue, Text.trimStart_append_of_ne_nil visible,
      List.head?_append_of_ne_nil _ visible]
    exact valued
  · cases valued

/-- A title is settled by what the line begins with. -/
theorem startsWithTitle_append {line : List Char} (titled : startsWithTitle line = true)
    (rest : List Char) : startsWithTitle (line ++ rest) = true := by
  rw [startsWithTitle_eq, Bool.and_eq_true_iff] at titled
  obtain ⟨word, valued⟩ := titled
  have begins : "title".toList <+: Text.trimStart line := List.isPrefixOf_iff_prefix.mp word
  have long : 5 ≤ (Text.trimStart line).length := begins.length_le
  have visible : Text.trimStart line ≠ [] := List.ne_nil_of_length_pos (by omega)
  have value : Text.trimStart ((Text.trimStart line).drop 5) ≠ [] := by
    intro none
    rw [none] at valued
    cases valued
  rw [startsWithTitle_eq, Text.trimStart_append_of_ne_nil visible,
    List.drop_append_of_le_length long, Text.trimStart_append_of_ne_nil value,
    startsWithValue_append valued, Bool.and_true]
  exact List.isPrefixOf_iff_prefix.mpr (begins.trans (List.prefix_append _ _))

/-- What stands behind the slash of a closing tag, and behind the bracket of any other. -/
def behindSlash : List Char → List Char
  | '/' :: rest => rest
  | rest => rest

/-- The name at the beginning of a text. -/
def nameOf? (text : List Char) : Option (List Char) :=
  match text with
  | c :: _ => if c.isAlpha then some (text.takeWhile Roll20.isNameChar) else none
  | [] => none

/-- Whether a text is a name. -/
def isName (text : List Char) : Bool := text.head?.any Char.isAlpha && text.all Roll20.isNameChar

/-- Whether a character belongs to what a tag so far ends in: a slash to the bracket, and a
character of a name to the name. -/
def gluesTo (tag : List Char) (c : Char) : Bool :=
  match tag with
  | ['<'] => c = '/'
  | '<' :: rest => isName (Text.trimStart (behindSlash rest)) && Roll20.isNameChar c
  | _ => false

/-- Without a slash in front nothing is dropped. -/
theorem behindSlash_of_ne {text : List Char} (other : text.head? ≠ some '/') :
    behindSlash text = text := by
  unfold behindSlash
  split
  · exact absurd rfl other
  · rfl

/-- The slash in front of a text is in front of a longer one. -/
theorem behindSlash_append {text : List Char} (nonempty : text ≠ []) (rest : List Char) :
    behindSlash (text ++ rest) = behindSlash text ++ rest := by
  obtain ⟨c, text, rfl⟩ := List.exists_cons_of_ne_nil nonempty
  by_cases slash : c = '/'
  · subst slash
    rfl
  · have other (text : List Char) : (c :: text).head? ≠ some '/' := by simpa using slash
    rw [List.cons_append, behindSlash_of_ne (other _), behindSlash_of_ne (other _),
      List.cons_append]

/-- What a tag says is read behind its bracket and its slash. -/
theorem tagName?_cons (rest : List Char) :
    tagName? ('<' :: rest) =
      (nameOf? (Text.trimStart (behindSlash rest))).map (decide (rest.head? = some '/'), ·) := by
  have name : Roll20.isNameChar = fun c => c.isAlphanum || c = '-' := rfl
  by_cases slash : rest.head? = some '/'
  · obtain ⟨rest, rfl⟩ := List.head?_eq_some_iff.mp slash
    cases text : Text.trimStart rest with
    | nil => simp [tagName?, behindSlash, nameOf?, text]
    | cons c more =>
        cases alpha : c.isAlpha <;> simp [tagName?, behindSlash, nameOf?, text, alpha, name]
  · rw [behindSlash_of_ne slash, decide_eq_false slash]
    -- No closing tag: this decides the match on the slash.
    have other : ∀ more, rest ≠ '/' :: more := fun more same => slash (same ▸ rfl)
    cases text : Text.trimStart rest with
    | nil => simp [tagName?, nameOf?, text]
    | cons c more => cases alpha : c.isAlpha <;> simp [tagName?, nameOf?, text, alpha, name]

/-- A space in front of what does not go on with a name does not change the name. -/
theorem takeWhile_name_space {name rest : List Char}
    (apart : name.all Roll20.isNameChar = true → rest.head?.any Roll20.isNameChar = false) :
    (name ++ ' ' :: rest).takeWhile Roll20.isNameChar =
      (name ++ rest).takeWhile Roll20.isNameChar := by
  by_cases all : name.all Roll20.isNameChar = true
  · have ends : rest.takeWhile Roll20.isNameChar = [] := by
      cases rest with
      | nil => rfl
      | cons c rest => exact List.takeWhile_cons_of_neg (ne_true_of_eq_false (apart all))
    rw [List.takeWhile_append_of_pos (List.all_eq_true.mp all),
      List.takeWhile_append_of_pos (List.all_eq_true.mp all), ends]
    rfl
  · have short : (name.takeWhile Roll20.isNameChar).length ≠ name.length := by
      intro long
      have whole := (List.takeWhile_prefix _).eq_of_length long
      exact all (List.all_eq_true.mpr (List.takeWhile_eq_self_iff.mp whole))
    rw [List.takeWhile_append, List.takeWhile_append, if_neg short, if_neg short]

/-- A blank behind a name does not matter, unless it parts the name from more of it. -/
theorem nameOf?_space {text rest : List Char} (trimmed : text.head?.any Text.isBlank = false)
    (apart : isName text = true → rest.head?.any Roll20.isNameChar = false) :
    nameOf? (Text.trimStart (text ++ ' ' :: rest)) = nameOf? (Text.trimStart (text ++ rest)) := by
  cases text with
  | nil => rfl
  | cons c text =>
      have visible : ¬Text.isBlank c = true := ne_true_of_eq_false trimmed
      rw [Text.trimStart, List.cons_append, List.dropWhile_cons_of_neg visible, Text.trimStart,
        List.cons_append, List.dropWhile_cons_of_neg visible, nameOf?, nameOf?,
        ← List.cons_append, ← List.cons_append]
      by_cases alpha : c.isAlpha = true
      · have same := @takeWhile_name_space (c :: text) rest fun all =>
          apart (Bool.and_eq_true_iff.mpr ⟨alpha, all⟩)
        rw [if_pos alpha, if_pos alpha, same]
      · rw [if_neg alpha, if_neg alpha]

/-- Without the blanks in front no blank is in front. -/
theorem head?_trimStart (text : List Char) :
    (Text.trimStart text).head?.any Text.isBlank = false := by
  rw [Text.trimStart]
  have visible := List.head?_dropWhile_not Text.isBlank text
  cases first : (text.dropWhile Text.isBlank).head? with
  | none => rfl
  | some c =>
      rw [first] at visible
      exact visible

/-- A blank in between does not matter for what a tag says, unless it parts what belongs together.
-/
theorem tagName?_space {tag rest : List Char} (opened : tag.head? = some '<')
    (apart : rest.head?.any (gluesTo tag) = false) :
    tagName? (tag ++ ' ' :: rest) = tagName? (tag ++ rest) := by
  obtain ⟨text, rfl⟩ := List.head?_eq_some_iff.mp opened
  rw [List.cons_append, List.cons_append, tagName?_cons, tagName?_cons]
  cases text with
  | nil =>
      have other : rest.head? ≠ some '/' := by
        intro slash
        rw [slash] at apart
        cases apart
      rw [List.nil_append, List.nil_append, behindSlash_of_ne other, decide_eq_false other]
      rfl
  | cons c text =>
      have unglued : isName (Text.trimStart (behindSlash (c :: text))) = true →
          rest.head?.any Roll20.isNameChar = false := by
        intro named
        cases rest with
        | nil => rfl
        | cons d rest =>
            have apart : (isName (Text.trimStart (behindSlash (c :: text))) &&
              Roll20.isNameChar d) = false := apart
            rwa [named, Bool.true_and] at apart
      have nonempty : c :: text ≠ [] := List.cons_ne_nil c text
      rw [behindSlash_append nonempty, behindSlash_append nonempty, Text.trimStart_append,
        Text.trimStart_append _ rest, nameOf?_space (head?_trimStart _) unglued]
      rfl

/-- A blank in between does not matter for whether a value is awaited. -/
theorem awaitsValue_space (tag rest : List Char) :
    awaitsValue (tag ++ ' ' :: rest) = awaitsValue (tag ++ rest) := by
  rw [awaitsValue, awaitsValue, Text.getLast?_trimEnd_space]

/-- A blank in between does not matter for the depth, unless it parts what belongs together. -/
theorem depthStep?_space (element : String) {tag rest : List Char} (opened : tag.head? = some '<')
    (apart : rest.head?.any (gluesTo tag) = false) :
    depthStep? element (tag ++ ' ' :: rest) = depthStep? element (tag ++ rest) := by
  rw [depthStep?, depthStep?, tagName?_space opened apart, Text.getLast?_trimEnd_space]

end Transcript

end DiceLedger
