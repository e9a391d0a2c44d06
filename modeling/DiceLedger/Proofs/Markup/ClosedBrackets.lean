import DiceLedger.Proofs.Markup.ClosedText

/-! # Brackets in closed texts

Whatever an opening bracket begins in a closed text is read without a look at what stands behind the
text (`DiceLedger.Markup.readBracketed_append`), also when it is finished nowhere in it.
-/

namespace DiceLedger

namespace Markup

variable {text rest more : List Char} {c : Char}

/-- What is read of a bracket, with something behind what is left. -/
def Bracketed.before (more : List Char) (read : Bracketed) : Bracketed :=
  read.map (Option.map fun (tokens, rest) => (tokens, rest ++ more))

/-- The attributes of a tag, given the text from its name on, and what follows them. -/
def tagAttributes (text : List Char) : List RawAttribute × List Char :=
  let skipped := skipInTag ((text.takeWhile isTagNameChar).getLast?.getD '<')
    (text.dropWhile isTagNameChar)
  takeAttributes skipped.2.length skipped.1 skipped.2

/-- What a tag gives whose attributes are read. -/
def readTag (text : List Char) (raw : List RawAttribute) (rest : List Char) : Bracketed :=
  let name := lowerName (text.takeWhile isTagNameChar)
  match rest with
  | [] => .ok none
  | c :: after =>
    if c.isAlpha || c = '=' then .ok none
    else
      match decodeAttributes raw with
      | .error fault => .error fault
      | .ok attributes =>
        if c = '>' then .ok (some ([.opening name attributes], after))
        else if c = '/' then .ok (some ([.selfClosing name attributes], after.drop 1))
        else .ok (some ([.text ('<' :: text.take (text.length - rest.length))], rest))

/-- An opening tag is its attributes, and what they leave up to the bracket. -/
theorem readOpening_eq (text : List Char) :
    readOpening text = readTag text (tagAttributes text).1 (tagAttributes text).2 := by
  simp only [readOpening, drop_takeWhile]
  rfl

/-- The attributes of a tag in a closed text are read as if nothing stood behind it. -/
theorem tagAttributes_append (closed : Closed text) (gap : Gap more) :
    tagAttributes (text ++ more) = ((tagAttributes text).1, (tagAttributes text).2 ++ more) := by
  have inner := (closed.dropWhile (p := isTagNameChar) (by decide)).closed
  rw [tagAttributes, closed.takeWhile_append (by decide), closed.dropWhile_append (by decide),
    skipInTag_append inner]
  simp only [List.length_append]
  exact takeAttributes_append gap more.length _ (closedEnd_skipInTag inner _).closed (Nat.le_refl _)

/-- Behind the attributes of a tag a closed text is closed. -/
theorem closedEnd_tagAttributes (closed : Closed text) :
    ClosedEnd (tagAttributes text).2 text := by
  have inner := closed.dropWhile (p := isTagNameChar) (by decide)
  have skipped := (closedEnd_skipInTag inner.closed
    ((text.takeWhile isTagNameChar).getLast?.getD '<')).trans inner.suffix
  exact (closedEnd_takeAttributes _ skipped.closed).trans skipped.suffix

/-- A tag whose attributes end within a closed text ends there itself. -/
theorem readTag_append (closed : Closed text) (raw : List RawAttribute)
    (left : ClosedEnd rest text) (more : List Char) :
    readTag (text ++ more) raw (rest ++ more) = (readTag text raw rest).before more := by
  obtain ⟨c, after, rfl⟩ := List.exists_cons_of_ne_nil left.closed.ne_nil
  have shorter := left.length_le
  rw [List.cons_append, readTag, readTag, closed.takeWhile_append (by decide)]
  split
  · rfl
  cases decodeAttributes raw with
  | error fault => rfl
  | ok attributes =>
      simp only
      split
      · rfl
      split
      · next other _ =>
        obtain ⟨d, later, rfl⟩ := List.exists_cons_of_ne_nil (left.closed.tail other).ne_nil
        rfl
      · have same : (text ++ more).length - (c :: (after ++ more)).length =
            text.length - (c :: after).length := by
          simp only [List.length_append, List.length_cons]
          omega
        rw [same, List.take_append_of_le_length (Nat.sub_le _ _)]
        rfl

/-- **An opening tag in a closed text is read as if nothing stood behind the text.** -/
theorem readOpening_append (closed : Closed text) (gap : Gap more) :
    readOpening (text ++ more) = (readOpening text).before more := by
  rw [readOpening_eq, readOpening_eq, tagAttributes_append closed gap]
  exact readTag_append closed _ (closedEnd_tagAttributes closed) more

/-- An opening tag leaves an end of the text. -/
theorem suffix_of_readOpening (closed : Closed text) {tokens : List Token}
    (read : readOpening text = .ok (some (tokens, rest))) : rest <:+ text := by
  have left := (closedEnd_tagAttributes closed).suffix
  rw [readOpening_eq, readTag.eq_def] at read
  generalize (tagAttributes text).2 = behind at left read
  split at read
  · cases read
  · next c after =>
    split at read
    · cases read
    split at read
    · cases read
    split at read
    · obtain ⟨-, rfl⟩ := Prod.mk.inj (Option.some.inj (Except.ok.inj read))
      exact (List.suffix_cons c _).trans left
    split at read
    · obtain ⟨-, rfl⟩ := Prod.mk.inj (Option.some.inj (Except.ok.inj read))
      exact ((List.drop_suffix 1 after).trans (List.suffix_cons c after)).trans left
    · obtain ⟨-, rfl⟩ := Prod.mk.inj (Option.some.inj (Except.ok.inj read))
      exact left

/-- A closing tag in a closed text is read as if nothing stood behind the text. -/
theorem readClosing_append (closed : Closed text) (gap : Gap more) :
    readClosing (text ++ more) = (readClosing text).before more := by
  obtain ⟨content, after, found⟩ := closed.exists_upTo?
  rw [readClosing, readClosing, upTo?_append (gap.not_mem (by decide) (by decide)), found]
  simp only [Option.map_some]
  split
  · rfl
  split
  · rfl
  split
  · rfl
  · rfl

/-- A closing tag leaves an end of the text. -/
theorem suffix_of_readClosing {tokens : List Token}
    (read : readClosing text = .ok (some (tokens, rest))) : rest <:+ text := by
  rw [readClosing] at read
  cases found : upTo? '>' text with
  | none =>
      rw [found] at read
      cases read
  | some parts =>
      suffices same : parts.2 = rest from same ▸ suffix_of_upTo? found
      simp only [found] at read
      split at read
      · exact (Prod.mk.inj (Option.some.inj (Except.ok.inj read))).2
      split at read
      · exact (Prod.mk.inj (Option.some.inj (Except.ok.inj read))).2
      split at read
      · exact (Prod.mk.inj (Option.some.inj (Except.ok.inj read))).2
      · exact (Prod.mk.inj (Option.some.inj (Except.ok.inj read))).2

/-- An end is looked for in a closed text without a look at what stands behind, and a gap holds
none. -/
structure Steady (more : List Char) (stop : List Char → Option (List Char)) : Prop where
  append : ∀ text, Closed text → stop (text ++ more) = (stop text).map (· ++ more)
  gap : ∀ text, Gap text → stop text = none
  suffix : ∀ {text rest}, stop text = some rest → rest <:+ text.tail

/-- Within a gap nothing is cut. -/
theorem cutWhere?_gap {stop : List Char → Option (List Char)} (steady : Steady more stop)
    (gap : Gap text) : cutWhere? stop text = none := by
  induction text with
  | nil => rfl
  | cons c rest ih =>
      have inner : Gap rest := fun d member => gap d (List.mem_cons_of_mem c member)
      rw [cutWhere?, steady.gap _ gap, ih inner]
      rfl

/-- Where a closed text is cut does not hang on a gap behind it. -/
theorem cutWhere?_append {stop : List Char → Option (List Char)} (steady : Steady more stop)
    (closed : Closed text) (gap : Gap more) :
    cutWhere? stop (text ++ more) =
      (cutWhere? stop text).map fun (content, rest) => (content, rest ++ more) := by
  induction text with
  | nil => cases closed
  | cons c rest ih =>
      have here := steady.append _ closed
      rw [List.cons_append] at here
      rw [List.cons_append, cutWhere?, cutWhere?, here]
      cases stop (c :: rest) with
      | some after => rfl
      | none =>
          simp only [Option.map_none]
          cases rest with
          | nil =>
              rw [List.nil_append, cutWhere?_gap steady gap]
              rfl
          | cons d later =>
              rw [ih (closed.of_suffix (List.suffix_cons c _) (List.cons_ne_nil d later))]
              cases cutWhere? stop (d :: later) <;> rfl

/-- What is left behind a cut is an end of the text, and shorter. -/
theorem suffix_of_cutWhere? {stop : List Char → Option (List Char)} (steady : Steady more stop)
    {content : List Char} (found : cutWhere? stop text = some (content, rest)) :
    rest <:+ text.tail := by
  induction text generalizing content with
  | nil => cases found
  | cons c later ih =>
      rw [cutWhere?] at found
      cases here : stop (c :: later) with
      | some after =>
          rw [here] at found
          obtain ⟨-, rfl⟩ := Prod.mk.inj (Option.some.inj found)
          exact steady.suffix here
      | none =>
          rw [here] at found
          obtain ⟨⟨front, back⟩, inner, whole⟩ := Option.map_eq_some_iff.mp found
          obtain ⟨-, rfl⟩ := Prod.mk.inj whole
          exact (ih inner).trans (List.tail_suffix later)

/-- Marks that end with a bracket are found in a closed text as if nothing stood behind it. -/
theorem closeAt_append {marks : List Char} (unclosed : '>' ∉ marks.dropLast) (closed : Closed text)
    (more : List Char) : closeAt marks (text ++ more) = (closeAt marks text).map (· ++ more) := by
  induction marks generalizing text with
  | nil => rfl
  | cons mark marks ih =>
      obtain ⟨c, rest, rfl⟩ := List.exists_cons_of_ne_nil closed.ne_nil
      rw [List.cons_append, closeAt, closeAt]
      split
      · next same =>
        subst same
        cases marks with
        | nil => rfl
        | cons next marks =>
            rw [List.dropLast_cons_cons] at unclosed
            have inner : Closed rest := closed.tail fun same => unclosed (same ▸ List.mem_cons_self)
            simp only [List.isEmpty_cons, Bool.false_eq_true, if_false, inner.trimStart_append]
            exact ih (fun member => unclosed (List.mem_cons_of_mem c member)) inner.trimStart.closed
      · rfl

/-- Behind closing marks an end of the text is left. -/
theorem suffix_of_closeAt {marks : List Char} (found : closeAt marks text = some rest) :
    rest <:+ text := by
  induction marks generalizing text with
  | nil =>
      obtain rfl := Option.some.inj found
      exact List.suffix_rfl
  | cons mark marks ih =>
      cases text with
      | nil => cases found
      | cons c later =>
          rw [closeAt] at found
          split at found
          · refine (ih found).trans (List.IsSuffix.trans ?_ (List.suffix_cons c later))
            split
            · exact List.suffix_rfl
            · exact List.dropWhile_suffix _
          · cases found

/-- Marks with a bracket at their end alone are looked for steadily. -/
theorem steady_closeAt {mark : Char} {marks : List Char} (unclosed : '>' ∉ (mark :: marks).dropLast)
    (space : mark ≠ ' ') (tab : mark ≠ '\t') (more : List Char) :
    Steady more (closeAt (mark :: marks)) where
  append _ closed := closeAt_append unclosed closed more
  gap text gap := by
    cases text with
    | nil => rfl
    | cons c rest =>
        rw [closeAt, if_neg]
        rintro rfl
        exact (gap c List.mem_cons_self).elim space tab
  suffix {text rest} found := by
    cases text with
    | nil => cases found
    | cons c later =>
        rw [closeAt] at found
        split at found
        · refine (suffix_of_closeAt found).trans ?_
          split
          · exact List.suffix_rfl
          · exact List.dropWhile_suffix _
        · cases found

/-- The end of a comment is looked for steadily. -/
theorem steady_commentEnd (more : List Char) : Steady more commentEnd where
  append text closed := by
    fun_cases commentEnd text with
    | case1 rest =>
        have inner := (closed.tail (by decide)).tail (by decide)
        have trimmed : Text.trimStart (rest ++ more) = Text.trimStart rest ++ more :=
          inner.trimStart_append more
        rw [List.cons_append, List.cons_append, commentEnd, trimmed]
        exact closeAt_append List.not_mem_nil inner.trimStart.closed more
    | case2 _ other =>
        refine commentEnd.eq_2 _ fun rest same => ?_
        obtain ⟨later, whole⟩ := closed.starts ['-', '-'] (by decide) same
        exact other later whole
  gap text gap := by
    fun_cases commentEnd text with
    | case1 => exact absurd List.mem_cons_self (gap.not_mem (by decide) (by decide))
    | case2 => rfl
  suffix {text rest} found := by
    revert found
    fun_cases commentEnd text with
    | case1 later =>
        exact fun found => ((suffix_of_closeAt found).trans (List.dropWhile_suffix _)).trans
          (List.suffix_cons '-' later)
    | case2 => exact fun found => nomatch found

/-- A word of a closed text ends before its end. -/
theorem Closed.spells (closed : Closed text) (word : List Char) (absent : '>' ∉ word)
    (spelled : (text.take word.length).map Char.toLower = word) :
    word.length ≤ text.length ∧ ClosedEnd (text.drop word.length) text := by
  have inside : word.length < text.length := by
    refine Nat.lt_of_not_le fun short => absent ?_
    rw [← spelled, List.take_of_length_le short]
    exact List.mem_map.mpr ⟨'>', closed.mem, rfl⟩
  refine ⟨Nat.le_of_lt inside, List.drop_suffix _ _, closed.of_suffix (List.drop_suffix _ _) ?_⟩
  exact fun none => absurd (List.drop_eq_nil_iff.mp none) (Nat.not_le_of_lt inside)

/-- A word without a bracket is spelled by a closed text or not, whatever stands behind. -/
theorem Closed.spells_append (closed : Closed text) (word : List Char) (absent : '>' ∉ word)
    (more : List Char) :
    ((text ++ more).take word.length).map Char.toLower = word ↔
      (text.take word.length).map Char.toLower = word := by
  rcases Nat.lt_or_ge text.length word.length with short | long
  · have shown : '>' ∈ (text.take word.length).map Char.toLower :=
      List.mem_map.mpr ⟨'>', (List.take_of_length_le (Nat.le_of_lt short)).symm ▸ closed.mem, rfl⟩
    have before : text.take word.length <+: (text ++ more).take word.length := by
      rw [List.take_append]
      exact List.prefix_append _ _
    constructor
    · intro spelled
      exact absurd (spelled ▸ (before.map Char.toLower).subset shown) absent
    · intro spelled
      exact absurd (spelled ▸ shown) absent
  · rw [List.take_append_of_le_length long]

/-- The end of an element that is read raw is looked for steadily. -/
theorem steady_rawEnd {name : String} (absent : '>' ∉ name.toList) (more : List Char) :
    Steady more (rawEnd name) where
  append text closed := by
    fun_cases rawEnd name text with
    | case1 rest inner same =>
        have behind := (closed.tail (by decide)).tail (by decide)
        have start := behind.trimStart.closed
        rw [← String.length_toList] at same ⊢
        obtain ⟨short, after⟩ := start.spells _ absent same
        refine (rawEnd.eq_1 name (rest ++ more)).trans ?_
        rw [behind.trimStart_append, ← String.length_toList,
          if_pos ((start.spells_append _ absent more).mpr same),
          List.drop_append_of_le_length short, after.closed.trimStart_append]
        exact closeAt_append List.not_mem_nil after.closed.trimStart.closed more
    | case2 rest inner other =>
        have behind := (closed.tail (by decide)).tail (by decide)
        rw [← String.length_toList] at other
        refine (rawEnd.eq_1 name (rest ++ more)).trans ?_
        rw [behind.trimStart_append, ← String.length_toList, if_neg]
        · rfl
        · exact fun same => other ((behind.trimStart.closed.spells_append _ absent more).mp same)
    | case3 _ other =>
        refine rawEnd.eq_2 _ _ fun rest same => ?_
        obtain ⟨later, whole⟩ := closed.starts ['<', '/'] (by decide) same
        exact other later whole
  gap text gap := by
    fun_cases rawEnd name text with
    | case1 => exact absurd List.mem_cons_self (gap.not_mem (by decide) (by decide))
    | case2 => exact absurd List.mem_cons_self (gap.not_mem (by decide) (by decide))
    | case3 => rfl
  suffix {text rest} found := by
    revert found
    fun_cases rawEnd name text with
    | case1 later inner same =>
        intro found
        have named := (suffix_of_closeAt found).trans (List.dropWhile_suffix _)
        have blanks : inner <:+ later := List.dropWhile_suffix _
        exact ((named.trans (List.drop_suffix _ inner)).trans blanks).trans
          (List.suffix_cons '/' later)
    | case2 => exact fun found => nomatch found
    | case3 => exact fun found => nomatch found

/-- A comment in a closed text is read as if nothing stood behind the text. -/
theorem readComment_append (closed : Closed text) (gap : Gap more) :
    readComment (text ++ more) = (readComment text).before more := by
  rw [readComment, readComment, cutWhere?_append (steady_commentEnd more) closed gap]
  cases cutWhere? commentEnd text <;> rfl

/-- A comment leaves an end of the text. -/
theorem suffix_of_readComment {tokens : List Token}
    (read : readComment text = .ok (some (tokens, rest))) : rest <:+ text := by
  obtain ⟨⟨content, after⟩, found, same⟩ := Option.map_eq_some_iff.mp (Except.ok.inj read)
  obtain ⟨-, rfl⟩ := Prod.mk.inj same
  exact (suffix_of_cutWhere? (steady_commentEnd []) found).trans (List.tail_suffix text)

/-- An aside up to the next bracket is read as if no gap stood behind the text. -/
theorem readAside_append (gap : Gap more) (text : List Char) :
    readAside (text ++ more) = (readAside text).before more := by
  rw [readAside, readAside, upTo?_append (gap.not_mem (by decide) (by decide))]
  cases upTo? '>' text <;> rfl

/-- An aside up to the next bracket leaves an end of the text. -/
theorem suffix_of_readAside {tokens : List Token}
    (read : readAside text = .ok (some (tokens, rest))) : rest <:+ text := by
  obtain ⟨⟨content, after⟩, found, same⟩ := Option.map_eq_some_iff.mp (Except.ok.inj read)
  obtain ⟨-, rfl⟩ := Prod.mk.inj same
  exact suffix_of_upTo? found

/-- The keyword of a section ends within a closed text. -/
theorem sectionKeyword_append (closed : Closed text) (more : List Char) :
    sectionKeyword (text ++ more) = sectionKeyword text := by
  obtain ⟨first, rest, rfl⟩ := List.exists_cons_of_ne_nil closed.ne_nil
  let isNameChar (c : Char) : Bool := c.isAlphanum || c = '-' || c = '_' || c = '.'
  have inner := (closed.dropWhile (p := isNameChar) (by decide)).closed
  have named := closed.takeWhile_append (p := isNameChar) (by decide) more
  have behind := closed.dropWhile_append (p := isNameChar) (by decide) more
  rw [List.cons_append] at named behind
  rw [List.cons_append, sectionKeyword, sectionKeyword]
  split
  · rfl
  · simp only [drop_takeWhile]
    simp only [isNameChar] at named behind inner
    rw [named, behind, inner.trimStart_append]
    obtain ⟨d, later, same⟩ := List.exists_cons_of_ne_nil inner.trimStart.closed.ne_nil
    rw [same]
    rfl

/-- The marks that end a section. -/
def sectionMarks? (keyword : String) : Option (List Char) :=
  if longSections.contains keyword then some [']', ']', '>']
  else if shortSections.contains keyword then some [']', '>']
  else none

/-- The marks that close a section are looked for steadily. -/
theorem steady_section {keyword : String} {marks : List Char}
    (known : sectionMarks? keyword = some marks) (more : List Char) :
    Steady more (closeAt marks) := by
  rw [sectionMarks?] at known
  split at known
  · obtain rfl := Option.some.inj known
    exact steady_closeAt (by decide) (by decide) (by decide) more
  split at known
  · obtain rfl := Option.some.inj known
    exact steady_closeAt (by decide) (by decide) (by decide) more
  · cases known

/-- A section in a closed text is read as if no gap stood behind the text. -/
theorem readSection_append (closed : Closed text) (gap : Gap more) :
    readSection (text ++ more) = (readSection text).before more := by
  rw [readSection, readSection, sectionKeyword_append closed]
  split
  · rfl
  · rfl
  · next keyword _ =>
    simp only [← sectionMarks?.eq_1]
    cases known : sectionMarks? keyword with
    | none => rfl
    | some marks =>
        simp only [cutWhere?_append (steady_section known more) closed gap]
        cases cutWhere? (closeAt marks) text <;> rfl

/-- A section leaves an end of the text. -/
theorem suffix_of_readSection {tokens : List Token}
    (read : readSection text = .ok (some (tokens, rest))) : rest <:+ text := by
  rw [readSection] at read
  split at read
  · cases read
  · cases read
  · next keyword _ =>
    simp only [← sectionMarks?.eq_1] at read
    cases known : sectionMarks? keyword with
    | none =>
        rw [known] at read
        cases read
    | some marks =>
        rw [known] at read
        obtain ⟨⟨content, after⟩, found, same⟩ := Option.map_eq_some_iff.mp (Except.ok.inj read)
        obtain ⟨-, rfl⟩ := Prod.mk.inj same
        exact (suffix_of_cutWhere? (steady_section known []) found).trans (List.tail_suffix text)

/-- A declaration in a closed text is read as if no gap stood behind the text. -/
theorem readDeclaration_append (closed : Closed text) (gap : Gap more) :
    readDeclaration (text ++ more) = (readDeclaration text).before more := by
  have same : ((text ++ more).take 7).map Char.toLower = "doctype".toList ↔
      (text.take 7).map Char.toLower = "doctype".toList :=
    closed.spells_append "doctype".toList (by decide) more
  rw [readDeclaration, readDeclaration]
  by_cases named : (text.take 7).map Char.toLower = "doctype".toList
  · have short : 7 ≤ text.length := (closed.spells "doctype".toList (by decide) named).1
    rw [if_pos (same.mpr named), if_pos named, List.drop_append_of_le_length short,
      upTo?_append (gap.not_mem (by decide) (by decide))]
    cases upTo? '>' (text.drop 7) <;> rfl
  · rw [if_neg (fun spelled => named (same.mp spelled)), if_neg named, readAside_append gap]

/-- A declaration leaves an end of the text. -/
theorem suffix_of_readDeclaration {tokens : List Token}
    (read : readDeclaration text = .ok (some (tokens, rest))) : rest <:+ text := by
  rw [readDeclaration] at read
  split at read
  · obtain ⟨⟨content, after⟩, found, same⟩ := Option.map_eq_some_iff.mp (Except.ok.inj read)
    obtain ⟨-, rfl⟩ := Prod.mk.inj same
    exact (suffix_of_upTo? found).trans (List.drop_suffix 7 text)
  · exact suffix_of_readAside read

/-- **Whatever begins with a bracket is read in a closed text as if no gap stood behind it.** -/
theorem readBracketed_append (closed : Closed text) (gap : Gap more) :
    readBracketed (text ++ more) = (readBracketed text).before more := by
  fun_cases readBracketed text with
  | case1 rest => exact readClosing_append (closed.tail (by decide)) gap
  | case2 rest =>
      exact readComment_append (((closed.tail (by decide)).tail (by decide)).tail (by decide)) gap
  | case3 rest => exact readAside_append gap rest
  | case4 rest =>
      exact readSection_append ((closed.tail (by decide)).tail (by decide)) gap
  | case5 rest comment marked =>
      have inner := closed.tail (by decide)
      refine (readBracketed.eq_5 _ (fun later same => ?_) fun later same => ?_).trans
        (readDeclaration_append inner gap)
      · obtain ⟨front, whole⟩ := inner.starts ['-', '-'] (by decide) same
        exact comment front whole
      · obtain ⟨front, whole⟩ := inner.starts ['['] (by decide) same
        exact marked front whole
  | case6 c rest slash comment mark marked bang letter =>
      refine (readBracketed.eq_6 c (rest ++ more) slash (fun _ same => absurd same bang) mark
        (fun _ same => absurd same bang) bang).trans ?_
      rw [if_pos letter]
      exact readOpening_append closed gap
  | case7 c rest slash comment mark marked bang other =>
      refine (readBracketed.eq_6 c (rest ++ more) slash (fun _ same => absurd same bang) mark
        (fun _ same => absurd same bang) bang).trans ?_
      rw [if_neg other]
      rfl
  | case8 => cases closed

/-- Whatever begins with a bracket leaves an end of the text. -/
theorem suffix_of_readBracketed (closed : Closed text) {tokens : List Token}
    (read : readBracketed text = .ok (some (tokens, rest))) : rest <:+ text := by
  revert read
  fun_cases readBracketed text with
  | case1 inner => exact fun read => (suffix_of_readClosing read).trans (List.suffix_cons _ inner)
  | case2 inner =>
      exact fun read =>
        (suffix_of_readComment read).trans (List.suffix_append ['!', '-', '-'] inner)
  | case3 inner => exact fun read => (suffix_of_readAside read).trans (List.suffix_cons _ inner)
  | case4 inner =>
      exact fun read => (suffix_of_readSection read).trans (List.suffix_append ['!', '['] inner)
  | case5 inner =>
      exact fun read => (suffix_of_readDeclaration read).trans (List.suffix_cons _ inner)
  | case6 => exact fun read => suffix_of_readOpening closed read
  | case7 c inner =>
      intro read
      obtain ⟨-, rfl⟩ := Prod.mk.inj (Option.some.inj (Except.ok.inj read))
      exact List.suffix_rfl
  | case8 => exact fun read => nomatch read

/-- What is not finished is given as text, and what stands behind is left as it is. -/
theorem unfinished_append (closed : Closed text) (gap : Gap more) :
    unfinished (text ++ more) = ((unfinished text).1, (unfinished text).2 ++ more) := by
  obtain ⟨content, after, found⟩ := closed.exists_upTo?
  rw [unfinished, unfinished, upTo?_append (gap.not_mem (by decide) (by decide)), found]
  rfl

/-- Behind what is not finished an end of the text is left. -/
theorem suffix_unfinished (closed : Closed text) : (unfinished text).2 <:+ text := by
  obtain ⟨content, after, found⟩ := closed.exists_upTo?
  rw [unfinished, found]
  exact suffix_of_upTo? found

end Markup

end DiceLedger
