import DiceLedger.Proofs.Transcript.BrokenTag

/-! # Quoted values

A scanner that is within a quoted value passes over everything up to the quote, over as many lines
as it takes, and goes on as if the value had been empty. So what a tag does to the depth does not
hang on the content of its values: tags whose parts are the same but for that content lead through
the same depths (`DiceLedger.Transcript.TagScanner.quoted_values_unseen`). -/

namespace DiceLedger

namespace Transcript

/-- The depths that a change leads from and to. -/
def DepthChange.transition (change : DepthChange) : Int × Int := (change.previous, change.current)

/-- Lines that hold some clusters, and on the last line others behind them. -/
inductive Written : (lines front back : List (List Char)) → Prop
  | last {line : List Char} {front back : List (List Char)}
      (cut : Text.clusters line = front ++ back) : Written [line] front back
  | line {line : List Char} {rest front back : List (List Char)} (later : Written rest front back) :
      Written (line :: rest) (Text.clusters line ++ front) back

/-- What stands behind is cut like a line of its own. -/
theorem Written.clusters_flatten {lines front back : List (List Char)}
    (written : Written lines front back) : Text.clusters back.flatten = back := by
  induction written with
  | last cut => exact Text.clusters_flatten_of_append cut
  | line _ ih => exact ih

/-- A part of a tag: a cluster outside of quoted values, or a value between its quotes. -/
inductive TagSpan where
  | outside (cluster : List Char)
  | value (quote : Char) (content : List (List Char))
  deriving DecidableEq

namespace TagSpan

def clusters : TagSpan → List (List Char)
  | outside cluster => [cluster]
  | value quote content => [quote] :: (content ++ [[quote]])

/-- The part with nothing between its quotes. -/
def emptied : TagSpan → TagSpan
  | outside cluster => outside cluster
  | value quote _ => value quote []

/-- What a scanner holds of a part: its text, but for the content of a value. -/
def held (span : TagSpan) : List Char := span.emptied.clusters.flatten

theorem held_outside (cluster : List Char) : (outside cluster).held = cluster :=
  List.append_nil cluster

/-- Of a quoted value only its quotes are held. -/
theorem held_value (quote : Char) (content : List (List Char)) :
    (value quote content).held = [quote] ++ [quote] :=
  rfl

/-- Whether a part may stand behind the text of a tag. Values begin behind an equals sign, and there
every quote begins one; a value goes up to its quote, and the tag up to its closing bracket. -/
def Follows (tag : List Char) : TagSpan → Prop
  | outside cluster =>
    cluster ≠ ['>'] ∧ ((TagScanner.quote? cluster).isSome → awaitsValue tag = false)
  | value quote content =>
    Roll20.isQuote quote = true ∧ awaitsValue tag = true ∧ [quote] ∉ content

instance (tag : List Char) : (span : TagSpan) → Decidable (span.Follows tag)
  | outside _ => inferInstanceAs (Decidable (_ ∧ _))
  | value _ _ => inferInstanceAs (Decidable (_ ∧ _ ∧ _))

end TagSpan

/-- Parts that stand one behind another behind the text of a tag. -/
def Spans : (tag : List Char) → List TagSpan → Prop
  | _, [] => True
  | tag, span :: rest => span.Follows tag ∧ Spans (tag ++ span.held) rest

instance decidableSpans : (tag : List Char) → (spans : List TagSpan) → Decidable (Spans tag spans)
  | _, [] => .isTrue trivial
  | tag, span :: rest =>
    have : Decidable (Spans (tag ++ span.held) rest) := decidableSpans _ rest
    inferInstanceAs (Decidable (_ ∧ _))

namespace TagScanner

variable {scanner middle next : TagScanner} {front back lines : List (List Char)}

/-- The depths that lines lead from and to. -/
def transitions (scanner : TagScanner) : List (List Char) → List (Int × Int)
  | [] => []
  | line :: rest =>
    (scanner.feed line).1.map DepthChange.transition ++ (scanner.feed line).2.transitions rest

/-- Clusters that a scanner passes within a tag, with no change of depth. -/
inductive Within : TagScanner → List (List Char) → TagScanner → Prop
  | nil {scanner : TagScanner} (inside : scanner.state ≠ .outsideTag) : Within scanner [] scanner
  | cons {scanner middle next : TagScanner} {cluster : List Char} {rest : List (List Char)}
      (inside : scanner.state ≠ .outsideTag)
      (step : scanner.advance false cluster 0 = (none, middle)) (later : Within middle rest next) :
      Within scanner (cluster :: rest) next

namespace Within

/-- What is within a tag is not outside of tags. -/
theorem inside (within : Within scanner front next) : scanner.state ≠ .outsideTag := by
  cases within <;> assumption

theorem inside_last (within : Within scanner front next) : next.state ≠ .outsideTag := by
  induction within with
  | nil inside => exact inside
  | cons _ _ _ ih => exact ih

/-- What is read within a tag may go on within it. -/
theorem append (first : Within scanner front middle) (later : Within middle back next) :
    Within scanner (front ++ back) next := by
  induction first with
  | nil => exact later
  | cons inside step _ ih => exact .cons inside step (ih later)

/-- What is read within a tag may be cut anywhere. -/
theorem split (within : Within scanner (front ++ back) next) :
    ∃ middle, Within scanner front middle ∧ Within middle back next := by
  induction front generalizing scanner with
  | nil => exact ⟨scanner, .nil within.inside, within⟩
  | cons cluster rest ih =>
      cases within with
      | cons inside step later =>
          obtain ⟨middle, first, second⟩ := ih later
          exact ⟨middle, .cons inside step first, second⟩

/-- Scanning goes on behind such clusters. -/
theorem advanceAll (within : Within scanner front next) (start : Nat)
    (back : List (List Char)) :
    scanner.advanceAll false start (front ++ back) =
      next.advanceAll false (start + front.flatten.length) back := by
  induction within generalizing start with
  | nil => rfl
  | cons _ step _ ih =>
      rw [List.cons_append, advanceAll_of_none step, ih, List.flatten_cons, List.length_append,
        Nat.add_assoc]

/-- On a line of such clusters, with others behind them, only those change the depth. -/
theorem feed (within : Within scanner front next) {line : List Char}
    (cut : Text.clusters line = front ++ back) :
    scanner.feed line =
      ((next.advanceAll false 0 back).1.map (·.further front.flatten.length),
        (next.advanceAll false 0 back).2) := by
  rw [feed_of_inside within.inside, cut, within.advanceAll, advanceAll_further]

/-- It does not matter over how many lines such clusters go. -/
theorem over_lines (within : Within scanner front next) (written : Written lines front back) :
    scanner.transitions lines = (next.advanceAll false 0 back).1.map DepthChange.transition ∧
      scanner.after lines = (next.advanceAll false 0 back).2 := by
  induction written generalizing scanner with
  | last cut =>
      rw [transitions, transitions, after, List.foldl_cons, List.foldl_nil, within.feed cut,
        List.map_map, List.append_nil]
      exact ⟨rfl, rfl⟩
  | line _ ih =>
      obtain ⟨middle, first, second⟩ := within.split
      have passed := first.feed (List.append_nil _).symm
      obtain ⟨changes, last⟩ := ih second
      rw [transitions, after, List.foldl_cons, passed]
      exact ⟨changes, last⟩

end Within

section Inside

variable {element : String} {depth : Int} {tag : List Char} {quote : Char}

/-- Within a value a scanner stays as it is until the quote. -/
theorem within_value {content : List (List Char)} (absent : [quote] ∉ content) :
    Within ⟨element, depth, .insideQuotedValue tag quote⟩ content
      ⟨element, depth, .insideQuotedValue tag quote⟩ := by
  induction content with
  | nil => exact .nil ScanState.noConfusion
  | cons cluster rest ih =>
      rw [List.mem_cons, not_or] at absent
      exact .cons ScanState.noConfusion (if_neg (Ne.symm absent.1)) (ih absent.2)

/-- The quote leads back into the tag. -/
theorem within_closing : Within ⟨element, depth, .insideQuotedValue tag quote⟩ [[quote]]
    ⟨element, depth, .insideTag (tag ++ [quote])⟩ :=
  .cons ScanState.noConfusion (if_pos rfl) (.nil ScanState.noConfusion)

/-- A quote behind an equals sign begins a value. -/
theorem within_opening (quoted : Roll20.isQuote quote = true) (awaits : awaitsValue tag = true) :
    Within ⟨element, depth, .insideTag tag⟩ [[quote]]
      ⟨element, depth, .insideQuotedValue (tag ++ [quote]) quote⟩ := by
  have found : quote? [quote] = some quote := Roll20.quote?_eq_some.mpr ⟨rfl, quoted⟩
  refine .cons ScanState.noConfusion ?_ (.nil ScanState.noConfusion)
  simp only [advance, found, awaits, ↓reduceIte]

/-- Any other cluster of a tag is held, its closing bracket apart. -/
theorem within_outside {cluster : List Char} (unclosed : cluster ≠ ['>'])
    (unawaited : (quote? cluster).isSome → awaitsValue tag = false) :
    Within ⟨element, depth, .insideTag tag⟩ [cluster]
      ⟨element, depth, .insideTag (tag ++ cluster)⟩ := by
  refine .cons ScanState.noConfusion ?_ (.nil ScanState.noConfusion)
  dsimp only [advance]
  split
  · next found => rw [if_neg (ne_true_of_eq_false (unawaited (by rw [found]; rfl)))]
  · rw [if_neg unclosed]

/-- Of a part only the text outside of values is held. -/
theorem within_span {span : TagSpan} (follows : span.Follows tag) :
    Within ⟨element, depth, .insideTag tag⟩ span.clusters
      ⟨element, depth, .insideTag (tag ++ span.held)⟩ := by
  cases span with
  | outside cluster =>
      rw [TagSpan.held_outside]
      exact within_outside follows.1 follows.2
  | value quote content =>
      obtain ⟨quoted, awaits, closed⟩ := follows
      rw [TagSpan.held_value, ← List.append_assoc]
      exact (within_opening quoted awaits).append ((within_value closed).append within_closing)

/-- The spans of a tag are read within it, with empty values. -/
theorem within_spans {spans : List TagSpan} (parts : Spans tag spans) :
    Within ⟨element, depth, .insideTag tag⟩ (spans.flatMap TagSpan.clusters)
      ⟨element, depth, .insideTag (tag ++ spans.flatMap TagSpan.held)⟩ := by
  induction spans generalizing tag with
  | nil =>
      rw [List.flatMap_nil, List.flatMap_nil, List.append_nil]
      exact .nil ScanState.noConfusion
  | cons span rest ih =>
      rw [List.flatMap_cons, List.flatMap_cons, ← List.append_assoc]
      exact (within_span parts.1).append (ih parts.2)

/-- What is held of parts does not hang on the content of values. -/
theorem held_eq_of_emptied {spans others : List TagSpan}
    (same : spans.map TagSpan.emptied = others.map TagSpan.emptied) :
    spans.flatMap TagSpan.held = others.flatMap TagSpan.held := by
  have held (spans : List TagSpan) : spans.flatMap TagSpan.held =
      (spans.map TagSpan.emptied).flatMap (·.clusters.flatten) := by
    rw [List.flatMap_map]
    rfl
  rw [held, held, same]

/-- What leads from a state to the closing bracket of the tag: parts, behind the rest of a value. -/
def LeadsOn : ScanState → List (List Char) → Prop
  | .outsideTag, _ => True
  | .insideTag tag, front => ∃ spans, Spans tag spans ∧ front = spans.flatMap TagSpan.clusters
  | .insideQuotedValue tag quote, front =>
    ∃ content spans, [quote] ∉ content ∧ Spans (tag ++ [quote]) spans ∧
      front = content ++ [quote] :: spans.flatMap TagSpan.clusters

/-- Within a tag a cluster that does not close it begins a value or stands outside of values. -/
theorem eq_of_advance {cluster : List Char}
    (step : (TagScanner.mk element depth (.insideTag tag)).advance false cluster 0 = (none, middle))
    (inside : middle.state ≠ .outsideTag) :
    (∃ quote, cluster = [quote] ∧ Roll20.isQuote quote = true ∧ awaitsValue tag = true ∧
      middle = ⟨element, depth, .insideQuotedValue (tag ++ [quote]) quote⟩) ∨
    (TagSpan.outside cluster).Follows tag ∧
      middle = ⟨element, depth, .insideTag (tag ++ cluster)⟩ := by
  dsimp only [advance] at step
  split at step
  · next quote found =>
    obtain ⟨rfl, quoted⟩ := Roll20.quote?_eq_some.mp found
    split at step
    · next awaits => exact .inl ⟨quote, rfl, quoted, awaits, (Prod.mk.inj step).2.symm⟩
    · next unawaited =>
      have other : [quote] ≠ ['>'] := by
        rintro same
        obtain rfl := (List.cons.inj same).1
        exact absurd quoted (by decide)
      exact .inr ⟨⟨other, fun _ => Bool.eq_false_iff.mpr unawaited⟩, (Prod.mk.inj step).2.symm⟩
  · next none =>
    split at step
    · have out := closeTag_outside ⟨element, depth, .insideTag tag⟩ tag 0
      rw [step] at out
      exact absurd out inside
    · next other =>
      refine .inr ⟨⟨other, fun some => ?_⟩, (Prod.mk.inj step).2.symm⟩
      rw [none] at some
      cases some

/-- What is read within a tag up to no open value leads on. -/
theorem Within.leadsOn (within : Within scanner front next) {last : List Char}
    (ends : next.state = .insideTag last) : LeadsOn scanner.state front := by
  induction within with
  | nil =>
      rw [ends]
      exact ⟨[], trivial, rfl⟩
  | @cons scanner middle next cluster rest inside step later ih =>
      have leads := ih ends
      obtain ⟨element, depth, state⟩ := scanner
      cases state with
      | outsideTag => trivial
      | insideTag tag =>
          obtain ⟨quote, rfl, quoted, awaits, rfl⟩ | ⟨follows, rfl⟩ :=
            eq_of_advance step later.inside
          · obtain ⟨content, spans, absent, parts, rfl⟩ := leads
            rw [List.append_assoc, ← TagSpan.held_value quote content] at parts
            refine ⟨.value quote content :: spans, ⟨⟨quoted, awaits, absent⟩, parts⟩, ?_⟩
            simp only [List.flatMap_cons, TagSpan.clusters, List.cons_append, List.append_assoc,
              List.nil_append]
          · obtain ⟨spans, parts, rfl⟩ := leads
            rw [← TagSpan.held_outside cluster] at parts
            exact ⟨.outside cluster :: spans, ⟨follows, parts⟩, rfl⟩
      | insideQuotedValue tag quote =>
          dsimp only [advance] at step
          split at step
          · next same =>
            obtain rfl := (Prod.mk.inj step).2
            obtain ⟨spans, parts, rfl⟩ := leads
            exact ⟨[], spans, List.not_mem_nil, parts, by rw [same, List.nil_append]⟩
          · next other =>
            obtain rfl := (Prod.mk.inj step).2
            obtain ⟨content, spans, absent, parts, rfl⟩ := leads
            refine ⟨cluster :: content, spans, ?_, parts, List.cons_append.symm⟩
            exact fun member => (List.mem_cons.mp member).elim (Ne.symm other) absent

/-- A cluster leads on within the tag, or it is the closing bracket. -/
theorem within_or_closing (inside : scanner.state ≠ .outsideTag) (cluster : List Char) :
    (∃ middle, Within scanner [cluster] middle) ∨
      cluster = ['>'] ∧ ∃ tag, scanner.state = .insideTag tag := by
  obtain ⟨element, depth, state⟩ := scanner
  cases state with
  | outsideTag => exact absurd rfl inside
  | insideTag tag =>
      by_cases closing : cluster = ['>']
      · exact .inr ⟨closing, tag, rfl⟩
      refine .inl ?_
      cases found : quote? cluster with
      | none =>
          refine ⟨_, within_outside closing fun some => ?_⟩
          rw [found] at some
          cases some
      | some quote =>
          obtain ⟨rfl, quoted⟩ := Roll20.quote?_eq_some.mp found
          cases awaits : awaitsValue tag with
          | true => exact ⟨_, within_opening quoted awaits⟩
          | false => exact ⟨_, within_outside closing fun _ => awaits⟩
  | insideQuotedValue tag quote =>
      refine .inl ?_
      by_cases closing : cluster = [quote]
      · exact ⟨_, closing ▸ within_closing⟩
      · exact ⟨_, within_value (by simpa using Ne.symm closing)⟩

/-- Clusters lead on within the tag, or somewhere among them is the bracket that closes it. -/
theorem within_or_closed (clusters : List (List Char)) :
    ∀ {scanner : TagScanner}, scanner.state ≠ .outsideTag →
      (∃ next, Within scanner clusters next) ∨
        ∃ front back middle tag, clusters = front ++ ['>'] :: back ∧
          Within scanner front middle ∧ middle.state = .insideTag tag := by
  induction clusters with
  | nil => exact fun {scanner} inside => .inl ⟨scanner, .nil inside⟩
  | cons cluster rest ih =>
      intro scanner inside
      obtain ⟨middle, first⟩ | ⟨rfl, tag, held⟩ := within_or_closing inside cluster
      · obtain ⟨next, later⟩ | ⟨front, back, last, tag, rfl, later, held⟩ := ih first.inside_last
        · exact .inl ⟨next, first.append later⟩
        · exact .inr ⟨cluster :: front, back, last, tag, rfl, first.append later, held⟩
      · exact .inr ⟨[], rest, scanner, tag, rfl, .nil inside, held⟩

/-- Lines stay within a tag, or over some of them stands what leads to its closing bracket. -/
theorem within_or_exists_closing (lines : List (List Char)) :
    ∀ {scanner : TagScanner}, scanner.state ≠ .outsideTag →
      (scanner.transitions lines = [] ∧ (scanner.after lines).state ≠ .outsideTag) ∨
      ∃ done rest front back, lines = done ++ rest ∧ Written done front (['>'] :: back) ∧
        ∃ middle tag, Within scanner front middle ∧ middle.state = .insideTag tag := by
  induction lines with
  | nil => exact fun inside => .inl ⟨rfl, inside⟩
  | cons line rest ih =>
      intro scanner inside
      obtain ⟨next, within⟩ | ⟨front, back, middle, tag, cut, within, held⟩ :=
        within_or_closed (Text.clusters line) inside
      · have passed := within.feed (List.append_nil _).symm
        rw [transitions, after, List.foldl_cons, passed]
        refine (ih within.inside_last).imp id ?_
        rintro ⟨done, rest, front, back, rfl, written, middle, tag, later, held⟩
        exact ⟨line :: done, rest, _, back, rfl, .line written, middle, tag, within.append later,
          held⟩
      · exact .inr ⟨[line], rest, front, back, rfl, .last cut, middle, tag, within, held⟩

/-- Lines stay within a tag, or over some of them stand parts of it and its closing bracket. -/
theorem within_or_exists_spans (held : scanner.state = .insideTag tag)
    (lines : List (List Char)) :
    (scanner.transitions lines = [] ∧ (scanner.after lines).state ≠ .outsideTag) ∨
      ∃ done rest spans back, lines = done ++ rest ∧ Spans tag spans ∧
        Written done (spans.flatMap TagSpan.clusters) (['>'] :: back) := by
  have inside : scanner.state ≠ .outsideTag := by
    rw [held]
    exact ScanState.noConfusion
  refine (within_or_exists_closing lines inside).imp id ?_
  rintro ⟨done, rest, front, back, rfl, written, middle, last, within, ends⟩
  have leads := within.leadsOn ends
  rw [held] at leads
  obtain ⟨spans, parts, rfl⟩ := leads
  exact ⟨done, rest, spans, back, rfl, parts, written⟩

end Inside

/-- Lines over which a tag that `front` begins goes on with its parts, up to its closing bracket and
the clusters behind that on the last line. -/
inductive GoesOn (front : List Char) (spans : List TagSpan) (back : List (List Char)) :
    List (List Char) → Prop
  | intro {rest : List Char} {more : List (List Char)}
      (apart : Text.clusters (front ++ rest) = Text.clusters front ++ Text.clusters rest)
      (written : Written (rest :: more) (spans.flatMap TagSpan.clusters) (['>'] :: back)) :
      GoesOn front spans back ((front ++ rest) :: more)

/-- A line that ends within a tag goes on with other lines as if it had not been broken. -/
theorem transitions_cons_append {front rest : List Char}
    (inside : (scanner.feed front).2.state ≠ .outsideTag)
    (apart : Text.clusters (front ++ rest) = Text.clusters front ++ Text.clusters rest)
    (more : List (List Char)) :
    scanner.transitions ((front ++ rest) :: more) =
        (scanner.feed front).1.map DepthChange.transition ++
          (scanner.feed front).2.transitions (rest :: more) ∧
      scanner.after ((front ++ rest) :: more) = (scanner.feed front).2.after (rest :: more) := by
  rw [transitions, transitions, after, after, List.foldl_cons, List.foldl_cons,
    feed_unbroken inside apart, List.map_append, List.map_map, List.append_assoc]
  exact ⟨rfl, rfl⟩

/-- A tag does to the depth what its text does that is held at the closing bracket. -/
theorem transitions_of_goesOn {front tag : List Char}
    (inside : (scanner.feed front).2.state = .insideTag tag) {spans : List TagSpan}
    (parts : Spans tag spans) (goes : GoesOn front spans back lines) :
    ∃ closing : TagScanner,
      closing = { (scanner.feed front).2 with
        state := .insideTag (tag ++ spans.flatMap TagSpan.held) } ∧
      scanner.transitions lines = (scanner.feed front).1.map DepthChange.transition ++
        (closing.advanceAll false 0 (['>'] :: back)).1.map DepthChange.transition ∧
      scanner.after lines = (closing.advanceAll false 0 (['>'] :: back)).2 := by
  obtain ⟨apart, written⟩ := goes
  have begun : (scanner.feed front).2.state ≠ .outsideTag := by
    rw [inside]
    exact ScanState.noConfusion
  obtain ⟨changes, last⟩ := transitions_cons_append begun apart _
  have held : (scanner.feed front).2 =
      ⟨(scanner.feed front).2.element, (scanner.feed front).2.depth, .insideTag tag⟩ := by
    rw [← inside]
  have within := @within_spans (scanner.feed front).2.element (scanner.feed front).2.depth tag
    spans parts
  rw [← held] at within
  obtain ⟨later, ended⟩ := within.over_lines written
  exact ⟨_, rfl, by rw [changes, later], by rw [last, ended]⟩

/-- Within a value lines are read as if the value were empty. -/
theorem value_unseen {tag : List Char} {quote : Char}
    (held : scanner.state = .insideQuotedValue tag quote) {value : List (List Char)}
    (absent : [quote] ∉ value) (written : Written lines value ([quote] :: back)) :
    scanner.transitions lines = scanner.transitions [quote :: back.flatten] ∧
      scanner.after lines = scanner.after [quote :: back.flatten] ∧
      (back = [] → scanner.transitions lines = [] ∧
        scanner.after lines = { scanner with state := .insideTag (tag ++ [quote]) }) := by
  obtain ⟨element, depth, state⟩ := scanner
  obtain rfl := held
  have empty : Written [quote :: back.flatten] [] ([quote] :: back) :=
    .last written.clusters_flatten
  obtain ⟨changes, last⟩ :=
    (@within_value element depth tag quote value absent).over_lines written
  obtain ⟨emptyChanges, emptyLast⟩ :=
    (@within_value element depth tag quote [] List.not_mem_nil).over_lines empty
  refine ⟨changes.trans emptyChanges.symm, last.trans emptyLast.symm, ?_⟩
  rintro rfl
  have closing := (@within_closing element depth tag quote).advanceAll 0 []
  rw [List.append_nil] at closing
  rw [changes, last, closing]
  exact ⟨rfl, rfl⟩

/-- **Quoted values are not seen.** Within a value all lines up to its quote change no depth, and
are read as if the value were empty. Tags that differ only in the content of their values, over
whatever lines these go, lead through the same depths and to the same state. And every tag that
lines close is made of such parts. -/
theorem quoted_values_unseen (scanner : TagScanner) :
    (∀ {tag : List Char} {quote : Char}, scanner.state = .insideQuotedValue tag quote →
      ∀ {value back lines : List (List Char)}, [quote] ∉ value →
      Written lines value ([quote] :: back) →
      scanner.transitions lines = scanner.transitions [quote :: back.flatten] ∧
        scanner.after lines = scanner.after [quote :: back.flatten] ∧
        (back = [] → scanner.transitions lines = [] ∧
          scanner.after lines = { scanner with state := .insideTag (tag ++ [quote]) })) ∧
    (∀ {front tag : List Char}, (scanner.feed front).2.state = .insideTag tag →
      ∀ {spans others : List TagSpan}, Spans tag spans → Spans tag others →
      spans.map TagSpan.emptied = others.map TagSpan.emptied →
      ∀ {back lines again : List (List Char)}, GoesOn front spans back lines →
      GoesOn front others back again →
      scanner.transitions lines = scanner.transitions again ∧
        scanner.after lines = scanner.after again) ∧
    ∀ {tag : List Char}, scanner.state = .insideTag tag → ∀ lines : List (List Char),
      (scanner.transitions lines = [] ∧ (scanner.after lines).state ≠ .outsideTag) ∨
      ∃ done rest spans back, lines = done ++ rest ∧ Spans tag spans ∧
        Written done (spans.flatMap TagSpan.clusters) (['>'] :: back) := by
  refine ⟨fun held _ _ _ => value_unseen held, ?_, within_or_exists_spans⟩
  intro front tag inside spans others parts otherParts same back lines again goes goesAgain
  obtain ⟨closing, held, changes, last⟩ := transitions_of_goesOn inside parts goes
  obtain ⟨other, otherHeld, otherChanges, otherLast⟩ :=
    transitions_of_goesOn inside otherParts goesAgain
  obtain rfl : closing = other := by rw [held, otherHeld, held_eq_of_emptied same]
  exact ⟨changes.trans otherChanges.symm, last.trans otherLast.symm⟩

/-- A tag with a value over two lines, the first of which would close a `div` and the second of
which begins like a title, opens a `div` as the tag with an empty value does. -/
theorem quoted_values_unseen_tooltip :
    (new "div").transitions ["<div title=".toList ++ "\"</div>".toList, "title='x' <b\">".toList] =
        (new "div").transitions ["<div title=".toList ++ "\"\">".toList] ∧
      (new "div").transitions ["<div title=".toList ++ "\"\">".toList] = [(-1, 0)] ∧
      ((new "div").feed "<div title=\"".toList).2.transitions
        ["</div>".toList, "title='x' <b\"".toList] = [] := by
  have held : ((new "div").feed "<div title=".toList).2.state =
      .insideTag "<div title=".toList := by decide +kernel
  have opened : ((new "div").feed "<div title=\"".toList).2.state =
      .insideQuotedValue "<div title=\"".toList '"' := by decide +kernel
  have value : Written ["</div>".toList, "title='x' <b\"".toList]
      (Text.clusters "</div>".toList ++ Text.clusters "title='x' <b".toList) [['"']] :=
    .line (.last (by decide +kernel))
  have goes : GoesOn "<div title=".toList
      [.value '"' (Text.clusters "</div>".toList ++ Text.clusters "title='x' <b".toList)] []
      ["<div title=".toList ++ "\"</div>".toList, "title='x' <b\">".toList] :=
    .intro (by decide +kernel) (.line (.last (by decide +kernel)))
  have empty : GoesOn "<div title=".toList [.value '"' []] []
      ["<div title=".toList ++ "\"\">".toList] :=
    .intro (by decide +kernel) (.last (by decide +kernel))
  have same (content : List (List Char)) : [TagSpan.value '"' content].map TagSpan.emptied =
      [TagSpan.value '"' []].map TagSpan.emptied := rfl
  have unseen := (quoted_values_unseen (new "div")).2.1 held (by decide +kernel)
    (by decide +kernel) (same _) goes empty
  have passed := (quoted_values_unseen ((new "div").feed "<div title=\"".toList).2).1 opened
    (by decide +kernel) value
  exact ⟨unseen.1, by decide +kernel, (passed.2.2 rfl).1⟩

end TagScanner

end Transcript

end DiceLedger
