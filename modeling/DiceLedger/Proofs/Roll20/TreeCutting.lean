import DiceLedger.Proofs.Roll20.TagCutting

/-! # Cutting a tree

A run over a tag leaves the scanner outside of tags again, at a depth that differs only for a
`div`. So a run over a `div` inside of an entry ends at the depth at which it began, with all of
its characters kept (`DiceLedger.Transcript.Roll20.Cuts.content`), and a run over the wrapper's
content gives a fragment for every `div` in it (`DiceLedger.Transcript.Roll20.Cuts.entries`).
-/

namespace DiceLedger

namespace Transcript

namespace Roll20

/-- A cut of `div`s at a depth. -/
def Cutter.at (depth : Int) (state : ScanState) (pending : List Char) : Cutter :=
  ⟨⟨"div", depth, state⟩, pending⟩

/-- Characters that are kept go to the fragment in hand, once the log is open. -/
theorem Cutter.keep_at (depth : Int) (state : ScanState) (pending chars : List Char) :
    (Cutter.at depth state pending).keep chars = .at depth state (held depth pending chars) :=
  rfl

/-- Characters that are passed over change the state of the scanner, and go to the fragment. -/
theorem Cutter.pass_at (depth : Int) (state : ScanState) (pending chars : List Char) :
    (Cutter.at depth state pending).pass chars =
      .at depth (state.pass chars) (held depth pending chars) :=
  rfl

variable {depth : Int} {pending : List Char} {rest : List Glyph} {fragments : List (List Char)}
  {after : Option Cutter}

/-- A run over characters that a state passes, whatever it has collected, with line breaks
between them. -/
theorem Cuts.run {state : ScanState} (place : Place) (chars : List Char)
    (passes : ∀ collected, ∀ c ∈ chars, c ≠ '\n' →
      Passes ⟨"div", depth, state.pass collected⟩ ⟨c, place⟩)
    (cuts : Cuts (.at depth (state.pass (chars.filter (· ≠ '\n'))) (held depth pending chars)) rest
      fragments after) :
    Cuts (.at depth state pending) (Glyph.at place chars ++ rest) fragments after := by
  induction chars generalizing state pending with
  | nil =>
      rw [List.filter_nil, ScanState.pass_nil, held_nil] at cuts
      exact cuts
  | cons c chars ih =>
      have later : ∀ collected, ∀ d ∈ chars, d ≠ '\n' →
          Passes ⟨"div", depth, state.pass collected⟩ ⟨d, place⟩ := fun collected d member =>
        passes collected d (List.mem_cons_of_mem _ member)
      by_cases broken : c = '\n'
      · subst broken
        refine Cuts.lineEnd place ?_
        rw [Cutter.keep_at]
        refine ih later ?_
        rwa [held_held]
      · have here := passes [] c List.mem_cons_self broken
        rw [ScanState.pass_nil] at here
        refine Cuts.pass broken here ?_
        rw [Cutter.pass_at]
        refine ih (fun collected d member inLine => ?_) ?_
        · rw [ScanState.pass_pass]
          exact later _ d member inLine
        · rw [List.filter_cons_of_pos (by simpa using broken)] at cuts
          rwa [ScanState.pass_pass, held_held]

/-- Text outside of tags is kept. -/
theorem Cuts.text (chars : List Char)
    (cuts : Cuts (.at depth .outsideTag (held depth pending chars)) rest fragments after) :
    Cuts (.at depth .outsideTag pending) (Glyph.at .text chars ++ rest) fragments after :=
  Cuts.run .text chars (fun _ _ _ _ => rfl) cuts

/-- A quoted value is kept, brackets and all. -/
theorem Cuts.value {tag value : List Char} {quote : Char} (other : quote ∉ value)
    (cuts : Cuts (.at depth (.insideQuotedValue tag quote) (held depth pending value)) rest
      fragments after) :
    Cuts (.at depth (.insideQuotedValue tag quote) pending) (Glyph.at .within value ++ rest)
      fragments after :=
  Cuts.run .within value (fun _ _ member _ => ⟨rfl, fun same => other (same ▸ member)⟩) cuts

/-- The name of a tag and those of its attributes are kept. -/
theorem Cuts.name {tag name : List Char}
    (plain : ∀ c ∈ name, c ≠ '>' ∧ c ≠ '\n' ∧ isQuote c = false)
    (cuts : Cuts (.at depth (.insideTag (tag ++ name)) (held depth pending name)) rest
      fragments after) :
    Cuts (.at depth (.insideTag tag) pending) (Glyph.at .within name ++ rest) fragments after := by
  have whole : name.filter (· ≠ '\n') = name := by
    rw [List.filter_eq_self]
    exact fun c member => by simpa using (plain c member).2.1
  refine Cuts.run .within name (fun collected c member _ => ?_) (by rwa [whole])
  obtain ⟨noEnd, _, noQuote⟩ := plain c member
  exact ⟨rfl, noEnd, fun quoted => absurd quoted (by simp [noQuote])⟩

/-- A sign that does not change the depth is kept. -/
theorem takeCluster_of_quiet {state next : ScanState} {cluster : List Char}
    (step : TagScanner.advance ⟨"div", depth, state⟩ false cluster 0 =
      (none, ⟨"div", depth, next⟩)) :
    (Cutter.at depth state pending).takeCluster cluster =
      ⟨[], some (.at depth next (held depth pending cluster))⟩ := by
  rw [← Cutter.keep_at, Cutter.takeCluster]
  simp only [Cutter.at, step]

/-- An opening bracket begins a tag. -/
theorem takeCluster_bracket :
    (Cutter.at depth .outsideTag pending).takeCluster ['<'] =
      ⟨[], some (.at depth (.insideTag ['<']) (held depth pending ['<']))⟩ :=
  takeCluster_of_quiet rfl

/-- A quote where a value is awaited opens it. -/
theorem takeCluster_openQuote {tag : List Char} {quote : Char} (quoted : isQuote quote = true)
    (awaits : awaitsValue tag = true) :
    (Cutter.at depth (.insideTag tag) pending).takeCluster [quote] =
      ⟨[], some (.at depth (.insideQuotedValue (tag ++ [quote]) quote)
        (held depth pending [quote]))⟩ := by
  have found := quote?_eq_some.mpr ⟨rfl, quoted⟩
  refine takeCluster_of_quiet ?_
  simp only [TagScanner.advance, found, awaits, ↓reduceIte]

/-- The same quote closes it. -/
theorem takeCluster_closeQuote (tag : List Char) (quote : Char) :
    (Cutter.at depth (.insideQuotedValue tag quote) pending).takeCluster [quote] =
      ⟨[], some (.at depth (.insideTag (tag ++ [quote])) (held depth pending [quote]))⟩ := by
  refine takeCluster_of_quiet ?_
  simp only [TagScanner.advance, ↓reduceIte]

/-- A run over a part of a tag collects what the part does. -/
theorem Cuts.part {tag : List Char} {before : Char} {part : TagPart} (ends : Ends tag before)
    (proper : part.proper before = true)
    (cuts : Cuts (.at depth (.insideTag (tag ++ part.collected))
      (held depth pending (part.glyphs.map Glyph.char))) rest fragments after) :
    Cuts (.at depth (.insideTag tag) pending) (part.glyphs ++ rest) fragments after := by
  cases part with
  | bare c =>
      simp only [TagPart.proper, Bool.and_eq_true, Bool.not_eq_true', decide_eq_true_eq] at proper
      obtain ⟨noEnd, unawaited⟩ := proper
      by_cases broken : c = '\n'
      · subst broken
        refine Cuts.lineEnd .within ?_
        rw [Cutter.keep_at]
        rwa [TagPart.collected, if_pos rfl, List.append_nil] at cuts
      · refine Cuts.pass broken ⟨rfl, noEnd, fun quote => ?_⟩ ?_
        · rw [ends.awaitsValue]
          simpa [quote] using unawaited
        · rw [Cutter.pass_at]
          rwa [TagPart.collected, if_neg broken] at cuts
  | quoted quote value =>
      simp only [TagPart.proper, Bool.and_eq_true, Bool.not_eq_true', decide_eq_true_eq] at proper
      obtain ⟨⟨equals, isQuote⟩, other⟩ := proper
      have awaits : awaitsValue tag = true := by rw [ends.awaitsValue, equals]; rfl
      have sign : isSign quote = true := by rw [isSign, isQuote, Bool.or_true]
      have outside : quote ∉ value := by simpa using other
      have chars : (TagPart.quoted quote value).glyphs.map Glyph.char =
          [quote] ++ value ++ [quote] := by
        rw [TagPart.glyphs, List.map_append, List.map_cons, Glyph.map_char_at]
        rfl
      rw [chars, ← held_held, ← held_held] at cuts
      rw [TagPart.glyphs, List.cons_append, List.cons_append, List.append_assoc]
      refine Cuts.sign sign (takeCluster_openQuote isQuote awaits) (Cuts.value outside ?_)
      refine Cuts.sign sign (takeCluster_closeQuote _ quote) ?_
      rw [List.append_assoc]
      exact cuts

/-- A run over parts of a tag collects what they do. -/
theorem Cuts.parts (parts : List TagPart) :
    ∀ {tag pending : List Char} {before : Char}, Ends tag before →
      wellQuoted before parts = true →
      Cuts (.at depth (.insideTag (tag ++ parts.flatMap TagPart.collected))
        (held depth pending ((parts.flatMap TagPart.glyphs).map Glyph.char))) rest fragments after →
      Cuts (.at depth (.insideTag tag) pending) (parts.flatMap TagPart.glyphs ++ rest) fragments
        after := by
  induction parts with
  | nil =>
      intro tag pending before _ _ cuts
      rwa [List.flatMap_nil, List.flatMap_nil, List.map_nil, List.append_nil, held_nil] at cuts
  | cons part parts ih =>
      intro tag pending before ends quoted cuts
      obtain ⟨proper, further⟩ := Bool.and_eq_true_iff.mp quoted
      rw [List.flatMap_cons, List.append_assoc]
      rw [List.flatMap_cons, List.flatMap_cons, List.map_append, ← List.append_assoc,
        ← held_held] at cuts
      exact Cuts.part ends proper (ih (ends.part proper) further cuts)

/-- The characters of a tag up to its closing bracket. -/
def Tag.front (tag : Tag) : List Char :=
  '<' :: tag.head ++ (tag.parts.flatMap TagPart.glyphs).map Glyph.char

/-- A tag is its front and a closing bracket. -/
theorem Tag.map_char_glyphs (tag : Tag) : tag.glyphs.map Glyph.char = tag.front ++ ['>'] := by
  rw [glyphs, List.map_append, List.map_append, List.map_cons, Glyph.map_char_at]
  rfl

/-- The head of a tag holds neither bracket nor line break nor quote. -/
theorem Tag.head_char (tag : Tag) {c : Char} (member : c ∈ tag.head) :
    c ≠ '>' ∧ c ≠ '\n' ∧ isQuote c = false := by
  rcases List.mem_append.mp member with slash | name
  · split at slash
    · obtain rfl := List.mem_singleton.mp slash
      decide
    · cases slash
  · exact (tag.name_char name).2.2.2

/-- A run over a tag comes to its closing bracket with what the tag collects. -/
theorem Cuts.tag (tag : Tag)
    (cuts : Cuts (.at depth (.insideTag tag.collected) (held depth pending tag.front))
      (⟨'>', .sign⟩ :: rest) fragments after) :
    Cuts (.at depth .outsideTag pending) (tag.glyphs ++ rest) fragments after := by
  have whole : tag.glyphs ++ rest = ⟨'<', .sign⟩ :: (Glyph.at .within tag.head ++
      (tag.parts.flatMap TagPart.glyphs ++ ⟨'>', .sign⟩ :: rest)) := by
    simp only [Tag.glyphs, List.cons_append, List.append_assoc, List.nil_append]
  have front : held depth pending tag.front = held depth
      (held depth (held depth pending ['<']) tag.head)
      ((tag.parts.flatMap TagPart.glyphs).map Glyph.char) := by
    rw [held_held, held_held]
    rfl
  rw [front] at cuts
  rw [whole]
  refine Cuts.sign rfl takeCluster_bracket (Cuts.name (fun c member => tag.head_char member) ?_)
  exact Cuts.parts tag.parts tag.ends_head tag.quoted cuts

/-- The bracket of a tag that changes no depth is kept like text. -/
theorem takeCluster_end_of_none {tag : List Char} (none : depthStep? "div" tag = none) :
    (Cutter.at depth (.insideTag tag) pending).takeCluster ['>'] =
      ⟨[], some (.at depth .outsideTag (held depth pending ['>']))⟩ := by
  refine takeCluster_of_quiet ?_
  simp only [TagScanner.advance, TagScanner.closeTag, none]
  rfl

/-- The bracket of a tag that changes the depth opens the log, ends an entry, ends the log, or is
kept. -/
theorem takeCluster_end_of_some {tag : List Char} {delta : Int}
    (step : depthStep? "div" tag = some delta) :
    (Cutter.at depth (.insideTag tag) pending).takeCluster ['>'] =
      if depth + delta < 0 then ⟨[], none⟩
      else if depth < 0 then ⟨[], some (.at (depth + delta) .outsideTag [])⟩
      else if depth = 1 && depth + delta = 0 then
        ⟨[pending ++ ['>']], some (.at (depth + delta) .outsideTag [])⟩
      else ⟨[], some (.at (depth + delta) .outsideTag (pending ++ ['>']))⟩ := by
  have advanced : TagScanner.advance ⟨"div", depth, .insideTag tag⟩ false ['>'] 0 =
      (some ⟨0, depth, depth + delta⟩, ⟨"div", depth + delta, .outsideTag⟩) := by
    simp only [TagScanner.advance, TagScanner.closeTag, step]
    rfl
  rw [Cutter.takeCluster]
  simp only [Cutter.at, advanced]

/-- Tags of other elements change no depth. -/
theorem Tag.depthStep?_other {tag : Tag} (other : tag.isDiv = false) :
    depthStep? "div" tag.collected = none := by
  rw [tag.depthStep?_collected, closesDiv, opensDiv, other]
  rfl

/-- An opening tag goes one level down. -/
theorem Tag.depthStep?_opening (tag : OpeningTag) : depthStep? "div" tag.1.collected = some 1 := by
  have opens := tag.2
  have closes : tag.1.closesDiv = false := by
    simp only [opensDiv, Bool.and_eq_true, Bool.not_eq_true'] at opens
    rw [closesDiv, opens.1.2, Bool.and_false]
  rw [tag.1.depthStep?_collected, closes, opens]
  rfl

/-- A closing tag goes one level up. -/
theorem Tag.depthStep?_closing (tag : ClosingTag) :
    depthStep? "div" tag.1.collected = some (-1) := by
  rw [tag.1.depthStep?_collected, tag.2]
  rfl

/-- A tag of another element is kept. -/
theorem Cuts.other {tag : Tag} (other : tag.isDiv = false)
    (cuts : Cuts (.at depth .outsideTag (held depth pending (tag.glyphs.map Glyph.char))) rest
      fragments after) :
    Cuts (.at depth .outsideTag pending) (tag.glyphs ++ rest) fragments after := by
  refine Cuts.tag tag (Cuts.sign rfl (takeCluster_end_of_none (Tag.depthStep?_other other)) ?_)
  rwa [held_held, ← tag.map_char_glyphs]

/-- A `div` that opens inside of the wrapper is kept. -/
theorem Cuts.opening (tag : OpeningTag) (inside : 0 ≤ depth)
    (cuts : Cuts (.at (depth + 1) .outsideTag (pending ++ tag.1.glyphs.map Glyph.char)) rest
      fragments after) :
    Cuts (.at depth .outsideTag pending) (tag.1.glyphs ++ rest) fragments after := by
  have ended := @takeCluster_end_of_some depth (held depth pending tag.1.front) _ _
    (Tag.depthStep?_opening tag)
  rw [if_neg (by omega), if_neg (by omega), if_neg (by simp; omega)] at ended
  refine Cuts.tag tag.1 (Cuts.sign rfl ended ?_)
  rwa [held_of_nonneg inside, List.append_assoc, ← tag.1.map_char_glyphs]

/-- The wrapper begins: what stands before it is forgotten. -/
theorem Cuts.wrapper (tag : OpeningTag)
    (cuts : Cuts (.at 0 .outsideTag []) rest fragments after) :
    Cuts (.at (-1) .outsideTag pending) (tag.1.glyphs ++ rest) fragments after := by
  have ended := @takeCluster_end_of_some (-1) (held (-1) pending tag.1.front) _ _
    (Tag.depthStep?_opening tag)
  exact Cuts.tag tag.1 (Cuts.sign rfl ended cuts)

/-- A `div` that closes inside of an entry is kept. -/
theorem Cuts.closing (tag : ClosingTag) (inside : 1 < depth)
    (cuts : Cuts (.at (depth - 1) .outsideTag (pending ++ tag.1.glyphs.map Glyph.char)) rest
      fragments after) :
    Cuts (.at depth .outsideTag pending) (tag.1.glyphs ++ rest) fragments after := by
  have ended := @takeCluster_end_of_some depth (held depth pending tag.1.front) _ _
    (Tag.depthStep?_closing tag)
  rw [if_neg (by omega), if_neg (by omega), if_neg (by simp; omega)] at ended
  refine Cuts.tag tag.1 (Cuts.sign rfl ended ?_)
  rwa [held_of_nonneg (by omega), List.append_assoc, ← tag.1.map_char_glyphs]

/-- An entry ends, and its fragment with it. -/
theorem Cuts.entryEnd (tag : ClosingTag) (cuts : Cuts (.at 0 .outsideTag []) rest fragments after) :
    Cuts (.at 1 .outsideTag pending) (tag.1.glyphs ++ rest)
      ((pending ++ tag.1.glyphs.map Glyph.char) :: fragments) after := by
  rw [tag.1.map_char_glyphs, ← List.append_assoc]
  have ended := @takeCluster_end_of_some 1 (held 1 pending tag.1.front) _ _
    (Tag.depthStep?_closing tag)
  exact Cuts.tag tag.1 (Cuts.sign rfl ended cuts)

/-- The wrapper ends, and reading with it. -/
theorem Cuts.closed (tag : ClosingTag) :
    Cuts (.at 0 .outsideTag pending) (tag.1.glyphs ++ rest) [] none := by
  refine Cuts.tag tag.1 (Cuts.wrapperEnd rfl ?_)
  exact takeCluster_end_of_some (Tag.depthStep?_closing tag)

/-- An item that is no element is kept. -/
theorem Cuts.item (item : Item)
    (cuts : Cuts (.at depth .outsideTag (held depth pending (item.glyphs.map Glyph.char))) rest
      fragments after) :
    Cuts (.at depth .outsideTag pending) (item.glyphs ++ rest) fragments after := by
  cases item with
  | text chars =>
      rw [Item.glyphs, Glyph.map_char_at] at cuts
      exact Cuts.text chars cuts
  | tag tag other => exact Cuts.other other cuts

/-- A run over a preamble keeps nothing. -/
theorem Cuts.preamble (items : List Item)
    (cuts : Cuts (.at (-1) .outsideTag []) rest fragments after) :
    Cuts (.at (-1) .outsideTag []) (items.flatMap Item.glyphs ++ rest) fragments after := by
  induction items with
  | nil => exact cuts
  | cons item items ih =>
      rw [List.flatMap_cons, List.append_assoc]
      exact Cuts.item item ih

/-- A run over the content of an entry keeps all of it, and ends at its depth. -/
theorem Cuts.content (content : Content) :
    ∀ {depth : Int} {pending : List Char} {rest : List Glyph} {fragments : List (List Char)}
      {after : Option Cutter}, 0 < depth →
      Cuts (.at depth .outsideTag (pending ++ content.glyphs.map Glyph.char)) rest fragments
        after →
      Cuts (.at depth .outsideTag pending) (content.glyphs ++ rest) fragments after := by
  induction content with
  | empty =>
      intro depth pending rest fragments after _ cuts
      rwa [Content.glyphs, List.map_nil, List.append_nil] at cuts
  | item item content ih =>
      intro depth pending rest fragments after inside cuts
      rw [Content.glyphs, List.map_append, ← List.append_assoc] at cuts
      rw [Content.glyphs, List.append_assoc]
      refine Cuts.item item (ih inside ?_)
      rwa [held_of_nonneg (Int.le_of_lt inside)]
  | div opening inner closing content ihInner ihContent =>
      intro depth pending rest fragments after inside cuts
      rw [Content.glyphs, List.map_append, List.map_append, List.map_append] at cuts
      rw [Content.glyphs, List.append_assoc, List.append_assoc, List.append_assoc]
      refine Cuts.opening opening (Int.le_of_lt inside) (ihInner (by omega) ?_)
      refine Cuts.closing closing (by omega) ?_
      rw [Int.add_sub_cancel]
      refine ihContent inside ?_
      simpa only [List.append_assoc] using cuts

/-- **A run over the content of the wrapper gives a fragment for every child of it**, from the
end of the child before to the child's own. -/
theorem Cuts.entries (content : Content) :
    ∀ {before : List Glyph} {rest : List Glyph} {fragments : List (List Char)}
      {after : Option Cutter},
      (∀ pending, Cuts (.at 0 .outsideTag pending) rest fragments after) →
      Cuts (.at 0 .outsideTag (before.map Glyph.char)) (content.glyphs ++ rest)
        ((content.children before).map Child.fragment ++ fragments) after := by
  induction content with
  | empty => exact fun cuts => cuts _
  | item item content ih =>
      intro before rest fragments after cuts
      have further := @ih (before ++ item.glyphs) _ _ _ cuts
      rw [List.map_append] at further
      rw [Content.glyphs, List.append_assoc]
      exact Cuts.item item further
  | div opening inner closing content _ ihContent =>
      intro before rest fragments after cuts
      have fragment : Child.fragment ⟨before, opening.1.glyphs ++ inner.glyphs ++
          closing.1.glyphs⟩ = before.map Glyph.char ++ opening.1.glyphs.map Glyph.char ++
          inner.glyphs.map Glyph.char ++ closing.1.glyphs.map Glyph.char := by
        simp only [Child.fragment, List.map_append, List.append_assoc]
      rw [Content.glyphs, List.append_assoc, List.append_assoc, List.append_assoc,
        Content.children, List.map_cons, List.cons_append, fragment]
      refine Cuts.opening opening (Int.le_refl 0) (Cuts.content inner (by decide) ?_)
      exact Cuts.entryEnd closing (@ihContent [] _ _ _ cuts)

end Roll20

end Transcript

end DiceLedger
