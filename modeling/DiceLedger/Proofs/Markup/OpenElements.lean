import DiceLedger.Markup.Tree

/-! # Elements that are still open

A tree in progress is finished by placing the pending text and closing all open elements around it
(`DiceLedger.Markup.Builder.finish_eq`). Elements that are closed by then do not hang on that text
(`DiceLedger.Markup.find?_enclose`), and of the open ones neither the names nor the attributes do
(`DiceLedger.Markup.attribute?_enclose`).
-/

namespace DiceLedger

namespace Markup

open Node (elementsOfAll textsOfAll)

/-- Nodes with open elements around them, the outermost first. -/
def enclose : List OpenElement → List Node → List Node
  | [], nodes => nodes
  | outer :: inner, nodes =>
    [.element outer.name outer.attributes (outer.content.reverse ++ enclose inner nodes)]

/-- The innermost element encloses the nodes first. -/
theorem enclose_concat (outer : List OpenElement) (inner : OpenElement) (nodes : List Node) :
    enclose (outer ++ [inner]) nodes =
      enclose outer [.element inner.name inner.attributes (inner.content.reverse ++ nodes)] := by
  induction outer with
  | nil => rfl
  | cons first outer ih => rw [List.cons_append, enclose, enclose, ih]

namespace Builder

variable (builder : Builder)

/-- The tree without the text that is pending. -/
def tree : List Node := builder.finished.reverse ++ enclose builder.openElements.reverse []

/-- A node is placed behind all that the innermost element holds. -/
theorem tree_place (node : Node) :
    (builder.place node).tree =
      builder.finished.reverse ++ enclose builder.openElements.reverse [node] := by
  obtain ⟨openElements, finished, pending, closedEarly⟩ := builder
  cases openElements with
  | nil => simp [place, tree, enclose]
  | cons innermost others => simp [place, tree, enclose_concat]

/-- Placing a node closes no element. -/
theorem length_openElements_place (node : Node) :
    (builder.place node).openElements.length = builder.openElements.length := by
  unfold place
  split
  · rfl
  · next same => rw [same]; rfl

/-- Closing the innermost element leaves the tree as it is. -/
theorem tree_closeInnermost : builder.closeInnermost.tree = builder.tree := by
  unfold closeInnermost
  split
  · rfl
  · next innermost others same =>
    rw [tree_place, tree, same, List.reverse_cons, enclose_concat, List.append_nil]

/-- Closing the innermost element leaves one fewer open. -/
theorem length_openElements_closeInnermost :
    builder.closeInnermost.openElements.length = builder.openElements.length - 1 := by
  unfold closeInnermost
  split
  · next same => rw [same]; rfl
  · next same => rw [length_openElements_place, same]; rfl

/-- When all elements are closed, all of the tree is finished. -/
theorem finished_closeMany {count : Nat} (all : builder.openElements.length = count) :
    (closeMany count builder).finished.reverse = builder.tree := by
  induction count generalizing builder with
  | zero =>
      rw [tree, List.length_eq_zero_iff.mp all]
      exact (List.append_nil _).symm
  | succ count ih =>
      have fewer := builder.length_openElements_closeInnermost
      rw [all] at fewer
      exact (ih _ fewer).trans builder.tree_closeInnermost

/-- The text that is placed last. -/
def lastTexts : List Node :=
  if builder.pending.isEmpty then []
  else [.text builder.plainKind (builder.reduced builder.pending.reverse)]

/-- A tree is finished by closing what is open around the text that is placed last. -/
theorem finish_eq :
    builder.finish =
      builder.finished.reverse ++ enclose builder.openElements.reverse builder.lastTexts := by
  rw [finish, finished_closeMany _ rfl, flush, lastTexts]
  split
  · rfl
  · exact builder.tree_place _

/-- A piece of text at the end holds no elements. -/
theorem elementsOfAll_lastTexts : elementsOfAll builder.lastTexts = [] := by
  unfold lastTexts
  split <;> rfl

end Builder

theorem elementsOfAll_append (first later : List Node) :
    elementsOfAll (first ++ later) = elementsOfAll first ++ elementsOfAll later := by
  induction first with
  | nil => rfl
  | cons node first ih =>
      rw [List.cons_append, elementsOfAll, elementsOfAll, ih, List.append_assoc]

theorem textsOfAll_append (first later : List Node) :
    textsOfAll (first ++ later) = textsOfAll first ++ textsOfAll later := by
  induction first with
  | nil => rfl
  | cons node first ih => rw [List.cons_append, textsOfAll, textsOfAll, ih, List.append_assoc]

/-- An element that encloses others stands in front of them. -/
theorem elementsOfAll_enclose (before : List Node) (outer : OpenElement)
    (inner : List OpenElement) (nodes : List Node) :
    elementsOfAll (before ++ enclose (outer :: inner) nodes) =
      elementsOfAll before ++
        .element outer.name outer.attributes (outer.content.reverse ++ enclose inner nodes) ::
          elementsOfAll (outer.content.reverse ++ enclose inner nodes) := by
  rw [elementsOfAll_append, enclose, elementsOfAll, elementsOfAll, Node.elements, List.append_nil]

/-- All texts before the last ones stand there whatever the last ones are. -/
theorem exists_textsOfAll_enclose (before : List Node) (opened : List OpenElement) :
    ∃ front, ∀ nodes, textsOfAll (before ++ enclose opened nodes) = front ++ textsOfAll nodes := by
  induction opened generalizing before with
  | nil => exact ⟨textsOfAll before, textsOfAll_append before⟩
  | cons outer inner ih =>
      obtain ⟨front, texts⟩ := ih outer.content.reverse
      refine ⟨textsOfAll before ++ front, fun nodes => ?_⟩
      rw [textsOfAll_append, enclose, textsOfAll, textsOfAll, Node.texts, texts, List.append_nil,
        List.append_assoc]

/-- Whether the first element of a name is one of the open ones, which stand behind `before`, the
outermost first. -/
def isFirstOpen (name : String) : List Node → List OpenElement → Bool
  | _, [] => false
  | before, outer :: inner =>
    ((elementsOfAll before).find? (·.hasName name)).isNone &&
      (outer.name = name || isFirstOpen name outer.content.reverse inner)

section Search

variable {name : String} {nodes others : List Node}

/-- The first element of a name does not hang on what is placed last, unless it is open. -/
theorem find?_enclose (same : elementsOfAll nodes = elementsOfAll others) {before : List Node}
    {opened : List OpenElement} (closed : isFirstOpen name before opened = false) :
    (elementsOfAll (before ++ enclose opened nodes)).find? (·.hasName name) =
      (elementsOfAll (before ++ enclose opened others)).find? (·.hasName name) := by
  induction opened generalizing before with
  | nil => rw [enclose, enclose, elementsOfAll_append, elementsOfAll_append, same]
  | cons outer inner ih =>
      rw [elementsOfAll_enclose, elementsOfAll_enclose, List.find?_append, List.find?_append]
      cases earlier : (elementsOfAll before).find? (·.hasName name) with
      | some first => rfl
      | none =>
          rw [isFirstOpen, earlier, Option.isNone_none, Bool.true_and,
            Bool.or_eq_false_iff] at closed
          obtain ⟨different, later⟩ := closed
          have other : ¬outer.name = name := of_decide_eq_false different
          rw [Option.none_or, Option.none_or, List.find?_cons_of_neg, List.find?_cons_of_neg]
          · exact ih later
          · simpa [Node.hasName] using other
          · simpa [Node.hasName] using other

/-- What is enclosed does not matter for attributes, but for its own elements. -/
theorem attribute?_enclose (same : elementsOfAll nodes = elementsOfAll others) (key : String)
    (before : List Node) (opened : List OpenElement) :
    ((elementsOfAll (before ++ enclose opened nodes)).find? (·.hasName name)).map
        (·.attribute? key) =
      ((elementsOfAll (before ++ enclose opened others)).find? (·.hasName name)).map
        (·.attribute? key) := by
  induction opened generalizing before with
  | nil => rw [enclose, enclose, elementsOfAll_append, elementsOfAll_append, same]
  | cons outer inner ih =>
      rw [elementsOfAll_enclose, elementsOfAll_enclose, List.find?_append, List.find?_append]
      cases (elementsOfAll before).find? (·.hasName name) with
      | some first => rfl
      | none =>
          rw [Option.none_or, Option.none_or, List.find?_cons, List.find?_cons]
          by_cases named : outer.name = name
          · simp [Node.hasName, named, Node.attribute?]
          · simpa [Node.hasName, named] using ih outer.content.reverse

end Search

namespace Builder

variable (builder : Builder)

/-- Whether the first element of a name is still open. -/
def leavesOpen (name : String) : Bool :=
  isFirstOpen name builder.finished.reverse builder.openElements.reverse

/-- One more text changes the last texts alone. -/
theorem finish_take_text (content : List Char) :
    (builder.take (.text content)).finish =
      builder.finished.reverse ++
        enclose builder.openElements.reverse (builder.take (.text content)).lastTexts :=
  (builder.take (.text content)).finish_eq

/-- Text at the end changes no element of a name that is not left open. -/
theorem find?_finish_take {name : String} (closed : builder.leavesOpen name = false)
    (content : List Char) :
    (elementsOfAll (builder.take (.text content)).finish).find? (·.hasName name) =
      (elementsOfAll builder.finish).find? (·.hasName name) := by
  rw [finish_take_text, finish_eq]
  exact find?_enclose ((elementsOfAll_lastTexts _).trans (elementsOfAll_lastTexts _).symm) closed

/-- Text at the end changes no attribute of any element. -/
theorem attribute?_finish_take (name key : String) (content : List Char) :
    ((elementsOfAll (builder.take (.text content)).finish).find? (·.hasName name)).map
        (·.attribute? key) =
      ((elementsOfAll builder.finish).find? (·.hasName name)).map (·.attribute? key) := by
  rw [finish_take_text, finish_eq]
  exact attribute?_enclose ((elementsOfAll_lastTexts _).trans (elementsOfAll_lastTexts _).symm)
    key _ _

/-- The last text of all is the one that was added, behind what was pending. -/
theorem getLast?_texts_finish_take {content : List Char} (nonempty : content ≠ []) :
    ∃ kind, (textsOfAll (builder.take (.text content)).finish).getLast? =
      some (kind, builder.reduced (builder.pending.reverse ++ content)) := by
  have pending : (content.reverse ++ builder.pending).isEmpty = false := by
    refine List.isEmpty_eq_false_iff.mpr fun none => nonempty ?_
    exact List.reverse_eq_nil_iff.mp (List.append_eq_nil_iff.mp none).1
  obtain ⟨front, texts⟩ :=
    exists_textsOfAll_enclose builder.finished.reverse builder.openElements.reverse
  refine ⟨builder.plainKind, ?_⟩
  rw [finish_take_text, texts, lastTexts, take, pending, List.reverse_append,
    List.reverse_reverse]
  exact List.getLast?_concat

end Builder

end Markup

end DiceLedger
