import DiceLedger.Proofs.Roll20.TreeCutting
import DiceLedger.Transcript.Roll20.Message

/-! # Every entry of an archive is read on its own

A well-formed archive is cut into one fragment for each child of its wrapper, however it is
broken into lines, and nothing behind the wrapper is read
(`DiceLedger.Transcript.Roll20.read_document`).
-/

namespace DiceLedger

namespace Transcript

namespace Roll20

theorem lowerName_div : lowerName "div" = "div" := by
  rw [← String.toList_inj, lowerName, String.toList_map]
  decide

/-- A run over an archive gives the fragments of its entries, and ends with the wrapper. -/
theorem Cuts.document (document : Document) :
    Cuts .start document.glyphs (document.entries.map Child.fragment) none := by
  have closed (pending : List Char) : Cuts (.at 0 .outsideTag pending)
      (document.closing.1.glyphs ++ Glyph.at .within document.tail) [] none :=
    Cuts.closed document.closing
  have content := @Cuts.entries document.content [] _ _ _ closed
  rw [List.append_nil] at content
  have whole : document.glyphs = document.preamble.flatMap Item.glyphs ++
      (document.opening.1.glyphs ++ (document.content.glyphs ++
        (document.closing.1.glyphs ++ Glyph.at .within document.tail))) := by
    simp only [Document.glyphs, List.append_assoc]
  have start : Cutter.start = .at (-1) .outsideTag [] := by
    rw [Cutter.start, TagScanner.new, lowerName_div]
    rfl
  rw [whole, start]
  exact Cuts.preamble document.preamble (Cuts.wrapper document.opening content)

/-- **Entries are isolated.** A well-formed archive, however it is broken into lines, is read as
the fragments of its wrapper's children, one for each of them in document order; lines that
follow the end of the wrapper are not read. -/
theorem read_document (document : Document) (lines more : List (List Char))
    (broken : document.BrokenInto lines) :
    fragments (lines ++ more) = document.entries.map Child.fragment ∧
      ∀ offset, read offset (lines ++ more) =
        readFragments offset .start (document.entries.map Child.fragment) := by
  have cut : fragments (lines ++ more) = document.entries.map Child.fragment :=
    (Cuts.document document).cutLines lines more broken.written fun line member =>
      ⟨broken.isolated line member, broken.untitled line member⟩
  refine ⟨cut, fun offset => ?_⟩
  rw [read, cut]

/-- The wrapper of a sample archive, its tag broken at a space. -/
def sampleWrapper : OpeningTag :=
  ⟨{ closes := false, first := 'd', more := ['i', 'v'],
     parts := [.bare '\n', .bare ' ', .bare 'a', .bare '=', .quoted '"' ['b']]
     begins := rfl, named := rfl, ended := rfl, quoted := rfl }, rfl⟩

def sampleOpening : OpeningTag :=
  ⟨{ closes := false, first := 'd', more := ['i', 'v'], parts := []
     begins := rfl, named := rfl, ended := rfl, quoted := rfl }, rfl⟩

def sampleClosing : ClosingTag :=
  ⟨{ closes := true, first := 'd', more := ['i', 'v'], parts := []
     begins := rfl, named := rfl, ended := rfl, quoted := rfl }, rfl⟩

/-- A tag with a bracket in a value. -/
def sampleTag : Tag :=
  { closes := false, first := 'b', more := []
    parts := [.bare ' ', .bare 't', .bare '=', .quoted '\'' ['<', '>']]
    begins := rfl, named := rfl, ended := rfl, quoted := rfl }

def sampleDocument : Document where
  preamble := [.text ['\n']]
  opening := sampleWrapper
  content := .div sampleOpening (.item (.tag sampleTag rfl) .empty) sampleClosing
    (.item (.text ['\n']) (.div sampleOpening (.div sampleOpening .empty sampleClosing .empty)
      sampleClosing .empty))
  closing := sampleClosing
  tail := ['<']

/-- Two entries, the second with a `div` in it. -/
theorem read_document_sample :
    fragments (["\n", "<div\n", " a=\"b\"><div><b t='<>'></div>\r\n",
        "<div><div></div></div></div><\n", "<div></div>"].map String.toList) =
      ["<div><b t='<>'></div>", "\n<div><div></div></div>"].map String.toList := by
  have broken : sampleDocument.BrokenInto (["\n", "<div\n", " a=\"b\"><div><b t='<>'></div>\r\n",
      "<div><div></div></div></div><\n"].map String.toList) :=
    ⟨by decide +kernel, by decide +kernel, by decide +kernel⟩
  exact (read_document sampleDocument _ ["<div></div>".toList] broken).1.trans (by decide +kernel)

end Roll20

end Transcript

end DiceLedger
