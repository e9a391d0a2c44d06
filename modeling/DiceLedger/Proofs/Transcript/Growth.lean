import DiceLedger.Proofs.Transcript.Answers
import DiceLedger.Transcript.Format

/-! # Transcripts that grow

A transcript that has grown is read as before, and goes on from there
(`DiceLedger.Transcript.Format.read_grows`): no reader looks ahead, or gives at the end of a
transcript what it holds for the next line. So a post keeps its identifier, by which it is known
when the transcript is read again.
-/

namespace DiceLedger

namespace Transcript

namespace Roll20

/-- The cut after lines; none when the wrapper ended. -/
def Cutter.after : Cutter → List (List Char) → Option Cutter
  | cutter, [] => some cutter
  | cutter, line :: rest => (cutter.cutLine line).after.bind fun next => next.after rest

/-- Lines are cut as if none followed, and the cutter goes on with those that do. -/
theorem Cutter.cutLines_append (lines more : List (List Char)) :
    ∀ cutter : Cutter, cutter.cutLines (lines ++ more) =
      cutter.cutLines lines ++
        ((cutter.after lines).map fun next => next.cutLines more).getD [] := by
  induction lines with
  | nil => exact fun _ => rfl
  | cons line rest ih =>
      intro cutter
      rw [List.cons_append, cutLines, cutLines, Cutter.after]
      cases cutter.cutLine line with
      | mk fragments after =>
          cases after with
          | none => exact (List.append_nil _).symm
          | some next =>
              simp only [Option.bind_some, ih next, List.append_assoc]

/-- What stands between the last fragment and the end is held for the next fragment. -/
theorem fragments_append (lines more : List (List Char)) :
    fragments lines <+: fragments (lines ++ more) := by
  rw [fragments, fragments, Cutter.cutLines_append]
  exact List.prefix_append _ _

/-- Behind an interruption nothing is read, whatever follows. -/
theorem readFragments_append {offset : Option Int} (fragments more : List (List Char)) :
    ∀ carried : Carried, readFragments offset carried fragments <+:
      readFragments offset carried (fragments ++ more) := by
  induction fragments with
  | nil => exact fun carried => List.nil_prefix
  | cons fragment rest ih =>
      intro carried
      rw [List.cons_append, readFragments, readFragments]
      dsimp only
      split
      · exact List.prefix_rfl
      · exact List.cons_prefix_cons.mpr ⟨rfl, ih _⟩

/-- More lines add to what is read. -/
theorem read_append (offset : Option Int) (lines more : List (List Char)) :
    read offset lines <+: read offset (lines ++ more) := by
  obtain ⟨later, whole⟩ := fragments_append lines more
  rw [read, read, ← whole]
  exact readFragments_append _ later _

end Roll20

namespace FantasyGrounds

/-- The lines of the fragment in progress after lines, reversed. -/
def heldAfter : List (List Char) → List (List Char) → List (List Char)
  | held, [] => held
  | held, line :: rest =>
    let line := withoutLineEnd line
    if endsFragment line then heldAfter [] rest else heldAfter (line :: held) rest

/-- Lines are joined to fragments as if none followed, but for those that are held. -/
theorem fragmentsAfter_append (lines more : List (List Char)) :
    ∀ held : List (List Char), fragmentsAfter held (lines ++ more) =
      fragmentsAfter held lines ++ fragmentsAfter (heldAfter held lines) more := by
  induction lines with
  | nil => exact fun _ => rfl
  | cons line rest ih =>
      intro held
      rw [List.cons_append, fragmentsAfter, fragmentsAfter, heldAfter]
      split
      · rw [ih, List.cons_append]
      · exact ih _

/-- Fragments are read as if none followed, and the reader goes on with those that do. -/
theorem readFragments_append {offset : Option Int} (fragments more : List (List Char)) :
    ∀ state : State, readFragments offset state (fragments ++ more) =
      readFragments offset state fragments ++
        readFragments offset
          (fragments.foldl (fun state fragment => (readFragment offset state fragment).2) state)
          more := by
  induction fragments with
  | nil => exact fun _ => rfl
  | cons fragment rest ih =>
      intro state
      simp only [List.cons_append, readFragments, List.foldl_cons, ih]

/-- More lines add to what is read. -/
theorem read_append (offset : Option Int) (lines more : List (List Char)) :
    read offset lines <+: read offset (lines ++ more) := by
  rw [read, read, fragments, fragments, fragmentsAfter_append, readFragments_append]
  exact List.prefix_append _ _

end FantasyGrounds

/-- What asking until the end gives of entries is the beginning of what more of them give. -/
theorem drain_prefix {entries more : List Entry} (grown : entries <+: more) :
    drain entries <+: drain more := by
  obtain ⟨later, rfl⟩ := grown
  rw [drain_append]
  exact List.prefix_append _ _

theorem posts_prefix {entries more : List Entry} (grown : entries <+: more) :
    posts entries <+: posts more := by
  obtain ⟨later, rfl⟩ := grown
  rw [posts_append]
  exact List.prefix_append _ _

/-- **A growing transcript never changes what has been read of it.** Whatever lines follow, the
entries are those of the lines before, and more behind them; so asking until the end gives the
same posts first, each with its identifier, sender, time, content and rolls, and the same faults
between them. -/
theorem Format.read_grows (format : Format) (offset : Option Int)
    (lines more : List (List Char)) :
    format.read offset lines <+: format.read offset (lines ++ more) ∧
      drain (format.read offset lines) <+: drain (format.read offset (lines ++ more)) ∧
      posts (format.read offset lines) <+: posts (format.read offset (lines ++ more)) := by
  have grown : format.read offset lines <+: format.read offset (lines ++ more) := by
    cases format with
    | foundry =>
        rw [Format.read, Format.read, Foundry.read, Foundry.read, List.map_append]
        exact List.prefix_append _ _
    | roll20 => exact Roll20.read_append offset lines more
    | fantasyGrounds => exact FantasyGrounds.read_append offset lines more
  exact ⟨grown, drain_prefix grown, posts_prefix grown⟩

end Transcript

end DiceLedger
