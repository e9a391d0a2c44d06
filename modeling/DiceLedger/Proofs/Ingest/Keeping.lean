import DiceLedger.Proofs.FantasyGrounds.Numbering
import DiceLedger.Proofs.Ingest.Repeated
import DiceLedger.Proofs.Roll20.CarryForward
import DiceLedger.Transcript.Format

/-! # Which posts of a transcript the store keeps

What the store cannot hold in its columns it refuses, or passes over without a word. A post is kept
exactly when its identifier, its sender and its formulas are made of characters, its content is such
a text, a truth value, or a number that is one and fits, its totals are numbers, and its dice fit 64
bits (`DiceLedger.Store.isSaved_iff_kept`). No reader checks this. Only Foundry's hands on contents
that are no text, and texts with a half that stands alone for a character; Fantasy Grounds' hands on
no dice at all; but any of them may hand on a total that is no number
(`DiceLedger.Ingest.read_posts_saved_iff_kept`).
-/

namespace DiceLedger

open Transcript (Entry Format posts)

namespace Transcript

namespace Roll20

/-- A roll that outcomes are dealt to has a formula of characters. -/
theorem isPlain_of_dealRoll {formula : String} {outcomes : List Int} {total : Binary64}
    {roll : Roll} (dealt : dealRoll formula outcomes total = .ok roll) :
    roll.formula.isPlain = true := by
  unfold dealRoll at dealt
  split at dealt
  · cases dealt
  · next built =>
    obtain rfl := Except.ok.inj dealt
    unfold Dice.buildRoll at built
    split at built
    · cases built
    · obtain ⟨dice, -, rfl⟩ := Option.map_eq_some_iff.mp (Except.ok.inj built)
      rfl
  · cases dealt

/-- The roll of an entry has a formula of characters. -/
theorem isPlain_of_plainRoll {message : Markup.Node} {roll : Roll}
    (shown : plainRoll message = .ok roll) : roll.formula.isPlain = true := by
  simp only [plainRoll] at shown
  split at shown
  · split at shown
    · exact isPlain_of_dealRoll shown
    · cases shown
  · cases shown

/-- A roll within the text of an entry has a formula of characters. -/
theorem isPlain_of_inlineRoll {element : Markup.Node} {roll : Roll}
    (shown : inlineRoll element = .ok (some roll)) : roll.formula.isPlain = true := by
  simp only [inlineRoll] at shown
  split at shown
  · cases shown
  split at shown
  · cases shown
  split at shown
  · cases shown
  split at shown
  · cases shown
  · next head _ _ _ _ _ outcomes _ =>
    obtain ⟨found, dealt, same⟩ := Except.map_eq_ok.mp shown
    obtain rfl := Option.some.inj same
    exact isPlain_of_dealRoll dealt

/-- The formulas that an entry shows are read off its text. -/
theorem isPlain_of_messageRolls {message : Markup.Node} {rolls : List Roll}
    (told : messageRolls message = .ok rolls) :
    ∀ roll ∈ rolls, roll.formula.isPlain = true := by
  obtain ⟨first, shown, told⟩ := Except.bind_eq_ok.mp told
  obtain ⟨inline, each, told⟩ := Except.bind_eq_ok.mp told
  obtain rfl := Except.ok.inj told
  intro roll member
  rcases List.mem_append.mp member with here | there
  · rw [shownRoll] at shown
    split at shown
    · obtain ⟨found, read, rfl⟩ := Except.map_eq_ok.mp shown
      obtain rfl := List.mem_singleton.mp here
      exact isPlain_of_plainRoll read
    · obtain rfl := Except.ok.inj shown
      cases here
  · obtain ⟨answer, held, rfl⟩ := List.mem_filterMap.mp there
    obtain ⟨element, -, read⟩ := Except.exists_of_mem_of_mapM_eq_ok each _ held
    exact isPlain_of_inlineRoll read

/-- The texts of a post of Roll20 are made of characters, and its content is one of them. -/
theorem plain_of_mem_read {offset : Option Int} {lines : List (List Char)} {post : Post}
    (member : post ∈ posts (read offset lines)) : post.Plain := by
  obtain ⟨entry, held, given⟩ := mem_posts.mp member
  obtain ⟨place, here⟩ := List.getElem?_of_mem held
  obtain ⟨fragment, carried, -, rfl⟩ := exists_readFragment_of_getElem? here
  obtain ⟨message, id, name, time, rolls, -, -, -, -, told, made⟩ := readFragment_eq_post given
  simp only [messagePost] at made
  split at made
  · cases made
  · obtain rfl := Option.some.inj made
    exact ⟨rfl, rfl, ⟨_, rfl⟩, isPlain_of_messageRolls told⟩

end Roll20

namespace FantasyGrounds

/-- Every entry of a log is a fragment that was read in some state. -/
theorem exists_of_mem_readFragments {offset : Option Int} {state : State}
    {fragments : List (List Char)} {entry : Entry}
    (member : entry ∈ readFragments offset state fragments) :
    ∃ state fragment, entry = (readFragment offset state fragment).1 := by
  induction fragments generalizing state with
  | nil => cases member
  | cons fragment rest ih =>
      rcases List.mem_cons.mp member with first | later
      · exact ⟨state, fragment, first⟩
      · exact ih later

/-- A roll that is annotated has a formula of characters, and no dice. -/
theorem readAnnotation?_plain {text : List Char} {roll : Roll}
    (read : readAnnotation? text = some roll) :
    roll.formula.isPlain = true ∧ roll.dice = [] := by
  unfold readAnnotation? at read
  obtain ⟨inner, _, read⟩ := Option.bind_eq_some_iff.mp read
  split at read
  · obtain ⟨outcome, _, read⟩ := Option.bind_eq_some_iff.mp read
    obtain rfl := Option.some.inj read
    exact ⟨rfl, rfl⟩
  · cases read

/-- The roll of an utterance has a formula of characters, and no dice. -/
theorem utterance?_roll_plain {nodes : List Markup.Node} {font : Markup.Node}
    {utterance : Utterance} (said : utterance? nodes font = some utterance) :
    ∀ roll ∈ utterance.roll, roll.formula.isPlain = true ∧ roll.dice = [] := by
  simp only [utterance?] at said
  split at said
  · cases said
  split at said
  · cases said
  split at said
  · cases said
  split at said
  · next annotation _ =>
    obtain ⟨roll, read, rfl⟩ := Option.map_eq_some_iff.mp said
    intro other member
    obtain rfl := Option.some.inj member
    exact readAnnotation?_plain read
  · split at said
    · cases said
    · obtain rfl := Option.some.inj said
      intro roll member
      cases member

/-- A post of a log is an utterance with a number and a time. -/
theorem exists_utterance {offset : Option Int} {state : State} {fragment : List Char}
    {post : Post} (given : (readFragment offset state fragment).1.outcome = .ok (some post)) :
    ∃ nodes font utterance id time, utterance? nodes font = some utterance ∧
      post = utterance.post id time := by
  obtain ⟨utterance, clock, said, -, same⟩ := utteranceIn?_of_post given
  obtain ⟨nodes, -, spoken⟩ := Option.bind_eq_some_iff.mp said
  obtain ⟨font, -, spoken⟩ := Option.bind_eq_some_iff.mp spoken
  exact ⟨nodes, font, utterance, state.nextId, clock, spoken, same⟩

/-- The texts of a post of Fantasy Grounds are made of characters, its content is one of them, and
its rolls have no dice. -/
theorem plain_and_dice_of_mem_read {offset : Option Int} {lines : List (List Char)}
    {post : Post} (member : post ∈ posts (read offset lines)) :
    post.Plain ∧ ∀ roll ∈ post.rolls, roll.dice = [] := by
  obtain ⟨entry, held, given⟩ := mem_posts.mp member
  obtain ⟨state, fragment, rfl⟩ := exists_of_mem_readFragments held
  obtain ⟨nodes, font, utterance, id, time, said, rfl⟩ := exists_utterance given
  have shown : ∀ roll ∈ (utterance.post id time).rolls,
      roll.formula.isPlain = true ∧ roll.dice = [] := by
    intro roll rolled
    exact utterance?_roll_plain said roll (Option.mem_toList.mp rolled)
  refine ⟨⟨rfl, rfl, ⟨_, rfl⟩, ?_⟩, ?_⟩
  · exact fun roll rolled => (shown roll rolled).1
  · exact fun roll rolled => (shown roll rolled).2

end FantasyGrounds

end Transcript

namespace Store

/-- Saving a post succeeds, and the campaign has its identifier afterwards. -/
def IsSaved (store : Store) (campaign : String) (post : Post) : Prop :=
  ∃ after ids, store.save campaign post = .ok after ∧ after.knownIds campaign = .ok ids ∧
    post.id ∈ ids

/-- The store takes a new post exactly when it can keep it. -/
theorem isSaved_iff_kept {tables : Tables} {campaign : String} {post : Post}
    (absent : Tables.has tables campaign post.id = false) :
    IsSaved ⟨some tables⟩ campaign post ↔ post.Kept := by
  constructor
  · rintro ⟨⟨left⟩, ids, saved, known, member⟩
    -- A row that lacks a value is dropped without a fault, so success alone says nothing.
    cases left with
    | none => cases known
    | some later =>
        obtain rfl := Except.ok.inj known
        exact kept_of_save_eq_ok absent saved ((Tables.has_iff_mem _ _ _).mpr member)
  · intro kept
    refine ⟨_, _, save_of_kept tables campaign post kept, rfl, ?_⟩
    exact (Tables.has_iff_mem _ _ _).mp (Tables.offered_has_self tables campaign post)

end Store

namespace Ingest

open Store (Tables.has Tables.offeredAll_has)

/-- **A new post of a reader is stored exactly when the tables can hold it.** Of the posts that they
cannot hold, those with contents that are no text, or with texts that are not made of characters,
come from Foundry alone, and those with dice not from Fantasy Grounds. When all posts up to the
first fault can be held, an ingestion does not end at the store, counts as saved the rows that are
new, and leaves no post out. -/
theorem read_posts_saved_iff_kept (format : Format) (offset : Option Int)
    (lines : List (List Char)) (tables : Tables) (campaign : String) :
    (∀ post ∈ posts (format.read offset lines), Tables.has tables campaign post.id = false →
      (Store.IsSaved ⟨some tables⟩ campaign post ↔ post.Kept) ∧
        (format ≠ .foundry → post.Plain) ∧
        (format = .fantasyGrounds → ∀ roll ∈ post.rolls, roll.dice = [])) ∧
    ((∀ post ∈ postsBeforeFault (format.read offset lines), post.Kept) →
      ∃ later counts,
        (run ⟨some tables⟩ campaign (format.read offset lines)).result =
          (⟨some later⟩,
            match firstFault? (format.read offset lines) with
            | none => .ok counts
            | some fault => .error (.read fault)) ∧
        counts.saved + tables.posts.length = later.posts.length ∧
        ∀ post ∈ postsBeforeFault (format.read offset lines),
          Tables.has later campaign post.id = true) := by
  refine ⟨?_, ?_⟩
  · intro post member absent
    refine ⟨Store.isSaved_iff_kept absent, ?_, ?_⟩
    · intro other
      cases format with
      | foundry => exact absurd rfl other
      | roll20 => exact Transcript.Roll20.plain_of_mem_read member
      | fantasyGrounds => exact (Transcript.FantasyGrounds.plain_and_dice_of_mem_read member).1
    · rintro rfl
      exact (Transcript.FantasyGrounds.plain_and_dice_of_mem_read member).2
  · intro kept
    obtain ⟨counts, ended, counted⟩ := run_of_kept tables campaign (format.read offset lines) kept
    exact ⟨_, counts, ended, counted, Tables.offeredAll_has tables campaign _⟩

/-- A record that says something, and one whose content is a list. -/
def plainLine : List Char :=
  "\x7b\"_id\":1,\"speaker\":\x7b\"alias\":1\x7d,\"timestamp\":0,\"content\":\"hi\"\x7d".toList
def listLine : List Char :=
  "\x7b\"_id\":1,\"speaker\":\x7b\"alias\":1\x7d,\"timestamp\":0,\"content\":[1]\x7d".toList

/-- A record that says something, read for a campaign without posts. -/
theorem read_posts_saved_iff_kept_plain :
    ∃ post ∈ posts (Format.read .foundry none [plainLine]),
      Tables.has ⟨[], [], []⟩ "Keep" post.id = false ∧
        (Store.IsSaved ⟨some ⟨[], [], []⟩⟩ "Keep" post ↔ post.Kept) := by
  have some : 0 < (posts (Format.read .foundry none [plainLine])).length := by decide +kernel
  obtain ⟨post, member⟩ := List.exists_mem_of_length_pos some
  have absent : Tables.has ⟨[], [], []⟩ "Keep" post.id = false := rfl
  exact ⟨post, member, absent,
    ((read_posts_saved_iff_kept .foundry none [plainLine] ⟨[], [], []⟩ "Keep").1
      post member absent).1⟩

def isArray : Json → Bool
  | .array _ => true
  | _ => false

/-- A post whose content is a list is handed on and never stored. -/
theorem exists_read_post_not_saved :
    ¬ ∀ (format : Format) (offset : Option Int) (lines : List (List Char)) (tables : Tables)
      (campaign : String), ∀ post ∈ posts (format.read offset lines),
        Tables.has tables campaign post.id = false →
          Store.IsSaved ⟨some tables⟩ campaign post := by
  intro saved
  have some : (posts (Format.read .foundry none [listLine])).any (isArray ·.content) = true := by
    decide +kernel
  obtain ⟨post, member, listed⟩ := List.any_eq_true.mp some
  have absent : Tables.has ⟨[], [], []⟩ "Keep" post.id = false := rfl
  have kept := (Store.isSaved_iff_kept absent).mp
    (saved .foundry none [listLine] ⟨[], [], []⟩ "Keep" post member absent)
  cases content : post.content with
  | array items =>
      have held := kept.content
      rw [content] at held
      cases held
  | _ => rw [content] at listed; cases listed

end Ingest

end DiceLedger
