import DiceLedger.Ingest
import DiceLedger.Proofs.Campaign.Players
import DiceLedger.Proofs.Transcript.Answers

/-! # Senders nobody claims

Post by post, the report of a transcript holds the names met so far that no alias lists, each in
the place of its first appearance (`DiceLedger.Ingest.ReportOn.withPost`). More aliases only
take names out of it (`DiceLedger.Ingest.foldl_addUnmapped_filter`), and aliases for all of them
leave none (`DiceLedger.Ingest.unmappedSenders_close`).
-/

namespace DiceLedger

namespace Campaign

/-- The campaign with further aliases, added as the settings add them: a player who is there
already gets the further senders. -/
def withAliases (campaign : Campaign) (more : List (Json × List Json)) : Campaign :=
  { campaign with
    aliases := more.foldl (fun aliases entry => addSenders entry.1 entry.2 aliases)
      campaign.aliases }

/-- Adding senders to a player loses no sender. -/
theorem exists_mem_addSenders (player : Json) (senders : List Json)
    (aliases : List (Json × List Json)) (sender : Json) :
    (∃ entry ∈ addSenders player senders aliases, sender ∈ entry.2) ↔
      (∃ entry ∈ aliases, sender ∈ entry.2) ∨ sender ∈ senders := by
  induction aliases with
  | nil => simp [addSenders]
  | cons first rest ih =>
      obtain ⟨other, old⟩ := first
      simp only [addSenders]
      split
      · simp only [List.exists_mem_cons_iff, List.mem_append]
        exact or_right_comm
      · simp only [List.exists_mem_cons_iff, ih]
        exact or_assoc.symm

/-- More aliases map the senders that they list, and those from before. -/
theorem isMapped_withAliases (campaign : Campaign) (more : List (Json × List Json))
    (sender : LooseText) :
    (campaign.withAliases more).isMapped sender = true ↔
      campaign.isMapped sender = true ∨ ∃ entry ∈ more, .string sender ∈ entry.2 := by
  simp only [isMapped_iff, withAliases]
  generalize campaign.aliases = aliases
  induction more generalizing aliases with
  | nil => simp
  | cons first rest ih =>
      rw [List.foldl_cons, ih, exists_mem_addSenders, List.exists_mem_cons_iff, or_assoc]

end Campaign

namespace Ingest

open Transcript (Entry faultOf? faultOf?_eq_none posts)

variable {campaign other : Campaign}

/-- A report on the names that were met: those that no alias lists, in the order of their first
appearances. -/
structure ReportOn (campaign : Campaign) (names report : List LooseText) : Prop where
  mem : ∀ name, name ∈ report ↔
    name ≠ "" ∧ name ∈ names ∧ campaign.isMapped name = false
  inOrder : report.Pairwise fun first later => names.idxOf first < names.idxOf later

theorem reportOn_nil (campaign : Campaign) : ReportOn campaign [] [] where
  mem := by simp
  inOrder := List.Pairwise.nil

/-- The sender of one more post is reported if it is not mapped and not yet reported. -/
theorem ReportOn.withPost {names report : List LooseText}
    (reported : ReportOn campaign names report) (post : Post) :
    ReportOn campaign (names ++ [post.sender]) (addUnmapped campaign report post) := by
  have places {name : LooseText} (met : name ∈ names) :
      (names ++ [post.sender]).idxOf name = names.idxOf name := List.idxOf_append_of_mem met
  have kept : report.Pairwise fun first later =>
      (names ++ [post.sender]).idxOf first < (names ++ [post.sender]).idxOf later := by
    refine reported.inOrder.imp_of_mem fun first later before => ?_
    rwa [places ((reported.mem _).mp first).2.1, places ((reported.mem _).mp later).2.1]
  unfold addUnmapped
  split
  · next passed =>
    refine ⟨fun name => ?_, kept⟩
    rw [reported.mem, List.mem_append, List.mem_singleton]
    constructor
    · exact fun held => ⟨held.1, .inl held.2.1, held.2.2⟩
    · rintro ⟨nonempty, met | rfl, unmapped⟩
      · exact ⟨nonempty, met, unmapped⟩
      · -- A name passed over for no other reason is in the report.
        have already : post.sender ∈ report := by
          simpa [nonempty, unmapped] using passed
        exact (reported.mem _).mp already
  · next taken =>
    obtain ⟨⟨nonempty, new⟩, unmapped⟩ :
        (post.sender ≠ "" ∧ post.sender ∉ report) ∧ campaign.isMapped post.sender = false := by
      simpa [not_or] using taken
    have unmet : post.sender ∉ names := fun met =>
      new ((reported.mem _).mpr ⟨nonempty, met, unmapped⟩)
    constructor
    · intro name
      rw [List.mem_append, List.mem_append, List.mem_singleton, reported.mem]
      constructor
      · rintro (⟨named, met, free⟩ | rfl)
        · exact ⟨named, .inl met, free⟩
        · exact ⟨nonempty, .inr rfl, unmapped⟩
      · rintro ⟨named, met | rfl, free⟩
        · exact .inl ⟨named, met, free⟩
        · exact .inr rfl
    · refine List.pairwise_append.mpr ⟨kept, List.pairwise_singleton _ _, ?_⟩
      intro first member last same
      obtain rfl := List.mem_singleton.mp same
      have met := ((reported.mem first).mp member).2.1
      rw [places met, List.idxOf_append_of_notMem unmet]
      exact Nat.lt_of_lt_of_le (List.idxOf_lt_length_of_mem met) (Nat.le_add_right _ _)

/-- More aliases take from a report those names that they list. -/
theorem addUnmapped_filter
    (fewer : ∀ name, campaign.isMapped name = true → other.isMapped name = true)
    (report : List LooseText) (post : Post) :
    addUnmapped other (report.filter fun name => !other.isMapped name) post =
      (addUnmapped campaign report post).filter fun name => !other.isMapped name := by
  have mapped := fewer post.sender
  unfold addUnmapped
  by_cases listed : other.isMapped post.sender = true
  · simp only [listed, Bool.or_true, ↓reduceIte]
    split
    · rfl
    · simp [listed]
  · have free : campaign.isMapped post.sender = false :=
      Bool.eq_false_iff.mpr fun old => listed (mapped old)
    have kept : (report.filter fun name => !other.isMapped name).contains post.sender =
        report.contains post.sender := by
      rw [Bool.eq_iff_iff]
      simp [listed]
    rw [kept, free]
    simp only [Bool.eq_false_iff.mpr listed]
    split
    · rfl
    · simp [listed]

/-- The senders of more posts are reported one behind another. -/
theorem ReportOn.withPosts {names report : List LooseText}
    (reported : ReportOn campaign names report) (read : List Post) :
    ReportOn campaign (names ++ read.map (·.sender))
      (read.foldl (addUnmapped campaign) report) := by
  induction read generalizing names report with
  | nil => simpa using reported
  | cons post rest ih =>
      have later := ih (reported.withPost post)
      rwa [List.append_assoc] at later

/-- Where more senders are mapped, these are missing in the report, and nothing else changes. -/
theorem foldl_addUnmapped_filter
    (fewer : ∀ name, campaign.isMapped name = true → other.isMapped name = true)
    (read : List Post) (report : List LooseText) :
    read.foldl (addUnmapped other) (report.filter fun name => !other.isMapped name) =
      (read.foldl (addUnmapped campaign) report).filter fun name => !other.isMapped name := by
  induction read generalizing report with
  | nil => rfl
  | cons post rest ih => rw [List.foldl_cons, List.foldl_cons, addUnmapped_filter fewer, ih]

/-- The senders of a transcript that is read without a fault are collected post by post. -/
theorem collectUnmapped_of_calm {entries : List Entry}
    (calm : ∀ entry ∈ entries, faultOf? entry.outcome = none) (report : List LooseText) :
    (collectUnmapped campaign entries report).result =
      .ok ((posts entries).foldl (addUnmapped campaign) report) := by
  induction entries generalizing report with
  | nil => rfl
  | cons entry rest ih =>
      obtain ⟨found, read⟩ := faultOf?_eq_none.mp (calm entry List.mem_cons_self)
      have later := ih fun next member => calm next (List.mem_cons_of_mem entry member)
      simp only [collectUnmapped, read, later]
      cases found with
      | none => simp [posts, read]
      | some post => simp [posts, read]

/-- Without a fault the report is made of all posts. -/
theorem unmappedSenders_of_calm {entries : List Entry}
    (calm : ∀ entry ∈ entries, faultOf? entry.outcome = none) :
    (unmappedSenders campaign entries).result =
      .ok ((posts entries).foldl (addUnmapped campaign) []) := by
  simp only [unmappedSenders, collectUnmapped_of_calm calm]

/-- **The report of unmapped senders is complete, and closes.** A transcript read without a fault
is reported with the names that are not empty and that no alias of the campaign lists, each once
and in the order of their first appearances. Whatever aliases are added, the report becomes a part
of what it was, in the same order; aliases that cover it leave nothing of it. -/
theorem unmappedSenders_close {entries : List Entry}
    (calm : ∀ entry ∈ entries, faultOf? entry.outcome = none) (campaign : Campaign) :
    ∃ report, (unmappedSenders campaign entries).result = .ok report ∧
      (∀ name, name ∈ report ↔ name ≠ "" ∧ name ∈ (posts entries).map (·.sender) ∧
        ¬∃ entry ∈ campaign.aliases, .string name ∈ entry.2) ∧
      report.Nodup ∧
      (report.Pairwise fun first later =>
        ((posts entries).map (·.sender)).idxOf first <
          ((posts entries).map (·.sender)).idxOf later) ∧
      ∀ more : List (Json × List Json), ∃ remaining,
        (unmappedSenders (campaign.withAliases more) entries).result = .ok remaining ∧
        remaining.Sublist report ∧
        ((∀ name ∈ report, ∃ entry ∈ more, .string name ∈ entry.2) → remaining = []) := by
  obtain ⟨mem, inOrder⟩ := (reportOn_nil campaign).withPosts (posts entries)
  rw [List.nil_append] at mem inOrder
  refine ⟨_, unmappedSenders_of_calm calm, ?_, ?_, inOrder, ?_⟩
  · intro name
    rw [mem, ← Campaign.isMapped_iff, Bool.not_eq_true]
  · refine inOrder.imp ?_
    rintro name _ before rfl
    exact Nat.lt_irrefl _ before
  · intro more
    have fewer (name : LooseText) (mapped : campaign.isMapped name = true) :
        (campaign.withAliases more).isMapped name = true :=
      (campaign.isMapped_withAliases more name).mpr (.inl mapped)
    have filtered := foldl_addUnmapped_filter fewer (posts entries) []
    rw [List.filter_nil] at filtered
    refine ⟨_, unmappedSenders_of_calm calm, ?_, ?_⟩
    · rw [filtered]
      exact List.filter_sublist
    · intro covered
      rw [filtered, List.filter_eq_nil_iff]
      intro name member
      have mapped := (campaign.isMapped_withAliases more name).mpr (.inr (covered name member))
      rw [mapped]
      decide

/-- A post of a sender that says nothing. -/
def silentPost (sender : LooseText) : Post where
  id := sender
  sender := sender
  time := .universal ⟨3600000000, by decide, by decide⟩
  content := .string ""
  isMessage := true
  rolls := []

def moria : Campaign := ⟨"Moria", "moria.html", none, [("Sam", ["Gimli"])]⟩

def moriaEntries : List Entry :=
  [.post (silentPost "Gimli"), .post (silentPost "Legolas"), .skipped, .post (silentPost ""),
    .post (silentPost "Boromir"), .post (silentPost "Legolas")]

/-- Of four names one is claimed and one is empty; a new player and an old one claim the others. -/
theorem unmappedSenders_close_moria :
    (∀ entry ∈ moriaEntries, faultOf? entry.outcome = none) ∧
      (unmappedSenders moria moriaEntries).result = .ok ["Legolas", "Boromir"] ∧
      (unmappedSenders (moria.withAliases [("Ana", ["Legolas"]), ("Sam", ["Boromir"])])
        moriaEntries).result = .ok [] := by
  have calm : ∀ entry ∈ moriaEntries, faultOf? entry.outcome = none := by
    intro entry member
    simp only [moriaEntries, List.mem_cons, List.not_mem_nil, or_false] at member
    rcases member with rfl | rfl | rfl | rfl | rfl | rfl <;> rfl
  have reported : (unmappedSenders moria moriaEntries).result = .ok ["Legolas", "Boromir"] := by
    rfl
  obtain ⟨report, found, -, -, -, closes⟩ := unmappedSenders_close calm moria
  obtain rfl := Except.ok.inj (reported.symm.trans found)
  obtain ⟨remaining, again, -, none⟩ := closes [("Ana", ["Legolas"]), ("Sam", ["Boromir"])]
  refine ⟨calm, reported, ?_⟩
  rw [again, none]
  simp

end Ingest

end DiceLedger
