import DiceLedger.Proofs.Roll20.Interruption
import DiceLedger.Proofs.Roll20.Places

/-! # Fragments partition an archive

However broken an archive is, nothing of its chat is lost, repeated or moved by cutting it: the
fragments and the text in hand where reading stops are the text of the archive from behind the
tag that opens the wrapper on, and fragments are cut behind each tag that ends a child of the
wrapper (`DiceLedger.Transcript.Roll20.fragments_partition`). What stands behind the end of the
wrapper is in none of them.
-/

namespace DiceLedger

namespace Transcript

namespace Roll20

/-- What following the changes on a line comes to, before the end of the line. -/
structure Walk where
  fragments : List (List Char)
  /-- Where the text not yet used begins. -/
  start : Nat
  pending : List Char
  /-- What has been passed of the line since then, when the wrapper ended on it. -/
  passed? : Option (List Char)

def walk (line : List Char) : (start : Nat) → (pending : List Char) → List DepthChange → Walk
  | start, pending, [] => ⟨[], start, pending, none⟩
  | start, pending, change :: rest =>
    if change.current < 0 then ⟨[], start, pending, some (slice line start change.stop)⟩
    else if change.previous < 0 then walk line change.stop [] rest
    else if change.previous = 1 && change.current = 0 then
      let later := walk line change.stop [] rest
      { later with fragments := (pending ++ slice line start change.stop) :: later.fragments }
    else walk line start pending rest

/-- What is put by at the end of a line. -/
def Walk.pendingAfter (walk : Walk) (line : List Char) (scanner : TagScanner) : List Char :=
  if scanner.depth < 0 then walk.pending else walk.pending ++ line.drop walk.start ++ ['\n']

/-- A line is cut by following its changes, up to the end of the wrapper or of the line. -/
theorem cutAtChanges_eq (line : List Char) (scanner : TagScanner) (changes : List DepthChange) :
    ∀ (start : Nat) (pending : List Char),
      cutAtChanges line scanner start pending changes =
        ⟨(walk line start pending changes).fragments,
          match (walk line start pending changes).passed? with
          | some _ => none
          | none =>
            some ⟨scanner, (walk line start pending changes).pendingAfter line scanner⟩⟩ := by
  induction changes with
  | nil =>
      intro start pending
      rw [cutAtChanges, walk, Walk.pendingAfter]
      split <;> rfl
  | cons change rest ih =>
      intro start pending
      rw [cutAtChanges, walk]
      split
      · rfl
      split
      · exact ih _ _
      split
      · rw [ih]
        rfl
      · exact ih _ _

/-- Following the changes on a line from where a cut stands. -/
def Cutter.walkLine (cutter : Cutter) (line : List Char) : Walk :=
  walk (withoutLineEnd line) 0 cutter.pending (cutter.scanner.feed (withoutLineEnd line)).1

/-- What is in hand where reading stops: the text put by for the next fragment, and, when the
wrapper ends, what has been passed of the last line since it was cut. -/
structure InHand where
  pending : List Char
  passed : List Char

/-- What is in hand after lines. -/
def Cutter.inHand : Cutter → List (List Char) → InHand
  | cutter, [] => ⟨cutter.pending, []⟩
  | cutter, line :: rest =>
    match (cutter.cutLine line).after with
    | some next => next.inHand rest
    | none => ⟨(cutter.walkLine line).pending, ((cutter.walkLine line).passed?).getD []⟩

/-- What following the changes on a line inside of the wrapper comes to: the line stands in a text
at a place, and `last` is the depth at its end. -/
structure Walked (text : List Char) (cut place : Nat) (line : List Char)
    (changes : List PlacedChange) (last : Int) (walk : Walk) : Prop where
  parts : Partitioned text cut (entryEnds changes) walk.fragments walk.pending (place + walk.start)
  onward : walk.passed? = none → ending? changes = none ∧ 0 ≤ last ∧ walk.start ≤ line.length
  ended : ∀ passed ∈ walk.passed?, ∃ ending ∈ ending? changes, ending.line = place ∧
    place + walk.start ≤ ending.stop ∧ passed = slice text (place + walk.start) ending.stop

theorem walk_walked {line : List Char} {scan : Nat} {depth last : Int} {changes : List DepthChange}
    (reported : Reported line scan depth changes last) (front later : List Char) :
    ∀ {start cut : Nat} {pending : List Char}, 0 ≤ depth → start ≤ scan →
      cut ≤ front.length + start →
      pending = slice (front ++ (line ++ later)) cut (front.length + start) →
      Walked (front ++ (line ++ later)) cut front.length line
        (changes.map (PlacedChange.on front.length)) last (walk line start pending changes) := by
  -- On the changes: those that end a child cut the text, the others leave in hand what was.
  induction reported with
  | none within =>
      intro start cut pending inside behind forward part
      refine ⟨.inHand forward part, fun _ => ⟨rfl, inside, Nat.le_trans behind within⟩, ?_⟩
      intro passed never
      exact (Option.not_mem_none _ never).elim
  | @change scan stop depth next last changes onward _ _ rest ih =>
      intro start cut pending inside behind forward part
      have used : start ≤ stop := Nat.le_trans behind (Nat.le_of_lt onward)
      have placed := slice_line front line later start rest.place_le
      have ahead : front.length + start ≤ front.length + stop := Nat.add_le_add_left used _
      rw [walk, List.map_cons]
      by_cases ended : next < 0
      · rw [if_pos ended]
        have ends : (PlacedChange.on front.length ⟨stop, depth, next⟩).current < 0 := ended
        refine ⟨?_, fun never => (Option.some_ne_none _ never).elim, ?_⟩
        · rw [entryEnds_of_ended ends]
          exact .inHand forward part
        · rintro passed ⟨⟩
          exact ⟨_, ending?_of_ended ends, rfl, ahead, placed.symm⟩
      rw [if_neg ended, if_neg (Int.not_lt.mpr inside)]
      have stays : 0 ≤ (PlacedChange.on front.length ⟨stop, depth, next⟩).current :=
        Int.not_lt.mp ended
      by_cases child : depth = 1 ∧ next = 0
      · rw [if_pos (by simpa using child)]
        obtain ⟨parts, onward, ended⟩ := ih (Int.not_lt.mp ended) (Nat.le_refl stop)
          (Nat.le_refl (front.length + stop)) (slice_self _ _).symm
        rw [← ending?_of_inside stays] at onward ended
        refine ⟨?_, onward, ended⟩
        rw [entryEnds_of_end child.1 child.2]
        refine .fragment (Nat.le_trans forward ahead) ?_ parts
        rw [part, ← placed, slice_append _ forward ahead]
        rfl
      · rw [if_neg (by simpa using child)]
        obtain ⟨parts, onward, ended⟩ := ih (Int.not_lt.mp ended) used forward part
        rw [← ending?_of_inside stays] at onward ended
        refine ⟨?_, onward, ended⟩
        rw [entryEnds_of_other stays child]
        exact parts

theorem Cutter.cutLine_walk (cutter : Cutter) (line : List Char) :
    cutter.cutLine line =
      ⟨(cutter.walkLine line).fragments,
        match (cutter.walkLine line).passed? with
        | some _ => none
        | none =>
          some ⟨(cutter.scanner.feed (withoutLineEnd line)).2,
            (cutter.walkLine line).pendingAfter (withoutLineEnd line)
              (cutter.scanner.feed (withoutLineEnd line)).2⟩⟩ :=
  cutAtChanges_eq _ _ _ _ _

/-- What cutting lines inside of the wrapper comes to: what is in hand when the wrapper ends has
been passed on the line on which it ends. -/
structure CutThrough (text : List Char) (cut : Nat) (changes : List PlacedChange)
    (fragments : List (List Char)) (hand : InHand) : Prop where
  parts : Partitioned text cut (entryEnds changes) fragments (hand.pending ++ hand.passed)
    (reached text changes)
  unended : ending? changes = none → hand.passed = []
  ended : ∀ ending ∈ ending? changes, ending.line + hand.passed.length ≤ ending.stop

/-- A change that ends neither a child nor the wrapper changes nothing. -/
theorem CutThrough.cons {text : List Char} {cut : Nat} {change : PlacedChange}
    {changes : List PlacedChange} {fragments : List (List Char)} {hand : InHand}
    (run : CutThrough text cut changes fragments hand) (inside : 0 ≤ change.current)
    (other : ¬ (change.previous = 1 ∧ change.current = 0)) :
    CutThrough text cut (change :: changes) fragments hand := by
  obtain ⟨parts, unended, ended⟩ := run
  rw [← ending?_of_inside inside] at unended ended
  refine ⟨?_, unended, ended⟩
  rw [entryEnds_of_other inside other, reached, ending?_of_inside inside]
  exact parts

/-- Behind a line on which the wrapper has ended nothing matters. -/
theorem cutThrough_of_ended {text line passed : List Char} {rest : List (List Char)}
    {cutter : Cutter} {cut place : Nat} {last : Int} {changes : List PlacedChange}
    (walked : Walked text cut place (withoutLineEnd line) changes last (cutter.walkLine line))
    (passes : (cutter.walkLine line).passed? = some passed) (more : List PlacedChange) :
    CutThrough text cut (changes ++ more) (cutter.cutLines (line :: rest))
      (cutter.inHand (line :: rest)) := by
  obtain ⟨parts, -, ended⟩ := walked
  obtain ⟨ending, ends, onLine, behind, part⟩ := ended passed passes
  rw [Option.mem_def] at ends
  have found : ending? (changes ++ more) = some ending := by
    rw [ending?_append, ends]
    rfl
  simp only [Cutter.cutLines, Cutter.inHand, Cutter.cutLine_walk, passes]
  refine ⟨?_, ?_, ?_⟩
  · simp only [entryEnds_append, ends, reached, found, Option.isSome_some, ↓reduceIte,
      List.append_nil, Option.map_some, Option.getD_some]
    exact parts.extend behind part
  · rw [found]
    intro never
    cases never
  · rw [found]
    rintro _ ⟨⟩
    have short : passed.length ≤ ending.stop - (place + (cutter.walkLine line).start) := by
      rw [part, slice, List.length_drop, List.length_take]
      omega
    simp only [Option.getD_some]
    omega

/-- Lines of a text that are cut from a place inside of the wrapper on. -/
def CutsThrough (text : List Char) (place : Nat) (lines : List (List Char)) : Prop :=
  ∀ (cutter : Cutter) (cut : Nat), 0 ≤ cutter.scanner.depth → cut ≤ place →
    cutter.pending = slice text cut place →
    CutThrough text cut (changesFrom cutter.scanner place lines) (cutter.cutLines lines)
      (cutter.inHand lines)

section Line

variable {text front line : List Char} {rest : List (List Char)}
  (later : CutsThrough text (front.length + (endedLine line).length) rest)
  (whole : text = front ++ (withoutLineEnd line ++ (['\n'] ++ joined rest)))

include later whole

/-- Behind a line on which the wrapper has not ended, what is left in hand is put by for the next
one, with the rest of the line. -/
theorem cutThrough_of_onward {cutter : Cutter} {cut : Nat} {changes : List PlacedChange}
    (walked : Walked text cut front.length (withoutLineEnd line) changes
      (cutter.scanner.feed (withoutLineEnd line)).2.depth (cutter.walkLine line))
    (passes : (cutter.walkLine line).passed? = none) :
    CutThrough text cut
      (changes ++ changesFrom (cutter.scanner.feed (withoutLineEnd line)).2
        (front.length + (endedLine line).length) rest)
      (cutter.cutLines (line :: rest)) (cutter.inHand (line :: rest)) := by
  obtain ⟨parts, onward, -⟩ := walked
  obtain ⟨unended, inside, within⟩ := onward passes
  have found (more : List PlacedChange) : ending? (changes ++ more) = ending? more := by
    rw [ending?_append, unended]
    rfl
  have forward : front.length + (cutter.walkLine line).start ≤
      front.length + (endedLine line).length := by
    rw [endedLine, List.length_append]
    omega
  have put : (withoutLineEnd line).drop (cutter.walkLine line).start ++ ['\n'] =
      slice text (front.length + (cutter.walkLine line).start)
        (front.length + (endedLine line).length) := by
    rw [whole, ← List.append_assoc (withoutLineEnd line), ← endedLine,
      slice_line _ _ _ _ (Nat.le_refl _), slice_length, endedLine,
      List.drop_append_of_le_length within]
  have held := parts.extend forward put
  rw [← List.append_assoc] at held
  have run := later
    ⟨(cutter.scanner.feed (withoutLineEnd line)).2,
      (cutter.walkLine line).pendingAfter (withoutLineEnd line)
        (cutter.scanner.feed (withoutLineEnd line)).2⟩ _ inside held.last.1
    (by rw [Walk.pendingAfter, if_neg (Int.not_lt.mpr inside)]; exact held.last.2)
  simp only [Cutter.cutLines, Cutter.inHand, Cutter.cutLine_walk, passes]
  refine ⟨?_, ?_, ?_⟩
  · rw [entryEnds_append, unended, reached, found]
    exact held.append run.parts
  · rw [found]
    exact run.unended
  · rw [found]
    exact run.ended

/-- Going on behind a line. -/
theorem cutThrough_of_walked {cutter : Cutter} {cut : Nat} {changes : List PlacedChange}
    (walked : Walked text cut front.length (withoutLineEnd line) changes
      (cutter.scanner.feed (withoutLineEnd line)).2.depth (cutter.walkLine line)) :
    CutThrough text cut
      (changes ++ changesFrom (cutter.scanner.feed (withoutLineEnd line)).2
        (front.length + (endedLine line).length) rest)
      (cutter.cutLines (line :: rest)) (cutter.inHand (line :: rest)) := by
  cases passes : (cutter.walkLine line).passed? with
  | none => exact cutThrough_of_onward later whole walked passes
  | some passed => exact cutThrough_of_ended walked passes _

/-- A line inside of the wrapper is walked from its beginning on. -/
theorem cutsThrough_cons : CutsThrough text front.length (line :: rest) := by
  intro cutter cut inside forward part
  have walked : Walked text cut front.length (withoutLineEnd line)
      ((cutter.scanner.feed (withoutLineEnd line)).1.map (PlacedChange.on front.length))
      (cutter.scanner.feed (withoutLineEnd line)).2.depth (cutter.walkLine line) := by
    subst whole
    exact walk_walked (cutter.scanner.feed_reported (withoutLineEnd line)) front _ inside
      (Nat.zero_le 0) forward part
  exact cutThrough_of_walked later whole walked

/-- The line on which the wrapper begins is walked from there on. -/
theorem cutThrough_of_opening {cutter : Cutter} {change : DepthChange}
    {more : List DepthChange} (outside : cutter.scanner.depth = -1)
    (made : (cutter.scanner.feed (withoutLineEnd line)).1 = change :: more)
    (opens : change.current = 0) :
    opening? (changesFrom cutter.scanner front.length (line :: rest)) =
      some (front.length + change.stop) ∧
    CutThrough text (front.length + change.stop)
      (changesFrom cutter.scanner front.length (line :: rest)) (cutter.cutLines (line :: rest))
      (cutter.inHand (line :: rest)) := by
  have reported := cutter.scanner.feed_reported (withoutLineEnd line)
  rw [made] at reported
  obtain ⟨before, _, further⟩ := reported.of_cons
  have begun : cutter.walkLine line = walk (withoutLineEnd line) change.stop [] more := by
    rw [Cutter.walkLine, made, walk, if_neg (by omega), if_pos (by omega)]
  have walked : Walked text (front.length + change.stop) front.length (withoutLineEnd line)
      (more.map (PlacedChange.on front.length))
      (cutter.scanner.feed (withoutLineEnd line)).2.depth (cutter.walkLine line) := by
    subst whole
    rw [begun]
    exact walk_walked further front _ (Int.le_of_eq opens.symm) (Nat.le_refl _) (Nat.le_refl _)
      (slice_self _ _).symm
  have run := cutThrough_of_walked later whole walked
  have noChild : ¬ (change.previous = 1 ∧ change.current = 0) := by omega
  rw [changesFrom, made, List.map_cons, List.cons_append]
  exact ⟨opening?_of_opening (before.trans outside) opens,
    run.cons (Int.le_of_eq opens.symm) noChild⟩

end Line

/-- The wrapper cannot begin behind a tag that ends it. -/
theorem cutLines_of_closing {cutter : Cutter} {place : Nat} {line : List Char}
    {rest : List (List Char)} {change : DepthChange} {more : List DepthChange}
    (nothing : cutter.pending = [])
    (made : (cutter.scanner.feed (withoutLineEnd line)).1 = change :: more)
    (ended : change.current < 0) :
    opening? (changesFrom cutter.scanner place (line :: rest)) = none ∧
      cutter.cutLines (line :: rest) = [] ∧ (cutter.inHand (line :: rest)).pending = [] := by
  have walked : cutter.walkLine line =
      ⟨[], 0, [], some (slice (withoutLineEnd line) 0 change.stop)⟩ := by
    rw [Cutter.walkLine, made, nothing, walk, if_pos ended]
  rw [changesFrom, made, List.map_cons, List.cons_append, Cutter.cutLines, Cutter.inHand,
    Cutter.cutLine_walk, walked]
  exact ⟨opening?_of_ended ended, rfl, rfl⟩

theorem cutsThrough (lines : List (List Char)) :
    ∀ front : List Char, CutsThrough (front ++ joined lines) front.length lines := by
  -- On the lines: each is walked from where the one before left the depth and what was in hand.
  induction lines with
  | nil =>
      intro front cutter cut inside forward part
      rw [joined, List.flatMap_nil, List.append_nil] at part ⊢
      refine ⟨?_, fun _ => rfl, fun _ never => (Option.not_mem_none _ never).elim⟩
      refine .inHand forward ?_
      rw [Cutter.inHand, List.append_nil]
      exact part
  | cons line rest ih =>
      intro front
      have later := ih (front ++ endedLine line)
      rw [List.length_append, ← append_joined] at later
      exact cutsThrough_cons later (append_joined_line front line rest)

/-- Before the wrapper begins nothing is in hand. -/
theorem cutLines_of_outside (lines : List (List Char)) :
    ∀ (cutter : Cutter) (front : List Char), cutter.scanner.depth = -1 → cutter.pending = [] →
      (opening? (changesFrom cutter.scanner front.length lines) = none →
        cutter.cutLines lines = [] ∧ (cutter.inHand lines).pending = []) ∧
      ∀ opening ∈ opening? (changesFrom cutter.scanner front.length lines),
        CutThrough (front ++ joined lines) opening (changesFrom cutter.scanner front.length lines)
          (cutter.cutLines lines) (cutter.inHand lines) := by
  -- On the lines, up to the one with the first change: it begins the wrapper, or ends reading.
  induction lines with
  | nil =>
      intro cutter front _ nothing
      exact ⟨fun _ => ⟨rfl, nothing⟩, fun _ never => (Option.not_mem_none _ never).elim⟩
  | cons line rest ih =>
      intro cutter front outside nothing
      have reported := cutter.scanner.feed_reported (withoutLineEnd line)
      rw [outside] at reported
      cases made : (cutter.scanner.feed (withoutLineEnd line)).1 with
      | nil =>
          rw [made] at reported
          have stays := reported.last_eq
          have cut : cutter.cutLine line =
              ⟨[], some ⟨(cutter.scanner.feed (withoutLineEnd line)).2, []⟩⟩ := by
            rw [Cutter.cutLine_walk, Cutter.walkLine, made, nothing, walk, Walk.pendingAfter, stays]
            rfl
          have later := ih ⟨(cutter.scanner.feed (withoutLineEnd line)).2, []⟩
            (front ++ endedLine line) stays rfl
          rw [List.length_append, ← append_joined] at later
          simp only [changesFrom, made, List.map_nil, List.nil_append, Cutter.cutLines,
            Cutter.inHand, cut]
          exact later
      | cons change more =>
          rw [made] at reported
          obtain ⟨-, up | down, -⟩ := reported.of_cons
          · have later := cutsThrough rest (front ++ endedLine line)
            rw [List.length_append, ← append_joined] at later
            obtain ⟨found, run⟩ :=
              cutThrough_of_opening later (append_joined_line front line rest) outside made up
            rw [found]
            refine ⟨fun never => (Option.some_ne_none _ never).elim, ?_⟩
            rintro _ ⟨⟩
            exact run
          · obtain ⟨found, uncut⟩ := cutLines_of_closing nothing made (by omega)
            rw [found]
            exact ⟨fun _ => uncut, fun _ never => (Option.not_mem_none _ never).elim⟩

/-- What is in hand when an archive has been read. -/
def inHand (lines : List (List Char)) : InHand := Cutter.start.inHand lines

/-- **Fragments partition an archive**, however broken it is. Before the wrapper begins nothing is
cut. From behind the tag that opens it, fragments and what is in hand make up the text, up to its
end or to the tag that ends the wrapper, and fragments are cut behind the tags that end a child of
the wrapper; of what is in hand, only a part of the line on which the wrapper ends is not put by.
Every fragment is analysed when no entry fails. -/
theorem fragments_partition (lines : List (List Char)) :
    (opening? (depthChanges lines) = none → fragments lines = [] ∧ (inHand lines).pending = []) ∧
      (∀ opening ∈ opening? (depthChanges lines),
        (fragments lines).flatten ++ ((inHand lines).pending ++ (inHand lines).passed) =
          slice (joined lines) opening (reached (joined lines) (depthChanges lines)) ∧
        fragments lines = pieces (joined lines) opening (entryEnds (depthChanges lines)) ∧
        (ending? (depthChanges lines) = none → (inHand lines).passed = []) ∧
        ∀ ending ∈ ending? (depthChanges lines),
          ending.line + (inHand lines).passed.length ≤ ending.stop) ∧
      ∀ offset : Option Int,
        (∀ entry ∈ read offset lines, ∃ found, entry.outcome = .ok found) →
          read offset lines = analysed offset .start (fragments lines) := by
  obtain ⟨closed, opened⟩ := cutLines_of_outside lines .start [] rfl rfl
  refine ⟨closed, ?_, fun offset => readFragments_eq_analysed⟩
  intro opening found
  obtain ⟨parts, unended, ended⟩ := opened opening found
  exact ⟨parts.flatten_eq, parts.fragments_eq, unended, ended⟩

/-- An archive with text before its wrapper and behind it, two entries on a line, one over two
lines, and text that is no entry. -/
def loosePage : List (List Char) :=
  ["head<div>a<div>b</div>c<div><div>d</div></div>\r\n".toList, "e<div>f</div>g\n".toList,
    "h</div>i<div></div>".toList]

/-- What stands in front of the wrapper's end is in hand, what stands behind it is not. -/
theorem fragments_partition_loose :
    fragments loosePage =
        ["a<div>b</div>".toList, "c<div><div>d</div></div>".toList, "\ne<div>f</div>".toList] ∧
      inHand loosePage = ⟨"g\n".toList, "h</div>".toList⟩ ∧
      (fragments loosePage).flatten ++ ((inHand loosePage).pending ++ (inHand loosePage).passed) =
        slice (joined loosePage) 9 69 ∧
      read none loosePage = analysed none .start (fragments loosePage) := by
  have evaluated :
      opening? (depthChanges loosePage) = some 9 ∧
      reached (joined loosePage) (depthChanges loosePage) = 69 ∧
      fragments loosePage =
        ["a<div>b</div>".toList, "c<div><div>d</div></div>".toList, "\ne<div>f</div>".toList] ∧
      (inHand loosePage).pending = "g\n".toList ∧ (inHand loosePage).passed = "h</div>".toList ∧
      ∀ entry ∈ read none loosePage, faultOf? entry.outcome = none := by decide +kernel
  obtain ⟨opening, stop, cut, pending, passed, quiet⟩ := evaluated
  obtain ⟨-, parts, analysis⟩ := fragments_partition loosePage
  have whole := (parts 9 opening).1
  rw [stop] at whole
  have calm : ∀ entry ∈ read none loosePage, ∃ found, entry.outcome = .ok found :=
    fun entry member => faultOf?_eq_none.mp (quiet entry member)
  refine ⟨cut, ?_, whole, analysis none calm⟩
  rw [← pending, ← passed]

end Roll20

end Transcript

end DiceLedger
