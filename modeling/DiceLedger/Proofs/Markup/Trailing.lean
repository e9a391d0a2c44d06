import DiceLedger.Markup.Tree
import DiceLedger.Proofs.Markup.ClosedBrackets
import DiceLedger.Proofs.Markup.ClosedReferences

/-! # Blanks behind closed markup

Blanks behind a closed text are one more piece of text behind its tokens
(`DiceLedger.Markup.reached_append`), unless the text ends inside an element whose content is raw
text and which is never closed: of that everything is dropped.
-/

namespace DiceLedger

namespace Markup

variable {text rest more : List Char}

namespace Builder

@[simp] theorem take_text_nil (builder : Builder) : builder.take (.text []) = builder := rfl

/-- Two pieces of text one behind another are taken as one. -/
theorem take_text_append (builder : Builder) (first later : List Char) :
    (builder.take (.text first)).take (.text later) = builder.take (.text (first ++ later)) := by
  simp only [take, List.reverse_append, List.append_assoc]

/-- An empty piece of text makes no token, and changes nothing either. -/
theorem foldl_textToken (builder : Builder) (content : List Char) :
    (textToken content).foldl take builder = builder.take (.text content) := by
  rw [textToken]
  split
  · next none => rw [List.isEmpty_iff.mp none]; rfl
  · rfl

end Builder

/-- A tree in progress, and the text that is not yet read, inside a raw element or not. -/
structure Reached where
  builder : Builder
  rest : List Char
  raw : Option String

namespace Reached

/-- With something behind the text: it is text of its own when all else is read. -/
def before (more : List Char) (reached : Reached) : Reached :=
  if reached.rest = [] ∧ reached.raw = none then
    { reached with builder := reached.builder.take (.text more) }
  else { reached with rest := reached.rest ++ more }

/-- The rest of a text is text, unless it stands in a raw element. -/
def settled (reached : Reached) : Builder :=
  if reached.raw.isSome then reached.builder else reached.builder.take (.text reached.rest)

/-- What stands behind is one more piece of text, but within a raw element it is dropped. -/
theorem settled_before (more : List Char) (reached : Reached) :
    (reached.before more).settled =
      if reached.raw.isSome then reached.settled else reached.settled.take (.text more) := by
  obtain ⟨builder, rest, raw⟩ := reached
  cases raw with
  | some name => simp [before, settled]
  | none =>
      cases rest with
      | nil => simp [before, settled]
      | cons c rest => simp [before, settled, Builder.take_text_append]

end Reached

/-- What a pass makes of a tree in progress. -/
def Pass.onto (builder : Builder) (pass : Pass) : Reached :=
  ⟨pass.tokens.foldl .take builder, pass.rest, pass.raw⟩

/-- Tokens in front of a pass are taken first. -/
theorem Pass.onto_push (builder : Builder) (tokens : List Token) (pass : Pass) :
    (pass.push tokens).onto builder = pass.onto (tokens.foldl .take builder) := by
  rw [onto, onto, push, List.foldl_append]

theorem map_push {α : Type} (tokens : List Token) (build : Pass → α)
    (read : Except Fault Pass) :
    (read.map (.push tokens)).map build = read.map fun pass => build (pass.push tokens) := by
  cases read <;> rfl

/-- Only the elements whose content is raw text begin one. -/
theorem rawElements_of_rawBegun {tokens : List Token} {name : String}
    (begun : rawBegun tokens = some name) : name ∈ rawElements := by
  unfold rawBegun at begun
  split at begun
  · next other _ =>
    split at begun
    · next raw =>
      obtain rfl := Option.some.inj begun
      exact List.contains_iff_mem.mp raw
    · cases begun
  · cases begun

/-- The end of a raw element is looked for steadily. -/
theorem steady_rawElement {name : String} (known : name ∈ rawElements) (more : List Char) :
    Steady more (rawEnd name) := by
  have absent : ∀ name ∈ rawElements, '>' ∉ name.toList := by decide
  exact steady_rawEnd (absent name known) more

/-- What a pass over a closed text leaves: an end of the text, in a raw element or in none. -/
structure Pass.Within (text : List Char) (pass : Pass) : Prop where
  suffix : pass.rest <:+ text
  known : ∀ name ∈ pass.raw, name ∈ rawElements

/-- A pass over an end of a text is one over the text, whatever tokens stand in front. -/
theorem Pass.Within.push {pass : Pass} (within : pass.Within rest) (suffix : rest <:+ text)
    (tokens : List Token) : (pass.push tokens).Within text :=
  ⟨within.suffix.trans suffix, within.known⟩

/-- What a step of a pass does. -/
inductive PassStep where
  | stop (pass : Pass)
  /-- The pass goes on with a text, in a raw element or not. -/
  | go (tokens : List Token) (raw : Option String) (rest : List Char)

/-- A character of text without references. -/
def isPlain (c : Char) : Bool := c ≠ '<' && c ≠ '&'

/-- Blanks are text without references. -/
theorem isPlain_of_gap (gap : Gap more) {c : Char} (member : c ∈ more) : isPlain c = true := by
  obtain rfl | rfl := gap c member
  · rfl
  · rfl

/-- A step behind an opening bracket. -/
def bracketStep (final : Bool) (rest : List Char) : Except Fault PassStep :=
  match readBracketed rest with
  | .error fault => .error fault
  | .ok (some (tokens, after)) => .ok (.go tokens (rawBegun tokens) after)
  | .ok none =>
    if final && !rest.isEmpty then .ok (.go [.text (unfinished rest).1] none (unfinished rest).2)
    else .ok (.stop ⟨[], '<' :: rest, none⟩)

/-- A step behind an ampersand. -/
def referenceStep (final : Bool) (rest : List Char) : Except Fault PassStep :=
  match readReferenceInText rest with
  | .error fault => .error fault
  | .ok (.found content after) => .ok (.go [.text content] none after)
  | .ok .literal => .ok (.go [.text ['&']] none rest)
  | .ok .broken =>
    if rest.contains ';' then .ok (.stop ⟨[.text ['&', '#']], rest.drop 1, none⟩)
    else .ok (.stop ⟨[], '&' :: rest, none⟩)
  | .ok .pending =>
    if final && rest.length = 1 then .ok (.stop ⟨[], rest, none⟩)
    else .ok (.stop ⟨[], '&' :: rest, none⟩)

/-- A step in a raw element. -/
def rawStep (name : String) (text : List Char) : PassStep :=
  match cutWhere? (rawEnd name) text with
  | none => .stop ⟨[], text, some name⟩
  | some (content, rest) => .go (textToken content ++ [.closing name]) none rest

/-- What a pass does where it stands. -/
def passStep (final : Bool) : Option String → List Char → Except Fault PassStep
  | raw, [] => .ok (.stop ⟨[], [], raw⟩)
  | some name, text => .ok (rawStep name text)
  | none, '<' :: rest => bracketStep final rest
  | none, '&' :: rest => referenceStep final rest
  | none, text => .ok (.go (textToken (text.takeWhile isPlain)) none (text.dropWhile isPlain))

/-- A pass is one step, and a pass over what that leaves. -/
theorem readPass_succ (final : Bool) (fuel : Nat) (raw : Option String) (text : List Char) :
    readPass final (fuel + 1) raw text =
      match passStep final raw text with
      | .error fault => .error fault
      | .ok (.stop pass) => .ok pass
      | .ok (.go tokens raw rest) => (readPass final fuel raw rest).map (.push tokens) := by
  fun_cases passStep final raw text with
  | case1 => rfl
  | case2 name _ nonempty =>
      rw [readPass.eq_3 _ _ _ _ nonempty, rawStep]
      cases cutWhere? (rawEnd name) text <;> rfl
  | case3 rest =>
      rw [readPass.eq_4, bracketStep]
      cases readBracketed rest with
      | error fault => rfl
      | ok found =>
          cases found with
          | some parts => rfl
          | none =>
              simp only
              split <;> rfl
  | case4 rest =>
      rw [readPass.eq_5, referenceStep]
      cases readReferenceInText rest with
      | error fault => rfl
      | ok found =>
          cases found with
          | found content after => rfl
          | literal => rfl
          | broken =>
              simp only
              split <;> rfl
          | pending =>
              simp only
              split <;> rfl
  | case5 _ nonempty bracket ampersand =>
      rw [readPass.eq_6 _ _ _ nonempty bracket ampersand, drop_takeWhile]
      rfl

namespace PassStep

def before (more : List Char) : PassStep → PassStep
  | stop pass => stop { pass with rest := pass.rest ++ more }
  | go tokens raw rest => go tokens raw (rest ++ more)

/-- A step over a closed text leaves less than there was, or stops before the end. -/
def Within (text : List Char) : PassStep → Prop
  | stop pass => pass.rest ≠ [] ∧ pass.Within text
  | go _ raw rest => rest <:+ text.tail ∧ ∀ name ∈ raw, name ∈ rawElements

end PassStep

/-- Behind a bracket the step in a closed text is the same with a gap behind the text. -/
theorem bracketStep_append (closed : Closed rest) (gap : Gap more) (final : Bool) :
    bracketStep final (rest ++ more) = (bracketStep final rest).map (.before more) := by
  rw [bracketStep, bracketStep, readBracketed_append closed gap]
  cases readBracketed rest with
  | error fault => rfl
  | ok found =>
      cases found with
      | some parts => rfl
      | none =>
          have nonempty : (rest ++ more).isEmpty = rest.isEmpty := by
            obtain ⟨c, later, rfl⟩ := List.exists_cons_of_ne_nil closed.ne_nil
            rfl
          simp only [Bracketed.before, Except.map, Option.map_none, nonempty,
            unfinished_append closed gap]
          split <;> rfl

/-- Behind a bracket the step leaves an end of the text. -/
theorem bracketStep_within (closed : Closed rest) {final : Bool} {step : PassStep}
    (stepped : bracketStep final rest = .ok step) : step.Within ('<' :: rest) := by
  rw [bracketStep] at stepped
  cases read : readBracketed rest with
  | error fault =>
      rw [read] at stepped
      cases stepped
  | ok found =>
      cases found with
      | some parts =>
          rw [read] at stepped
          obtain rfl := Except.ok.inj stepped
          exact ⟨suffix_of_readBracketed closed read, fun name => rawElements_of_rawBegun⟩
      | none =>
          simp only [read] at stepped
          split at stepped
          · obtain rfl := Except.ok.inj stepped
            exact ⟨suffix_unfinished closed, fun name => nofun⟩
          · obtain rfl := Except.ok.inj stepped
            exact ⟨List.cons_ne_nil _ _, List.suffix_rfl, fun name => nofun⟩

/-- Behind an ampersand the step in a closed text is the same with a gap behind the text. -/
theorem referenceStep_append (closed : Closed rest) (gap : Gap more) (final : Bool) :
    referenceStep final (rest ++ more) = (referenceStep final rest).map (.before more) := by
  rw [referenceStep, referenceStep, readReferenceInText_append closed]
  obtain ⟨fault, read⟩ | read | read | ⟨content, after, read, -⟩ :=
    readReferenceInText_cases closed
  · rw [read]
    rfl
  · have absent : ';' ∉ more := gap.not_mem (by decide) (by decide)
    have semicolon : (rest ++ more).contains ';' = rest.contains ';' := by
      simp only [List.contains_eq_mem, List.mem_append, absent, or_false]
    obtain ⟨c, later, rfl⟩ := List.exists_cons_of_ne_nil closed.ne_nil
    simp only [read, Except.map, ReferenceRead.before, semicolon]
    split <;> rfl
  · rw [read]
    rfl
  · rw [read]
    rfl

/-- Behind an ampersand the step leaves an end of the text. -/
theorem referenceStep_within (closed : Closed rest) {final : Bool} {step : PassStep}
    (stepped : referenceStep final rest = .ok step) : step.Within ('&' :: rest) := by
  rw [referenceStep] at stepped
  obtain ⟨fault, read⟩ | read | read | ⟨content, after, read, suffix⟩ :=
    readReferenceInText_cases closed
  · rw [read] at stepped
    cases stepped
  · simp only [read] at stepped
    split at stepped
    · next semicolon =>
      obtain rfl := Except.ok.inj stepped
      refine ⟨fun none => ?_, (List.drop_suffix 1 rest).trans (List.suffix_cons '&' rest),
        fun name => nofun⟩
      obtain ⟨c, later, rfl⟩ := List.exists_cons_of_ne_nil closed.ne_nil
      obtain rfl : later = [] := none
      obtain rfl : c = '>' := Option.some.inj closed
      cases semicolon
    · obtain rfl := Except.ok.inj stepped
      exact ⟨List.cons_ne_nil _ _, List.suffix_rfl, fun name => nofun⟩
  · rw [read] at stepped
    obtain rfl := Except.ok.inj stepped
    exact ⟨List.suffix_rfl, fun name => nofun⟩
  · rw [read] at stepped
    obtain rfl := Except.ok.inj stepped
    exact ⟨suffix, fun name => nofun⟩

/-- In a raw element the step in a closed text is the same with a gap behind the text. -/
theorem rawStep_append {name : String} (known : name ∈ rawElements) (closed : Closed text)
    (gap : Gap more) : rawStep name (text ++ more) = (rawStep name text).before more := by
  rw [rawStep, rawStep, cutWhere?_append (steady_rawElement known more) closed gap]
  cases cutWhere? (rawEnd name) text <;> rfl

/-- In a raw element the step leaves an end of the text. -/
theorem rawStep_within {name : String} (known : name ∈ rawElements) (closed : Closed text) :
    (rawStep name text).Within text := by
  rw [rawStep]
  cases found : cutWhere? (rawEnd name) text with
  | none =>
      refine ⟨closed.ne_nil, List.suffix_rfl, fun other same => ?_⟩
      obtain rfl := Option.some.inj same
      exact known
  | some parts =>
      exact ⟨suffix_of_cutWhere? (steady_rawElement known []) found, fun other => nofun⟩

section Step

variable {final : Bool} {raw : Option String}

/-- Text is taken up to the next bracket or ampersand. -/
theorem passStep_plain {c : Char} (bracket : c ≠ '<') (ampersand : c ≠ '&') (rest : List Char) :
    passStep final none (c :: rest) =
      .ok (.go (textToken ((c :: rest).takeWhile isPlain)) none ((c :: rest).dropWhile isPlain)) :=
  passStep.eq_5 final _ (List.cons_ne_nil c rest) (fun _ same => bracket (List.cons.inj same).1)
    fun _ same => ampersand (List.cons.inj same).1

/-- Behind a closed text that is no text alone, a step is the same. -/
theorem passStep_append (closed : Closed text) (gap : Gap more)
    (known : ∀ name ∈ raw, name ∈ rawElements) (marked : raw = none → ¬∀ c ∈ text, isPlain c) :
    passStep final raw (text ++ more) = (passStep final raw text).map (.before more) := by
  obtain ⟨c, rest, rfl⟩ := List.exists_cons_of_ne_nil closed.ne_nil
  cases raw with
  | some name => exact congrArg Except.ok (rawStep_append (known name rfl) closed gap)
  | none =>
      by_cases bracket : c = '<'
      · subst bracket
        exact bracketStep_append (closed.tail (by decide)) gap final
      by_cases ampersand : c = '&'
      · subst ampersand
        exact referenceStep_append (closed.tail (by decide)) gap final
      rw [List.cons_append, passStep_plain bracket ampersand, passStep_plain bracket ampersand,
        ← List.cons_append, List.takeWhile_append, List.dropWhile_append, if_neg, if_neg]
      · rfl
      · exact fun none => marked rfl (List.dropWhile_eq_nil_iff.mp (List.isEmpty_iff.mp none))
      · intro whole
        have same := (List.takeWhile_prefix isPlain).eq_of_length whole
        exact marked rfl (List.takeWhile_eq_self_iff.mp same)

/-- Each step leaves an end of the text, in a known raw element or in none. -/
theorem passStep_within (closed : Closed text) (known : ∀ name ∈ raw, name ∈ rawElements)
    {step : PassStep} (stepped : passStep final raw text = .ok step) : step.Within text := by
  obtain ⟨c, rest, rfl⟩ := List.exists_cons_of_ne_nil closed.ne_nil
  cases raw with
  | some name =>
      obtain rfl := Except.ok.inj stepped
      exact rawStep_within (known name rfl) closed
  | none =>
      by_cases bracket : c = '<'
      · subst bracket
        exact bracketStep_within (closed.tail (by decide)) stepped
      by_cases ampersand : c = '&'
      · subst ampersand
        exact referenceStep_within (closed.tail (by decide)) stepped
      rw [passStep_plain bracket ampersand] at stepped
      obtain rfl := Except.ok.inj stepped
      have plain : isPlain c = true := by simp [isPlain, bracket, ampersand]
      refine ⟨?_, fun name => nofun⟩
      rw [List.dropWhile_cons_of_pos plain]
      exact List.dropWhile_suffix isPlain

/-- A raw element is not closed by blanks. -/
theorem passStep_raw_gap {name : String} (known : name ∈ rawElements) (gap : Gap more) :
    passStep final (some name) more = .ok (.stop ⟨[], more, some name⟩) := by
  cases more with
  | nil => rfl
  | cons c rest =>
      rw [passStep, rawStep, cutWhere?_gap (steady_rawElement known []) gap]
      exact List.cons_ne_nil c rest

/-- Text alone is one token. -/
theorem readPass_plain (plain : ∀ c ∈ text, isPlain c) (fuel : Nat) :
    readPass final (fuel + 1) none text = .ok ⟨textToken text, [], none⟩ := by
  cases text with
  | nil => rfl
  | cons c rest =>
      have first := plain c List.mem_cons_self
      simp only [isPlain, Bool.and_eq_true, decide_eq_true_eq] at first
      rw [readPass_succ, passStep_plain first.1 first.2, List.takeWhile_eq_self_iff.mpr plain,
        List.dropWhile_eq_nil_iff.mpr plain]
      have last : readPass final fuel none [] = .ok ⟨[], [], none⟩ := by cases fuel <;> rfl
      simp only [last, Except.map, Pass.push, List.append_nil]

end Step

section Run

variable {final : Bool} {fuel : Nat} {raw : Option String}

/-- A pass leaves an end of the text, in a known raw element or in none. -/
theorem readPass_within {pass : Pass} (raw : Option String) (closed : text ≠ [] → Closed text)
    (known : ∀ name ∈ raw, name ∈ rawElements)
    (read : readPass final fuel raw text = .ok pass) : pass.Within text := by
  induction fuel generalizing raw text pass with
  | zero =>
      obtain rfl := Except.ok.inj read
      exact ⟨List.suffix_rfl, known⟩
  | succ fuel ih =>
      by_cases nonempty : text = []
      · subst nonempty
        obtain rfl := Except.ok.inj read
        exact ⟨List.suffix_rfl, known⟩
      rw [readPass_succ] at read
      cases stepped : passStep final raw text with
      | error fault =>
          rw [stepped] at read
          cases read
      | ok step =>
          have within := passStep_within (closed nonempty) known stepped
          rw [stepped] at read
          cases step with
          | stop last =>
              obtain rfl := Except.ok.inj read
              exact within.2
          | go tokens inside rest =>
              obtain ⟨shorter, inner⟩ := within
              have suffix := shorter.trans (List.tail_suffix text)
              cases later : readPass final fuel inside rest with
              | error fault =>
                  simp only [later] at read
                  cases read
              | ok last =>
                  simp only [later] at read
                  obtain rfl := Except.ok.inj read
                  have left := ih inside ((closed nonempty).of_suffix suffix) inner later
                  exact left.push suffix tokens

/-- **Behind a pass over a closed text, blanks are one more piece of text**, or stay behind what the
pass leaves. -/
theorem readPass_append (final : Bool) (raw : Option String) (gap : Gap more) (extra : Nat)
    (enough : text.length < fuel) (closed : text ≠ [] → Closed text)
    (known : ∀ name ∈ raw, name ∈ rawElements) (builder : Builder) :
    (readPass final (fuel + extra) raw (text ++ more)).map (Pass.onto builder) =
      (readPass final fuel raw text).map fun pass => (pass.onto builder).before more := by
  induction fuel generalizing raw text builder with
  | zero => exact absurd enough (Nat.not_lt_zero _)
  | succ fuel ih =>
      rw [Nat.succ_add]
      by_cases plain : raw = none ∧ ∀ c ∈ text, isPlain c
      · obtain ⟨rfl, all⟩ := plain
        have whole : ∀ c ∈ text ++ more, isPlain c = true :=
          List.forall_mem_append.mpr ⟨all, fun c => isPlain_of_gap gap⟩
        rw [readPass_plain all, readPass_plain whole]
        simp only [Except.map, Pass.onto, Builder.foldl_textToken, Reached.before, and_self,
          if_true, Builder.take_text_append]
      by_cases nonempty : text = []
      · subst nonempty
        cases raw with
        | none => exact absurd ⟨rfl, List.forall_mem_nil _⟩ plain
        | some name =>
            rw [readPass_succ, List.nil_append, passStep_raw_gap (known name rfl) gap]
            rfl
      have marked : raw = none → ¬∀ c ∈ text, isPlain c := fun outside all => plain ⟨outside, all⟩
      rw [readPass_succ, readPass_succ, passStep_append (closed nonempty) gap known marked]
      cases stepped : passStep final raw text with
      | error fault => rfl
      | ok step =>
          have within := passStep_within (closed nonempty) known stepped
          cases step with
          | stop last => exact congrArg Except.ok (if_neg fun ended => within.1 ended.1).symm
          | go tokens inside rest =>
              obtain ⟨shorter, inner⟩ := within
              have suffix := shorter.trans (List.tail_suffix text)
              have less : rest.length < fuel := by
                have fewer := shorter.length_le
                have some := List.length_pos_iff.mpr nonempty
                rw [List.length_tail] at fewer
                omega
              have later := ih inside less ((closed nonempty).of_suffix suffix) inner
                (tokens.foldl .take builder)
              refine (map_push tokens _ _).trans ?_
              refine Eq.trans ?_ (map_push tokens _ _).symm
              simp only [Pass.onto_push]
              exact later

end Run

/-- The second pass over what the first one left. -/
def Reached.again (reached : Reached) : Except Fault Reached :=
  (readPass true (reached.rest.length + 1) reached.raw reached.rest).map (Pass.onto reached.builder)

/-- What both passes over a text reach. -/
def reached (text : List Char) : Except Fault Reached :=
  ((readPass false (text.length + 1) none text).map (Pass.onto .new)).bind Reached.again

/-- A tree is what both passes reach, with the rest as text. -/
theorem parse_eq (text : List Char) :
    parse text = (reached text).map fun reached => reached.settled.finish := by
  rw [parse, tokens, reached]
  cases readPass false (text.length + 1) none text with
  | error fault => rfl
  | ok first =>
      simp only [Bind.bind, Except.bind, Except.map, Reached.again, Pass.onto]
      cases readPass true (first.rest.length + 1) first.raw first.rest with
      | error fault => rfl
      | ok second =>
          simp only [pure, Except.pure, List.foldl_append, Reached.settled]
          split
          · rfl
          · rw [Builder.foldl_textToken]

/-- The second pass goes on over a gap as over text of its own. -/
theorem Reached.again_before (gap : Gap more) {reached : Reached}
    (closed : reached.rest ≠ [] → Closed reached.rest)
    (known : ∀ name ∈ reached.raw, name ∈ rawElements) :
    (reached.before more).again = reached.again.map (.before more) := by
  obtain ⟨builder, rest, raw⟩ := reached
  by_cases ended : rest = [] ∧ raw = none
  · obtain ⟨rfl, rfl⟩ := ended
    rfl
  · have second := readPass_append true raw gap more.length (Nat.lt_succ_self rest.length)
      closed known builder
    rw [Nat.succ_add, ← List.length_append] at second
    rw [before, if_neg ended, again, again]
    refine second.trans ?_
    cases readPass true (rest.length + 1) raw rest <;> rfl

/-- **Blanks behind a closed text are one more piece of text** behind all that is read of it, or
stay in the raw element that it ends in. -/
theorem reached_append (closed : Closed text) (gap : Gap more) :
    reached (text ++ more) = (reached text).map (.before more) := by
  have first := readPass_append false none gap more.length (Nat.lt_succ_self text.length)
    (fun _ => closed) (fun name => nofun) .new
  rw [Nat.succ_add, ← List.length_append] at first
  rw [reached, reached]
  refine (congrArg (Except.bind · Reached.again) first).trans ?_
  cases begun : readPass false (text.length + 1) none text with
  | error fault => rfl
  | ok pass =>
      have within := readPass_within none (fun _ => closed) (fun name => nofun) begun
      exact Reached.again_before gap (closed.of_suffix within.suffix) within.known

end Markup

end DiceLedger
