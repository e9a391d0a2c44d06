import DiceLedger.Proofs.Json.Access
import DiceLedger.Proofs.Transcript.Answers
import DiceLedger.Transcript.Foundry

/-! # The lines of a Foundry log stand alone

Every line is read by itself, so a log is drained line by line. A line that cannot be read is
passed over, unless it holds an excess (`DiceLedger.Transcript.Foundry.Excess`): a number of
too many digits, values nested too deep, or, in a record, a number that is no die, no total or
no time because of its size. An excess fails the one call that comes upon it
(`DiceLedger.Transcript.Foundry.drain_read_lines`).
-/

namespace DiceLedger

namespace Transcript

namespace Foundry

/-- A number in a term that no die can show. -/
inductive TermExcess (term : Json) : Prop
  | faces {value : Json} (has : term.Has "faces" value) (infinite : value.IsInfinite)
  | result {results result value : Json} (has : term.Has "results" results)
      (lists : results.Lists result) (shows : result.Has "result" value)
      (infinite : value.IsInfinite)

/-- What in a roll stops the reading of a log. -/
inductive RollExcess (payload : Json) : Prop
  | nesting {text : LooseText} (written : payload = .string text)
      (deep : Json.readLetters text.letters = .error .tooDeep)
  | total {value total : Json} (decoded : rollValue payload = .ok value)
      (has : value.Has "total" total) (large : total.IsPastDoubles)
  | term {value terms term : Json} (decoded : rollValue payload = .ok value)
      (has : value.Has "terms" terms) (lists : terms.Lists term) (excess : TermExcess term)

/-- A time that no clock of the host counts: the number is infinite, the seconds do not fit 64
bits, or the year does not fit 32. -/
inductive TimeExcess (millis : Json) : Prop
  | infinite (infinite : millis.IsInfinite)
  | seconds {whole : Int} (read : millis.toWhole = .ok whole)
      (far : whole / 1000 < -9223372036854775808 ∨ 9223372036854775808 ≤ whole / 1000)
  | year {whole : Int} (read : millis.toWhole = .ok whole)
      (far : (Date.ofDayNumber (whole / 1000 / 86400 + epochDay)).year - 1900 < -2147483648 ∨
        2147483648 ≤ (Date.ofDayNumber (whole / 1000 / 86400 + epochDay)).year - 1900)

/-- What in a record stops the reading of a log. -/
inductive RecordExcess (record : Json) : Prop
  | roll {payloads payload : Json} (has : record.Has "rolls" payloads)
      (lists : payloads.Lists payload) (excess : RollExcess payload)
  | time {millis : Json} (has : record.Has "timestamp" millis) (excess : TimeExcess millis)

/-- What in a line stops the reading of a log. -/
inductive Excess (line : List Char) : Prop
  | digits (written : Json.read (Text.trim line) = .error .tooManyDigits)
  | nesting (written : Json.read (Text.trim line) = .error .tooDeep)
  | record {record : Json} (written : Json.read (Text.trim line) = .ok record)
      (excess : RecordExcess record)

/-- A fault that is not passed over comes from a magnitude. -/
theorem expect_eq_error {α : Type} {result : Except Json.Mismatch α} {fault : RecordFault}
    (failed : expect result = .error fault) (grave : isPassedOver fault = false) :
    result = .error .tooLarge := by
  cases result with
  | ok value => cases failed
  | error mismatch =>
    obtain rfl := Except.error.inj failed
    cases mismatch <;> first | rfl | cases grave

/-- What is found as expected was found. -/
theorem expect_eq_ok {α : Type} {result : Except Json.Mismatch α} {value : α}
    (read : expect result = .ok value) : result = .ok value := by
  cases result with
  | ok other => exact congrArg Except.ok (Except.ok.inj read)
  | error mismatch => cases read

section Grave

variable {fault : RecordFault} (grave : isPassedOver fault = false)

include grave

/-- The dice of a term end a call only for its excess. -/
theorem termDice_eq_error {term : Json} (failed : termDice term = .error fault) :
    TermExcess term := by
  rw [termDice, Except.bind_eq_error] at failed
  rcases failed with kind | ⟨kind, _, failed⟩
  · exact absurd (expect_eq_error kind grave) (Json.fieldOr_ne_tooLarge _ _ _)
  split at failed
  · cases failed
  rcases Except.bind_eq_error.mp failed with faces | ⟨faces, _, failed⟩
  · obtain ⟨value, has, infinite⟩ := Json.require_toWhole_eq_tooLarge (expect_eq_error faces grave)
    exact .faces has infinite
  rcases Except.bind_eq_error.mp failed with results | ⟨results, read, failed⟩
  · exact absurd (expect_eq_error results grave) (Json.fieldOr_items_ne_tooLarge _ _ _)
  obtain ⟨result, member, failed⟩ := Except.exists_of_mapM_eq_error failed
  rcases Except.bind_eq_error.mp failed with outcome | ⟨_, _, never⟩
  · obtain ⟨list, has, lists⟩ := Json.fieldOr_items_eq_ok (expect_eq_ok read) result member
    obtain ⟨value, shows, infinite⟩ :=
      Json.require_toWhole_eq_tooLarge (expect_eq_error outcome grave)
    exact .result has lists shows infinite
  · cases never

/-- The value of a roll ends a call only for the excess of its payload. -/
theorem rollValue_eq_error {payload : Json} (failed : rollValue payload = .error fault) :
    RollExcess payload := by
  cases payload with
  | string text =>
    simp only [rollValue] at failed
    cases read : Json.readLetters text.letters with
    | ok value => rw [read] at failed; cases failed
    | error other =>
      rw [read] at failed
      obtain rfl := Except.error.inj failed
      -- Text inside a record that is no JSON is passed over, too many digits included.
      cases other with
      | tooDeep => exact .nesting rfl read
      | malformed => cases grave
      | tooManyDigits => cases grave
  | _ => cases failed

/-- A roll ends a call only for the excess of its payload. -/
theorem readRoll_eq_error {payload : Json} (failed : readRoll payload = .error fault) :
    RollExcess payload := by
  rw [readRoll, Except.bind_eq_error] at failed
  rcases failed with text | ⟨value, decoded, failed⟩
  · exact rollValue_eq_error grave text
  rcases Except.bind_eq_error.mp failed with terms | ⟨terms, read, failed⟩
  · exact absurd (expect_eq_error terms grave) (Json.fieldOr_items_ne_tooLarge _ _ _)
  rcases Except.bind_eq_error.mp failed with dice | ⟨dice, _, failed⟩
  · obtain ⟨term, member, excess⟩ := Except.exists_of_mapM_eq_error dice
    obtain ⟨list, has, lists⟩ := Json.fieldOr_items_eq_ok (expect_eq_ok read) term member
    exact .term decoded has lists (termDice_eq_error grave excess)
  rcases Except.bind_eq_error.mp failed with formula | ⟨formula, _, failed⟩
  · exact absurd (expect_eq_error formula grave) (Json.require_ne_tooLarge _ _)
  rcases Except.bind_eq_error.mp failed with total | ⟨_, _, never⟩
  · obtain ⟨value, has, large⟩ := Json.require_toDouble_eq_tooLarge (expect_eq_error total grave)
    exact .total decoded has large
  · cases never

/-- The rolls of a record end a call only for the excess of one of the payloads it lists. -/
theorem recordRolls_eq_error {payloads : Json} (failed : recordRolls payloads = .error fault) :
    ∃ payload, payloads.Lists payload ∧ RollExcess payload := by
  rw [recordRolls] at failed
  split at failed
  · rcases Except.bind_eq_error.mp failed with items | ⟨items, read, failed⟩
    · exact absurd (expect_eq_error items grave) (Json.items_ne_tooLarge _)
    · obtain ⟨payload, member, excess⟩ := Except.exists_of_mapM_eq_error failed
      exact ⟨payload, ⟨items, expect_eq_ok read, member⟩, readRoll_eq_error grave excess⟩
  · cases failed

/-- A time ends a call only for its excess. -/
theorem readTime_eq_error {millis : Json} (failed : readTime millis = .error fault) :
    TimeExcess millis := by
  rw [readTime, Except.bind_eq_error] at failed
  rcases failed with whole | ⟨whole, read, failed⟩
  · exact .infinite (Json.toWhole_eq_tooLarge (expect_eq_error whole grave))
  · have read := expect_eq_ok read
    simp only [Timestamp.ofEpochMillis] at failed
    split at failed
    · next far => exact .seconds read far
    · split at failed
      · next far => exact .year read far
      · split at failed
        · cases failed
        · obtain rfl := Except.error.inj failed
          cases grave

/-- A record ends a call only for its excess. -/
theorem readRecord_eq_error {record : Json} (failed : readRecord record = .error fault) :
    RecordExcess record := by
  rw [readRecord, Except.bind_eq_error] at failed
  rcases failed with kind | ⟨kind, _, failed⟩
  · exact absurd (expect_eq_error kind grave) (Json.fieldOr_ne_tooLarge _ _ _)
  split at failed
  · cases failed
  rcases Except.bind_eq_error.mp failed with whisper | ⟨whisper, _, failed⟩
  · exact absurd (expect_eq_error whisper grave) (Json.fieldOr_ne_tooLarge _ _ _)
  split at failed
  · cases failed
  rcases Except.bind_eq_error.mp failed with payloads | ⟨payloads, found, failed⟩
  · exact absurd (expect_eq_error payloads grave) (Json.fieldOr_ne_tooLarge _ _ _)
  rcases Except.bind_eq_error.mp failed with rolls | ⟨rolls, _, failed⟩
  · obtain ⟨payload, lists, excess⟩ := recordRolls_eq_error grave rolls
    rcases Json.fieldOr_eq_ok (expect_eq_ok found) with has | rfl
    · exact .roll has lists excess
    · obtain ⟨items, listed, _⟩ := lists
      cases listed
  rcases Except.bind_eq_error.mp failed with id | ⟨id, _, failed⟩
  · exact absurd (expect_eq_error id grave) (Json.require_ne_tooLarge _ _)
  rcases Except.bind_eq_error.mp failed with sender | ⟨sender, _, failed⟩
  · exact absurd (expect_eq_error sender grave) (Json.require_require_ne_tooLarge _ _ _)
  rcases Except.bind_eq_error.mp failed with millis | ⟨millis, found, failed⟩
  · exact absurd (expect_eq_error millis grave) (Json.require_ne_tooLarge _ _)
  rcases Except.bind_eq_error.mp failed with time | ⟨time, _, failed⟩
  · exact .time (Json.require_eq_ok (expect_eq_ok found)) (readTime_eq_error grave time)
  rcases Except.bind_eq_error.mp failed with content | ⟨_, _, never⟩
  · exact absurd (expect_eq_error content grave) (Json.fieldOr_ne_tooLarge _ _ _)
  · cases never

end Grave

/-- Only an excess interrupts the reading of a line. -/
theorem readLine_eq_error {line : List Char} {stop : ReadFault}
    (failed : (readLine line).outcome = .error stop) : Excess line := by
  unfold readLine at failed
  dsimp only at failed
  split at failed
  · cases failed
  split at failed
  · cases failed
  · next written => exact .digits written
  · next written => exact .nesting written
  · next fields written =>
    split at failed
    · cases failed
    · cases failed
    · next fault read =>
      split at failed
      · cases failed
      · next grave =>
        exact .record written (readRecord_eq_error (Bool.eq_false_iff.mpr grave) read)
  · cases failed

/-- Asked to the end, the reader of one line answers with it, if it gives anything. -/
theorem drain_read_singleton (line : List Char) :
    drain (read [line]) = (given? (readLine line).outcome).toList := by
  rw [read, List.map_singleton, drain_cons, drain_eq_filterMap]
  exact List.append_nil _

/-- **One line of a log never stops the others.** Asking until the end gives what each line
gives on its own, in order, and a call is answered with a fault only for a line with an
excess. -/
theorem drain_read_lines (lines : List (List Char)) :
    drain (read lines) = lines.flatMap (fun line => drain (read [line])) ∧
      ∀ answer ∈ answers (read lines), ∀ stop, answer.result = .error stop →
        ∃ line ∈ lines, Excess line ∧ drain (read [line]) = [.error stop] := by
  refine ⟨?_, ?_⟩
  · induction lines with
    | nil => rw [read, List.map_nil, drain_eq_filterMap]; rfl
    | cons line rest ih =>
      have apart : read (line :: rest) = read [line] ++ read rest := rfl
      rw [apart, drain_append, ih, List.flatMap_cons]
  · intro answer member stop failed
    obtain ⟨entry, read, interrupted⟩ :=
      (exists_answer_error_iff (read lines) stop).mp ⟨answer, member, failed⟩
    obtain ⟨line, held, rfl⟩ := List.mem_map.mp read
    refine ⟨line, held, readLine_eq_error interrupted, ?_⟩
    rw [drain_read_singleton, given?_eq_error.mpr interrupted]
    rfl

/-- A record whose time is endless. -/
def endlessLine : List Char :=
  "\x7b\"_id\":1,\"speaker\":\x7b\"alias\":1\x7d,\"timestamp\":Infinity\x7d".toList

/-- The reader does not pass over a record whose time is endless: the call fails. -/
theorem answers_endlessLine :
    ¬ ∀ lines : List (List Char), ∀ answer ∈ answers (read lines),
      ∃ found, answer.result = .ok found := by
  intro calm
  have interrupted : (readLine endlessLine).outcome = .error (.record (.mismatch .tooLarge)) :=
    faultOf?_eq_some.mp (by decide +kernel)
  obtain ⟨answer, member, failed⟩ :=
    (exists_answer_error_iff (read [endlessLine]) _).mpr ⟨_, List.mem_cons_self, interrupted⟩
  obtain ⟨found, fine⟩ := calm [endlessLine] answer member
  rw [failed] at fine
  cases fine

end Foundry

end Transcript

end DiceLedger
