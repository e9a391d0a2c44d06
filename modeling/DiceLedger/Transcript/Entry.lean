import DiceLedger.Json.Access
import DiceLedger.Json.Reader
import DiceLedger.Markup.Reference
import DiceLedger.Notice
import DiceLedger.Post

/-! # What reading a transcript gives

A transcript is read into entries, in order: each is a post, or something passed over
with a notice, or a fault that whoever reads the transcript has to deal with. Whoever reads
it asks for one post after another (`answers`); what is passed over gives no answer of its
own.
-/

namespace DiceLedger

namespace Transcript

/-- Why a record makes no post. -/
inductive RecordFault where
  | mismatch (fault : Json.Mismatch)
  /-- A text inside the record should be JSON and is not. -/
  | text (fault : Json.Fault)
  | time (fault : EpochFault)
  deriving DecidableEq, Repr

/-- Why reading was interrupted. -/
inductive ReadFault where
  | record (fault : RecordFault)
  | tooManyDigits
  | tooDeep
  | markup (fault : Markup.Fault)
  | localize (fault : LocalizeFault)
  /-- The running clock leaves the calendar. -/
  | clockEnds
  deriving DecidableEq, Repr

/-- One thing read: notices, and a post unless it was passed over. -/
structure Entry where
  notices : List Notice
  outcome : Except ReadFault (Option Post)

namespace Entry

def skipped : Entry := ⟨[], .ok none⟩

def skippedWith (notice : Notice) : Entry := ⟨[notice], .ok none⟩

def post (post : Post) : Entry := ⟨[], .ok (some post)⟩

def fault (fault : ReadFault) : Entry := ⟨[], .error fault⟩

end Entry

def posts (entries : List Entry) : List Post :=
  entries.filterMap fun entry =>
    match entry.outcome with
    | .ok post => post
    | .error _ => none

/-- What a reader answers when it is asked for its next post: the notices since it was asked
before, and the post, or nothing at the end of the transcript, or a fault. -/
structure Answer where
  notices : List Notice
  result : Except ReadFault (Option Post)

/-- The next answer, and the entries it leaves for later. -/
def nextAnswer : List Entry → Answer × List Entry
  | [] => (⟨[], .ok none⟩, [])
  | entry :: rest =>
    match entry.outcome with
    | .ok none =>
      let (answer, left) := nextAnswer rest
      (⟨entry.notices ++ answer.notices, answer.result⟩, left)
    | result => (⟨entry.notices, result⟩, rest)

theorem length_nextAnswer (entry : Entry) (rest : List Entry) :
    (nextAnswer (entry :: rest)).2.length < (entry :: rest).length := by
  induction rest generalizing entry with
  | nil =>
      unfold nextAnswer
      split <;> simp [nextAnswer]
  | cons next later ih =>
      unfold nextAnswer
      split
      · exact Nat.lt_succ_of_lt (ih next)
      · exact Nat.lt_succ_self _

/-- The answers up to the one at the end of the transcript. A fault is no end: whoever asks
again is answered from what stands after it. -/
def answers : List Entry → List Answer
  | [] => [(nextAnswer []).1]
  | entry :: rest =>
    let next := nextAnswer (entry :: rest)
    match next.1.result with
    | .ok none => [next.1]
    | _ => next.1 :: answers next.2
termination_by entries => entries.length
decreasing_by exact length_nextAnswer entry rest

/-- The post or the fault of a result that has one. -/
def given? : Except ReadFault (Option Post) → Option (Except ReadFault Post)
  | .ok post => post.map .ok
  | .error fault => some (.error fault)

/-- What asking until the end gives: posts, with the faults between them. -/
def drain (entries : List Entry) : List (Except ReadFault Post) :=
  (answers entries).filterMap fun answer => given? answer.result

/-- A line without the characters that end it. -/
def withoutLineEnd (line : List Char) : List Char :=
  Text.dropEndWhile (fun c => c = '\r' || c = '\n') line

end Transcript

end DiceLedger
