import DiceLedger.Text.ClusterTable
import DiceLedger.Text.Ranges

/-! # Grapheme clusters

A cluster is what a reader takes for one character: a letter with its marks, a Hangul
syllable, a flag, a family of joined pictographs. A text is cut into clusters from left
to right, and whether a character joins the cluster before it hangs on that cluster
alone (`ClusterContext`), so cutting can begin anew at any boundary.
-/

namespace DiceLedger

namespace Text

/-- What a character does at the edge of a cluster. -/
inductive ClusterClass where
  | carriageReturn
  | lineFeed
  | control
  | extend
  | joiner
  | regional
  | prepend
  | spacingMark
  | leadingJamo
  | vowelJamo
  | trailingJamo
  /-- A Hangul syllable that a trailing consonant may still follow. -/
  | openSyllable
  | closedSyllable
  | other
  deriving DecidableEq, Repr

def clusterClass (c : Char) : ClusterClass :=
  let code := c.toNat
  if code = 0xD then .carriageReturn
  else if code = 0xA then .lineFeed
  else if code = 0x200D then .joiner
  else if inRanges code controlRanges then .control
  else if inRanges code extendRanges then .extend
  else if 0x1F1E6 ≤ code && code ≤ 0x1F1FF then .regional
  else if inRanges code prependRanges then .prepend
  else if inRanges code spacingMarkRanges then .spacingMark
  else if inRanges code leadingJamoRanges then .leadingJamo
  else if inRanges code vowelJamoRanges then .vowelJamo
  else if inRanges code trailingJamoRanges then .trailingJamo
  else if 0xAC00 ≤ code && code ≤ 0xD7A3 then
    if (code - 0xAC00) % 28 = 0 then .openSyllable else .closedSyllable
  else .other

def isPictograph (c : Char) : Bool := inRanges c.toNat pictographRanges
def isConjunctLinker (c : Char) : Bool := inRanges c.toNat conjunctLinkerRanges
def isConjunctConsonant (c : Char) : Bool := inRanges c.toNat conjunctConsonantRanges

/-- How a sequence that a later character may join has come along. -/
inductive Sequence where
  | absent
  | begun
  /-- The mark that ties in the next character has been met. -/
  | tied
  deriving DecidableEq, Repr

/-- What the cluster so far says about the next character. -/
structure ClusterContext where
  last : ClusterClass
  /-- The cluster ends in the first half of a flag. -/
  halfFlag : Bool
  pictographs : Sequence
  consonants : Sequence
  deriving DecidableEq, Repr

namespace ClusterContext

/-- The pictograph sequence after one more character. -/
def nextPictographs (before : Sequence) (c : Char) (kind : ClusterClass) : Sequence :=
  if isPictograph c then .begun
  else match before, kind with
    | .begun, .extend => .begun
    | .begun, .joiner => .tied
    | _, _ => .absent

/-- The sequence of Indic consonants after one more character. -/
def nextConsonants (before : Sequence) (c : Char) (kind : ClusterClass) : Sequence :=
  if isConjunctConsonant c then .begun
  else if before = .absent then .absent
  else if isConjunctLinker c then .tied
  else if (kind = .extend && c.toNat ≠ 0x200C) || kind = .joiner then before
  else .absent

def begin (c : Char) : ClusterContext :=
  let kind := clusterClass c
  { last := kind
    halfFlag := kind = .regional
    pictographs := nextPictographs .absent c kind
    consonants := nextConsonants .absent c kind }

/-- The context of a cluster that a character has joined. -/
def join (context : ClusterContext) (c : Char) : ClusterContext :=
  let kind := clusterClass c
  { last := kind
    halfFlag := kind = .regional && !context.halfFlag
    pictographs := nextPictographs context.pictographs c kind
    consonants := nextConsonants context.consonants c kind }

/-- Whether two classes side by side settle that there is, or is no, boundary between
them. -/
def joinsByClass? (before after : ClusterClass) : Option Bool :=
  match before, after with
  | .carriageReturn, .lineFeed => some true
  | .carriageReturn, _ | .lineFeed, _ | .control, _ => some false
  | _, .carriageReturn | _, .lineFeed | _, .control => some false
  | .leadingJamo, .leadingJamo | .leadingJamo, .vowelJamo => some true
  | .leadingJamo, .openSyllable | .leadingJamo, .closedSyllable => some true
  | .openSyllable, .vowelJamo | .openSyllable, .trailingJamo => some true
  | .vowelJamo, .vowelJamo | .vowelJamo, .trailingJamo => some true
  | .closedSyllable, .trailingJamo | .trailingJamo, .trailingJamo => some true
  | _, .extend | _, .joiner | _, .spacingMark => some true
  | .prepend, _ => some true
  | _, _ => none

def joins (context : ClusterContext) (c : Char) : Bool :=
  match joinsByClass? context.last (clusterClass c) with
  | some answer => answer
  | none =>
    (context.consonants = .tied && isConjunctConsonant c) ||
      (context.pictographs = .tied && isPictograph c) ||
      (context.halfFlag && clusterClass c = .regional)

end ClusterContext

/-- The clusters of a text after the cluster in progress, which is given reversed. -/
def clustersAfter : ClusterContext → List Char → List Char → List (List Char)
  | _, cluster, [] => [cluster.reverse]
  | context, cluster, c :: rest =>
    if context.joins c then clustersAfter (context.join c) (c :: cluster) rest
    else cluster.reverse :: clustersAfter (.begin c) [c] rest

/-- The clusters of a text. -/
def clusters : List Char → List (List Char)
  | [] => []
  | c :: rest => clustersAfter (.begin c) [c] rest

end Text

end DiceLedger
