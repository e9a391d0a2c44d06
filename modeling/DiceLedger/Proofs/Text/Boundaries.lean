import DiceLedger.Text.Cluster

/-! # Clusters beside plain characters

Brackets and quotes are plain: of itself such a character joins nothing and is joined by nothing.
It is a cluster of its own unless a prepended character stands right before it
(`DiceLedger.Text.clusters_append_plain`) or a mark right behind it
(`DiceLedger.Text.clusters_cons_plain`), and the text on either side is cut as if it stood alone.
-/

namespace DiceLedger

namespace Text

/-- A character that joins whatever stands before it, unless that is a control. -/
def isMark (c : Char) : Bool :=
  match clusterClass c with
  | .extend | .joiner | .spacingMark => true
  | _ => false

/-- A character that is joined by whatever stands behind it, unless that is a control. -/
def isPrepended (c : Char) : Bool := clusterClass c = .prepend

/-- A character of no class that joins another. -/
structure Plain (c : Char) : Prop where
  kind : clusterClass c = .other
  pictograph : isPictograph c = false
  consonant : isConjunctConsonant c = false

namespace ClusterContext

/-- The context of a cluster after one more character, which joins it or begins the next. -/
def next (context : ClusterContext) (c : Char) : ClusterContext :=
  if context.joins c then context.join c else .begin c

def after (context : ClusterContext) (text : List Char) : ClusterContext := text.foldl next context

/-- The last class of a context is that of the character it was led on by. -/
theorem last_next (context : ClusterContext) (c : Char) :
    (context.next c).last = clusterClass c := by
  unfold next
  split <;> rfl

/-- The last class of a context is that of the last character. -/
theorem last_after_concat (context : ClusterContext) (text : List Char) (c : Char) :
    (context.after (text ++ [c])).last = clusterClass c := by
  rw [after, List.foldl_append]
  exact last_next _ c

/-- A plain character joins a cluster only behind a prepended one. -/
theorem joins_plain {c : Char} (plain : Plain c) (context : ClusterContext) :
    context.joins c = decide (context.last = .prepend) := by
  obtain ⟨last, halfFlag, pictographs, consonants⟩ := context
  cases last <;>
    simp [joins, joinsByClass?, plain.kind, plain.pictograph, plain.consonant]

/-- Only a mark joins a plain character. -/
theorem begin_joins {s : Char} (plain : Plain s) (c : Char) : (begin s).joins c = isMark c := by
  have started : begin s = ⟨.other, false, .absent, .absent⟩ := by
    simp [begin, plain.kind, nextPictographs, plain.pictograph, nextConsonants, plain.consonant]
  rw [started, joins, isMark]
  cases clusterClass c <;> simp [joinsByClass?]

end ClusterContext

/-- Where two characters do not join, the clusters of both parts stand one behind another. -/
theorem clustersAfter_append {context : ClusterContext} {text : List Char} {c : Char}
    (parts : (context.after text).joins c = false) (cluster rest : List Char) :
    clustersAfter context cluster (text ++ c :: rest) =
      clustersAfter context cluster text ++ clusters (c :: rest) := by
  induction text generalizing context cluster with
  | nil =>
      have here : context.joins c = false := parts
      simp only [List.nil_append, clustersAfter, here, Bool.false_eq_true, ↓reduceIte, clusters,
        List.cons_append]
  | cons d text ih =>
      rw [ClusterContext.after, List.foldl_cons, ClusterContext.next] at parts
      rw [List.cons_append, clustersAfter, clustersAfter]
      split
      · next joined =>
        rw [if_pos joined] at parts
        exact ih parts _
      · next apart =>
        rw [if_neg apart] at parts
        rw [ih parts, List.cons_append]

/-- Clusters begin anew at a plain character with no prepended one right before it. -/
theorem clusters_append_plain {before : List Char} {s : Char} (plain : Plain s)
    (apart : ∀ c ∈ before.getLast?, isPrepended c = false) (rest : List Char) :
    clusters (before ++ s :: rest) = clusters before ++ clusters (s :: rest) := by
  cases before with
  | nil => rfl
  | cons first before =>
      apply clustersAfter_append
      rw [ClusterContext.joins_plain plain, decide_eq_false_iff_not]
      -- The last character of what stands before settles what the sign may join.
      rcases List.eq_nil_or_concat before with rfl | ⟨front, last, rfl⟩
      · exact of_decide_eq_false (apart first rfl)
      · rw [List.concat_eq_append, ClusterContext.last_after_concat]
        refine of_decide_eq_false (apart last ?_)
        rw [List.concat_eq_append, ← List.cons_append, List.getLast?_concat]
        rfl

/-- A plain character with no mark right behind it is a cluster of its own. -/
theorem clusters_cons_plain {s : Char} (plain : Plain s) {rest : List Char}
    (apart : ∀ c ∈ rest.head?, isMark c = false) :
    clusters (s :: rest) = [s] :: clusters rest := by
  cases rest with
  | nil => rfl
  | cons c rest =>
      have here : (ClusterContext.begin s).joins c = false :=
        (ClusterContext.begin_joins plain c).trans (apart c rfl)
      rw [clusters, clustersAfter, here, if_neg Bool.false_ne_true]
      rfl

/-- The first cluster begins with the first character. -/
theorem head?_clustersAfter {first : Char} (text : List Char) :
    ∀ (context : ClusterContext) {cluster : List Char}, cluster.getLast? = some first →
      (clustersAfter context cluster text).head?.bind List.head? = some first := by
  induction text with
  | nil =>
      intro context cluster ends
      rw [clustersAfter, List.head?_cons, Option.bind_some, List.head?_reverse, ends]
  | cons c rest ih =>
      intro context cluster ends
      rw [clustersAfter]
      split
      · refine ih _ ?_
        rw [List.getLast?_cons, ends]
        rfl
      · rw [List.head?_cons, Option.bind_some, List.head?_reverse, ends]

/-- The first cluster of a text begins with the first character. -/
theorem head?_clusters (text : List Char) : (clusters text).head?.bind List.head? = text.head? := by
  cases text with
  | nil => rfl
  | cons c rest => exact head?_clustersAfter rest _ rfl

end Text

end DiceLedger
