import DiceLedger.Text.Cluster

/-! # Texts cut between clusters

The clusters of a text make up the text (`DiceLedger.Text.flatten_clusters`). Cutting goes from left
to right and begins anew at any boundary, so at a boundary between clusters either part is cut as if
it stood alone (`DiceLedger.Text.boundary_iff`).
-/

namespace DiceLedger

namespace Text

theorem flatten_clustersAfter (text : List Char) :
    ∀ (context : ClusterContext) (cluster : List Char),
      (clustersAfter context cluster text).flatten = cluster.reverse ++ text := by
  induction text with
  | nil =>
      intro context cluster
      rw [clustersAfter, List.flatten_singleton, List.append_nil]
  | cons c rest ih =>
      intro context cluster
      rw [clustersAfter]
      split
      · rw [ih, List.reverse_cons, List.append_assoc, List.singleton_append]
      · rw [List.flatten_cons, ih, List.reverse_singleton, List.singleton_append]

/-- The clusters of a text make up the text. -/
theorem flatten_clusters (text : List Char) : (clusters text).flatten = text := by
  cases text with
  | nil => rfl
  | cons c rest => exact flatten_clustersAfter rest _ [c]

theorem clusters_flatten_of_cons (text : List Char) :
    ∀ {context : ClusterContext} {cluster first : List Char} {rest : List (List Char)},
      clustersAfter context cluster text = first :: rest → clusters rest.flatten = rest := by
  induction text with
  | nil =>
      intro context cluster first rest cut
      obtain ⟨_, rfl⟩ := List.cons.inj cut
      rfl
  | cons c text ih =>
      intro context cluster first rest cut
      rw [clustersAfter] at cut
      split at cut
      · exact ih cut
      · obtain ⟨_, rfl⟩ := List.cons.inj cut
        rw [flatten_clustersAfter]
        rfl

/-- A text is cut anew at any boundary. -/
theorem clusters_flatten_of_append {text : List Char} {front back : List (List Char)}
    (cut : clusters text = front ++ back) : clusters back.flatten = back := by
  induction front generalizing text with
  | nil =>
      rw [List.nil_append] at cut
      rw [← cut, flatten_clusters]
  | cons first front ih =>
      cases text with
      | nil => cases cut
      | cons c text => exact ih (clusters_flatten_of_cons text cut)

/-- What stands before a boundary is cut as if nothing came behind it. -/
theorem exists_clustersAfter_eq (text : List Char) :
    ∀ {context : ClusterContext} {cluster : List Char} {before behind : List (List Char)},
      clustersAfter context cluster text = before ++ behind → before ≠ [] →
        ∃ front, clustersAfter context cluster front = before := by
  induction text with
  | nil =>
      intro context cluster before behind cut nonempty
      refine ⟨[], ?_⟩
      obtain ⟨first, rest, rfl⟩ := List.exists_cons_of_ne_nil nonempty
      obtain ⟨rfl, none⟩ := List.cons.inj cut
      rw [(List.append_eq_nil_iff.mp none.symm).1]
      rfl
  | cons c text ih =>
      intro context cluster before behind cut nonempty
      rw [clustersAfter] at cut
      split at cut
      · next joined =>
        obtain ⟨front, whole⟩ := ih cut nonempty
        exact ⟨c :: front, by rw [clustersAfter, if_pos joined, whole]⟩
      · next apart =>
        obtain ⟨first, rest, rfl⟩ := List.exists_cons_of_ne_nil nonempty
        obtain ⟨rfl, later⟩ := List.cons.inj cut
        -- The boundary may be the one in front of this character.
        by_cases last : rest = []
        · exact ⟨[], by rw [last, clustersAfter]⟩
        · obtain ⟨front, whole⟩ := ih later last
          exact ⟨c :: front, by rw [clustersAfter, if_neg apart, whole]⟩

/-- The clusters that a text begins with are those of what they make up. -/
theorem clusters_flatten_of_prefix {text : List Char} {before behind : List (List Char)}
    (cut : clusters text = before ++ behind) : clusters before.flatten = before := by
  by_cases nonempty : before = []
  · rw [nonempty]
    rfl
  · cases text with
    | nil => exact absurd (List.append_eq_nil_iff.mp cut.symm).1 nonempty
    | cons c text =>
        obtain ⟨front, whole⟩ := exists_clustersAfter_eq text cut nonempty
        have made : clusters (c :: front) = before := whole
        rw [← made, flatten_clusters]

/-- Two texts that meet at a boundary between the clusters of the whole. -/
def Boundary (front back : List Char) : Prop :=
  ∃ before behind, clusters (front ++ back) = before ++ behind ∧ before.flatten = front

/-- Texts meet at a boundary exactly if their clusters are those of the whole. -/
theorem boundary_iff {front back : List Char} :
    Boundary front back ↔ clusters (front ++ back) = clusters front ++ clusters back := by
  constructor
  · rintro ⟨before, behind, cut, rfl⟩
    have rest : behind.flatten = back := by
      have whole := flatten_clusters (before.flatten ++ back)
      rw [cut, List.flatten_append] at whole
      exact List.append_cancel_left whole
    rw [cut, clusters_flatten_of_prefix cut, ← rest, clusters_flatten_of_append cut]
  · intro apart
    exact ⟨clusters front, clusters back, apart, flatten_clusters front⟩

instance (front back : List Char) : Decidable (Boundary front back) :=
  decidable_of_iff _ boundary_iff.symm

theorem mem_of_singleton_mem_clusters {c : Char} {text : List Char}
    (member : [c] ∈ clusters text) : c ∈ text := by
  have inside := List.mem_flatten_of_mem member (List.mem_singleton_self c)
  rwa [flatten_clusters] at inside

end Text

end DiceLedger
