/-! # The latest thing said

Of things that come one after another some say something, and what a thing says may depend on
those before it. The latest thing that says anything is the one behind which nothing does
(`DiceLedger.Transcript.latest?_eq_some_iff`); a further thing is the latest if it says
anything (`DiceLedger.Transcript.latest?_concat`).
-/

namespace DiceLedger

namespace Transcript

variable {α β : Type} (said : List α → α → Option β)

/-- What the latest of some things says, behind those before them. -/
def latestBehind? (before : List α) : List α → Option β
  | [] => none
  | x :: rest => (latestBehind? (before ++ [x]) rest).or (said before x)

/-- What the latest thing says that says anything; each is understood behind those before
it. -/
def latest? (xs : List α) : Option β := latestBehind? said [] xs

variable {said}

/-- The latest is what the last one says, or else the latest before. -/
theorem latestBehind?_concat (before xs : List α) (x : α) :
    latestBehind? said before (xs ++ [x]) =
      (said (before ++ xs) x).or (latestBehind? said before xs) := by
  induction xs generalizing before with
  | nil => simp only [List.nil_append, List.append_nil, latestBehind?, Option.none_or,
      Option.or_none]
  | cons y rest ih =>
      simp only [List.cons_append, latestBehind?, ih, Option.or_assoc, List.append_assoc,
        List.nil_append]

/-- The last thing goes first. -/
theorem latest?_concat (xs : List α) (x : α) :
    latest? said (xs ++ [x]) = (said xs x).or (latest? said xs) :=
  latestBehind?_concat [] xs x

/-- There is no latest exactly when none says anything. -/
theorem latestBehind?_eq_none_iff {before xs : List α} :
    latestBehind? said before xs = none ↔
      ∀ early x after, xs = early ++ x :: after → said (before ++ early) x = none := by
  induction xs generalizing before with
  | nil => simp [latestBehind?]
  | cons x rest ih =>
      rw [latestBehind?, Option.or_eq_none_iff, ih]
      constructor
      · rintro ⟨later, here⟩ (_ | ⟨y, early⟩) z after cut
        · obtain ⟨rfl, -⟩ := List.cons.inj cut
          rwa [List.append_nil]
        · obtain ⟨rfl, rfl⟩ := List.cons.inj cut
          rw [List.append_cons]
          exact later early z after rfl
      · intro silent
        refine ⟨fun early z after cut => ?_, ?_⟩
        · rw [← List.append_cons]
          exact silent (x :: early) z after (congrArg (x :: ·) cut)
        · have first := silent [] x rest rfl
          rwa [List.append_nil] at first

/-- The latest is what one says behind which none says anything. -/
theorem latestBehind?_eq_some_iff {before xs : List α} {found : β} :
    latestBehind? said before xs = some found ↔
      ∃ early x after, xs = early ++ x :: after ∧ said (before ++ early) x = some found ∧
        latestBehind? said (before ++ early ++ [x]) after = none := by
  induction xs generalizing before with
  | nil => simp [latestBehind?]
  | cons x rest ih =>
      rw [latestBehind?, Option.or_eq_some_iff, ih]
      constructor
      · rintro (⟨early, y, after, rfl, saying, silent⟩ | ⟨silent, here⟩)
        · rw [← List.append_cons before x early] at saying silent
          exact ⟨x :: early, y, after, rfl, saying, silent⟩
        · exact ⟨[], x, rest, rfl, by rwa [List.append_nil], by rwa [List.append_nil]⟩
      · rintro ⟨_ | ⟨y, early⟩, z, after, cut, saying, silent⟩
        · obtain ⟨rfl, rfl⟩ := List.cons.inj cut
          rw [List.append_nil] at saying silent
          exact .inr ⟨silent, saying⟩
        · obtain ⟨rfl, rfl⟩ := List.cons.inj cut
          rw [List.append_cons before x early] at saying silent
          exact .inl ⟨early, z, after, rfl, saying, silent⟩

/-- A thing says the latest exactly when nothing behind it says anything. -/
theorem latest?_eq_some_iff {xs : List α} {found : β} :
    latest? said xs = some found ↔
      ∃ early x after, xs = early ++ x :: after ∧ said early x = some found ∧
        ∀ between y rest, after = between ++ y :: rest →
          said (early ++ [x] ++ between) y = none := by
  rw [latest?, latestBehind?_eq_some_iff]
  simp only [latestBehind?_eq_none_iff, List.nil_append]

end Transcript

end DiceLedger
