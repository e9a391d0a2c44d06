import DiceLedger.Proofs.Store.Saving

/-! # How a save ends

The statements of a save write to the open transaction and leave the kept tables alone
(`DiceLedger.Store.writePost_kept`). So the tables are those from before the save, whichever of
its statements fails and whatever rows the others have written
(`DiceLedger.Store.attempt_of_fault`). A save either leaves the tables as they are or writes all
rows of a new post (`DiceLedger.Store.attempt_cases`), and of the tables only whether they have
the identifier plays a part in how it ends (`DiceLedger.Store.attempt_ended`).
-/

namespace DiceLedger

namespace Store

@[simp] theorem Connection.write_kept (connection : Connection) (change : Tables → Tables) :
    (connection.write change).kept = connection.kept := rfl

/-- Writing the row of a post keeps nothing before the end of the transaction. -/
theorem insertPost_kept (campaign : String) (post : Post) (connection : Connection) :
    (insertPost campaign post connection).2.kept = connection.kept := by
  unfold insertPost
  split
  · rfl
  · split <;> rfl

/-- Writing dice keeps nothing before the end of the transaction. -/
theorem insertDice_kept (number : Nat) (dice : List Die) (connection : Connection) :
    (insertDice number dice connection).2.kept = connection.kept := by
  induction dice generalizing connection with
  | nil => rfl
  | cons die rest ih =>
      rw [insertDice]
      split
      · rw [ih, Connection.write_kept]
      · rfl

/-- The connection with the row of a roll. -/
def withRollRow (campaign : String) (id : LooseText) (roll : Roll) (connection : Connection) :
    Connection :=
  connection.write fun tables =>
    { tables with
      rolls := tables.rolls ++
        [⟨connection.working.rolls.length + 1, campaign, id, roll.formula,
          keptOutcome roll.outcome⟩] }

/-- Writing rolls turn by turn: the row of a roll, its dice, and then the others. -/
theorem insertRolls_cons (campaign : String) (id : LooseText) {roll : Roll} (rest : List Roll)
    (connection : Connection) (checked : checkRoll roll = .ok ()) :
    insertRolls campaign id (roll :: rest) connection =
      match insertDice (connection.working.rolls.length + 1) roll.dice
          (withRollRow campaign id roll connection) with
      | (.ok (), connection) => insertRolls campaign id rest connection
      | (.error fault, connection) => (.error fault, connection) := by
  rw [insertRolls, checked]
  rfl

/-- A roll that is refused ends the writing of rolls. -/
theorem insertRolls_cons_of_fault (campaign : String) (id : LooseText) {roll : Roll}
    {fault : StoreFault} (rest : List Roll) (connection : Connection)
    (refused : checkRoll roll = .error fault) :
    insertRolls campaign id (roll :: rest) connection = (.error fault, connection) := by
  rw [insertRolls, refused]

/-- Writing rolls keeps nothing before the end of the transaction. -/
theorem insertRolls_kept (campaign : String) (id : LooseText) (rolls : List Roll)
    (connection : Connection) :
    (insertRolls campaign id rolls connection).2.kept = connection.kept := by
  induction rolls generalizing connection with
  | nil => rfl
  | cons roll rest ih =>
      cases checked : checkRoll roll with
      | error fault => rw [insertRolls_cons_of_fault _ _ _ _ checked]
      | ok ended =>
        rw [insertRolls_cons _ _ _ _ checked]
        have dealt : (insertDice (connection.working.rolls.length + 1) roll.dice
            (withRollRow campaign id roll connection)).2.kept = connection.kept :=
          insertDice_kept _ _ _
        split
        · next later inserted =>
          rw [inserted] at dealt
          rw [ih, dealt]
        · next fault left inserted =>
          rw [inserted] at dealt
          exact dealt

/-- No statement of a save touches the kept tables. -/
theorem writePost_kept (campaign : String) (post : Post) (connection : Connection) :
    (writePost campaign post connection).2.kept = connection.kept := by
  have inserted := insertPost_kept campaign post connection
  unfold writePost
  split
  · next later wrote =>
    rw [wrote] at inserted
    rw [insertRolls_kept]
    exact inserted
  · next later wrote =>
    rw [wrote] at inserted
    exact inserted
  · next fault left wrote =>
    rw [wrote] at inserted
    exact inserted

/-- A save that fails leaves the store as it was. -/
theorem attempt_of_fault {store left : Store} {campaign : String} {post : Post}
    {fault : StoreFault} (failed : store.attempt campaign post = (.error fault, left)) :
    left = store := by
  obtain ⟨_ | tables⟩ := store
  · exact (Prod.mk.inj failed).2.symm
  · have kept := writePost_kept campaign post (.opened tables)
    simp only [attempt, transact] at failed
    rcases wrote : writePost campaign post (.opened tables) with ⟨refused | ended, connection⟩
    · rw [wrote] at kept failed
      obtain ⟨-, rfl⟩ := Prod.mk.inj failed
      exact congrArg (fun tables => Store.mk (some tables)) kept
    · rw [wrote] at failed
      cases failed

/-- A post that cannot be kept leaves nothing behind, whether it is refused or passed over. -/
theorem attempt_of_not_kept (tables : Tables) (campaign : String) {post : Post}
    (unfit : ¬ post.Kept) : (attempt ⟨some tables⟩ campaign post).2 = ⟨some tables⟩ := by
  rcases tried : attempt ⟨some tables⟩ campaign post with ⟨fault | ended, left⟩
  · exact attempt_of_fault tried
  · simp only [attempt, transact] at tried
    rcases wrote : writePost campaign post (.opened tables) with ⟨fault | ended, connection⟩
    · rw [wrote] at tried
      cases tried
    · rw [wrote] at tried
      rcases writePost_eq_ok wrote with rfl | ⟨-, kept⟩
      · exact (Prod.mk.inj tried).2.symm
      · exact absurd kept unfit

/-- A new post that can be held is written whole. -/
theorem attempt_of_new {tables : Tables} {campaign : String} {post : Post}
    (absent : Tables.has tables campaign post.id = false) (kept : post.Kept) :
    attempt ⟨some tables⟩ campaign post =
      (.ok (), ⟨some (Tables.withPost tables campaign post)⟩) := by
  rw [attempt_of_kept tables campaign post kept, Tables.offered_of_not_has absent]

/-- Only a post that is new and can be kept is written. -/
theorem attempt_of_passed {tables : Tables} {campaign : String} {post : Post}
    (passed : ¬ (Tables.has tables campaign post.id = false ∧ post.Kept)) :
    (attempt ⟨some tables⟩ campaign post).2 = ⟨some tables⟩ := by
  by_cases kept : post.Kept
  · have present : Tables.has tables campaign post.id = true := by
      rw [← Bool.not_eq_false]
      exact fun absent => passed ⟨absent, kept⟩
    rw [attempt_of_kept tables campaign post kept, Tables.offered_of_has present]
  · exact attempt_of_not_kept tables campaign kept

/-- A save leaves the tables as they are, or writes a new post that can be kept. -/
theorem attempt_cases (tables : Tables) (campaign : String) (post : Post) :
    (attempt ⟨some tables⟩ campaign post).2 = ⟨some tables⟩ ∨
      (Tables.has tables campaign post.id = false ∧ post.Kept ∧
        attempt ⟨some tables⟩ campaign post =
          (.ok (), ⟨some (Tables.withPost tables campaign post)⟩)) := by
  by_cases new : Tables.has tables campaign post.id = false ∧ post.Kept
  · exact .inr ⟨new.1, new.2, attempt_of_new new.1 new.2⟩
  · exact .inl (attempt_of_passed new)

/-- Whether dice are written does not hang on the tables. -/
theorem insertDice_ended (number other : Nat) (dice : List Die) (a b : Connection) :
    (insertDice number dice a).1 = (insertDice other dice b).1 := by
  induction dice generalizing a b with
  | nil => rfl
  | cons die rest ih =>
      simp only [insertDice]
      split
      · apply ih
      · rfl

/-- Whether rolls are written does not hang on the tables. -/
theorem insertRolls_ended (campaign : String) (id : LooseText) (rolls : List Roll)
    (a b : Connection) :
    (insertRolls campaign id rolls a).1 = (insertRolls campaign id rolls b).1 := by
  induction rolls generalizing a b with
  | nil => rfl
  | cons roll rest ih =>
      cases checked : checkRoll roll with
      | error fault =>
        rw [insertRolls_cons_of_fault _ _ _ _ checked, insertRolls_cons_of_fault _ _ _ _ checked]
      | ok ended =>
        rw [insertRolls_cons _ _ _ _ checked, insertRolls_cons _ _ _ _ checked]
        have same := insertDice_ended (a.working.rolls.length + 1) (b.working.rolls.length + 1)
          roll.dice (withRollRow campaign id roll a) (withRollRow campaign id roll b)
        rcases dealt : insertDice _ roll.dice (withRollRow campaign id roll a) with
          ⟨fault | ended, later⟩
        · rw [dealt] at same
          rcases again : insertDice _ roll.dice (withRollRow campaign id roll b) with
            ⟨other | ended, left⟩
          · rw [again] at same
            exact congrArg Except.error (Except.error.inj same)
          · rw [again] at same
            cases same
        · rw [dealt] at same
          rcases again : insertDice _ roll.dice (withRollRow campaign id roll b) with
            ⟨other | ended, left⟩
          · rw [again] at same
            cases same
          · exact ih later left

/-- Whether the row of a post is written hangs on the tables only in that they have it or not. -/
theorem insertPost_ended (campaign : String) (post : Post) (a b : Connection)
    (alike : Tables.has a.working campaign post.id = Tables.has b.working campaign post.id) :
    (insertPost campaign post a).1 = (insertPost campaign post b).1 := by
  unfold insertPost
  split
  · rfl
  · rw [alike]
    split <;> rfl

/-- Whether a post is written hangs on the tables only in that they have it or not. -/
theorem writePost_ended (campaign : String) (post : Post) (a b : Connection)
    (alike : Tables.has a.working campaign post.id = Tables.has b.working campaign post.id) :
    (writePost campaign post a).1 = (writePost campaign post b).1 := by
  have same := insertPost_ended campaign post a b alike
  unfold writePost
  rcases first : insertPost campaign post a with ⟨fault | wrote, later⟩ <;>
    rcases second : insertPost campaign post b with ⟨other | wroteToo, left⟩ <;>
    rw [first, second] at same
  · exact congrArg Except.error (Except.error.inj same)
  · cases same
  · cases same
  · obtain rfl := Except.ok.inj same
    cases wrote with
    | true => exact insertRolls_ended campaign post.id post.rolls later left
    | false => rfl

/-- Of the tables, only whether they have the identifier plays a part in how a save ends. -/
theorem attempt_ended {a b : Tables} {campaign : String} {post : Post}
    (alike : Tables.has a campaign post.id = Tables.has b campaign post.id) :
    (attempt ⟨some a⟩ campaign post).1 = (attempt ⟨some b⟩ campaign post).1 := by
  have same := writePost_ended campaign post (.opened a) (.opened b) alike
  simp only [attempt, transact]
  rcases first : writePost campaign post (.opened a) with ⟨fault | ended, later⟩ <;>
    rcases second : writePost campaign post (.opened b) with ⟨other | endedToo, left⟩ <;>
    rw [first, second] at same
  · exact same
  · cases same
  · cases same

end Store

end DiceLedger
