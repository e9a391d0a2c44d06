import DiceLedger.Proofs.Json.Access
import DiceLedger.Store

/-! # What saving a post does to the tables

A post whose texts have an encoding, whose content can be kept, whose totals are numbers and whose
dice fit 64 bits is never refused by a prepared store. Saving it writes its rows at the end of the
three tables (`DiceLedger.Store.Tables.withPost`), or changes nothing when the campaign has its
identifier (`DiceLedger.Store.attempt_of_kept`). No other post is ever written
(`DiceLedger.Store.kept_of_save_eq_ok`). -/

namespace DiceLedger

/-- A post whose texts are made of characters, and whose content is one of them. -/
structure Post.Plain (post : Post) : Prop where
  id : post.id.isPlain = true
  sender : post.sender.isPlain = true
  content : ∃ text : String, post.content = .string text
  formulas : ∀ roll ∈ post.rolls, roll.formula.isPlain = true

/-- A post that every prepared store takes. -/
structure Post.Storable (post : Post) : Prop extends post.Plain where
  totals : ∀ roll ∈ post.rolls, roll.outcome.isNaN = false
  faces : ∀ roll ∈ post.rolls, ∀ die ∈ roll.dice, Store.fits64 die.faces = true
  outcomes : ∀ roll ∈ post.rolls, ∀ die ∈ roll.dice, Store.fits64 die.outcome = true

/-- A content that the table of posts can hold. -/
inductive Json.Kept : Json → Prop
  | string (text : String) : Kept (.string text)
  | bool (value : Bool) : Kept (.bool value)
  | integer {value : Int} (fits : Store.fits64 value = true) : Kept (.integer value)
  | number {value : Binary64} (number : value.isNaN = false) : Kept (.number value)

/-- A post that the tables can hold. -/
structure Post.Kept (post : Post) : Prop where
  id : post.id.isPlain = true
  sender : post.sender.isPlain = true
  content : post.content.Kept
  formulas : ∀ roll ∈ post.rolls, roll.formula.isPlain = true
  totals : ∀ roll ∈ post.rolls, roll.outcome.isNaN = false
  faces : ∀ roll ∈ post.rolls, ∀ die ∈ roll.dice, Store.fits64 die.faces = true
  outcomes : ∀ roll ∈ post.rolls, ∀ die ∈ roll.dice, Store.fits64 die.outcome = true

/-- What every prepared store takes, the tables can hold. -/
theorem Post.Storable.kept {post : Post} (storable : post.Storable) : post.Kept where
  id := storable.id
  sender := storable.sender
  content := by
    obtain ⟨text, content⟩ := storable.content
    rw [content]
    exact .string text
  formulas := storable.formulas
  totals := storable.totals
  faces := storable.faces
  outcomes := storable.outcomes

namespace Store

/-- A text has an encoding exactly when it is made of characters, and is kept as it is. -/
theorem encodable_eq_ok_iff {loose given : LooseText} :
    encodable loose = .ok given ↔ loose.isPlain = true ∧ loose = given := by
  unfold encodable
  split
  · next plain => simp only [plain, Except.ok.injEq, true_and]
  · next broken => simp only [broken, reduceCtorEq, false_and]

/-- A content comes to a value of a column exactly when the table can hold it. -/
theorem checkContent_eq_ok_true_iff {content : Json} :
    checkContent content = .ok true ↔ content.Kept := by
  constructor
  · intro checked
    cases content with
    | string loose =>
        cases loose with
        | text text => exact .string text
        | broken => cases checked
    | bool value => exact .bool value
    | integer value =>
        simp only [checkContent] at checked
        split at checked
        · next fits => exact .integer fits
        · cases checked
    | number value =>
        have number := Except.ok.inj checked
        exact .number (by simpa using number)
    | _ => cases checked
  · intro kept
    cases kept with
    | string text => rfl
    | bool value => rfl
    | integer fits => simp only [checkContent, fits, ↓reduceIte]
    | number number => simp only [checkContent, number, Bool.not_false]

/-- The row of a post is checked text by text: the identifier, the sender, then the content. -/
theorem checkPost_eq_ok_iff {post : Post} {present : Bool} :
    checkPost post = .ok present ↔
      post.id.isPlain = true ∧ post.sender.isPlain = true ∧
        checkContent post.content = .ok present := by
  constructor
  · intro checked
    obtain ⟨id, first, checked⟩ := Except.bind_eq_ok.mp checked
    obtain ⟨sender, second, checked⟩ := Except.bind_eq_ok.mp checked
    exact ⟨(encodable_eq_ok_iff.mp first).1, (encodable_eq_ok_iff.mp second).1, checked⟩
  · rintro ⟨id, sender, checked⟩
    apply Except.bind_eq_ok.mpr
    refine ⟨post.id, encodable_eq_ok_iff.mpr ⟨id, rfl⟩, ?_⟩
    apply Except.bind_eq_ok.mpr
    exact ⟨post.sender, encodable_eq_ok_iff.mpr ⟨sender, rfl⟩, checked⟩

/-- The row of a roll is accepted when its formula has an encoding and its total is a number. -/
theorem checkRoll_eq_ok_iff {roll : Roll} :
    checkRoll roll = .ok () ↔ roll.formula.isPlain = true ∧ roll.outcome.isNaN = false := by
  constructor
  · intro checked
    obtain ⟨formula, plain, checked⟩ := Except.bind_eq_ok.mp checked
    refine ⟨(encodable_eq_ok_iff.mp plain).1, ?_⟩
    split at checked
    · cases checked
    · next number => exact Bool.eq_false_iff.mpr number
  · rintro ⟨plain, number⟩
    apply Except.bind_eq_ok.mpr
    refine ⟨roll.formula, encodable_eq_ok_iff.mpr ⟨plain, rfl⟩, ?_⟩
    rw [number]
    rfl

/-- The tables with the rolls of a post behind the others, numbered on. -/
def Tables.withRolls (campaign : String) (id : LooseText) : List Roll → Tables → Tables
  | [], tables => tables
  | roll :: rest, tables =>
    let number := tables.rolls.length + 1
    withRolls campaign id rest
      { tables with
        rolls := tables.rolls ++
          [⟨number, campaign, id, roll.formula, keptOutcome roll.outcome⟩]
        dice := tables.dice ++ roll.dice.map (⟨number, ·⟩) }

/-- The tables with a post, its rolls and its dice behind the others. -/
def Tables.withPost (tables : Tables) (campaign : String) (post : Post) : Tables :=
  Tables.withRolls campaign post.id post.rolls
    { tables with
      posts := tables.posts ++ [⟨campaign, post.id, post.sender, post.time.display⟩] }

/-- The tables after a post was offered to them: the first post of an identifier stays. -/
def Tables.offered (tables : Tables) (campaign : String) (post : Post) : Tables :=
  if Tables.has tables campaign post.id then tables else Tables.withPost tables campaign post

/-- Dice of 64 bits are written one behind another. -/
theorem insertDice_of_fits (number : Nat) (dice : List Die) (connection : Connection)
    (faces : ∀ die ∈ dice, fits64 die.faces = true)
    (outcomes : ∀ die ∈ dice, fits64 die.outcome = true) :
    insertDice number dice connection =
      (.ok (), connection.write fun tables =>
        { tables with dice := tables.dice ++ dice.map (⟨number, ·⟩) }) := by
  induction dice generalizing connection with
  | nil => simp only [insertDice, Connection.write, List.map_nil, List.append_nil]
  | cons die rest ih =>
      have fitting : (fits64 die.faces && fits64 die.outcome) = true := by
        rw [faces die List.mem_cons_self, outcomes die List.mem_cons_self]
        rfl
      simp only [insertDice, fitting, ↓reduceIte]
      rw [ih _ (fun other member => faces other (List.mem_cons_of_mem _ member))
        (fun other member => outcomes other (List.mem_cons_of_mem _ member))]
      simp only [Connection.write, List.map_cons, List.append_assoc, List.singleton_append]

/-- Rolls that can be held are written one behind another, each with its dice. -/
theorem insertRolls_of_fits (campaign : String) (id : LooseText) (rolls : List Roll)
    (connection : Connection)
    (formulas : ∀ roll ∈ rolls, roll.formula.isPlain = true)
    (totals : ∀ roll ∈ rolls, roll.outcome.isNaN = false)
    (faces : ∀ roll ∈ rolls, ∀ die ∈ roll.dice, fits64 die.faces = true)
    (outcomes : ∀ roll ∈ rolls, ∀ die ∈ roll.dice, fits64 die.outcome = true) :
    insertRolls campaign id rolls connection =
      (.ok (), connection.write (Tables.withRolls campaign id rolls)) := by
  induction rolls generalizing connection with
  | nil => rfl
  | cons roll rest ih =>
      have checked := checkRoll_eq_ok_iff.mpr
        ⟨formulas roll List.mem_cons_self, totals roll List.mem_cons_self⟩
      simp only [insertRolls, checked]
      rw [insertDice_of_fits _ _ _ (faces roll List.mem_cons_self)
        (outcomes roll List.mem_cons_self)]
      exact ih _ (fun other member => formulas other (List.mem_cons_of_mem _ member))
        (fun other member => totals other (List.mem_cons_of_mem _ member))
        (fun other member => faces other (List.mem_cons_of_mem _ member))
        (fun other member => outcomes other (List.mem_cons_of_mem _ member))

/-- A post that can be held is written as it is offered. -/
theorem writePost_of_kept (connection : Connection) (campaign : String) (post : Post)
    (kept : post.Kept) :
    writePost campaign post connection =
      (.ok (), connection.write fun tables => Tables.offered tables campaign post) := by
  have checked := checkPost_eq_ok_iff.mpr
    ⟨kept.id, kept.sender, checkContent_eq_ok_true_iff.mpr kept.content⟩
  simp only [writePost, insertPost, checked, Bool.not_true, Bool.false_or]
  by_cases present : Tables.has connection.working campaign post.id = true
  · simp only [present, ↓reduceIte, Connection.write, Tables.offered]
  · simp only [present, Bool.false_eq_true, ↓reduceIte]
    rw [insertRolls_of_fits campaign post.id post.rolls _ kept.formulas kept.totals kept.faces
      kept.outcomes]
    simp only [Connection.write, Tables.offered, present, Bool.false_eq_true, ↓reduceIte,
      Tables.withPost]

/-- Saving a post that can be kept succeeds and writes it unless its identifier is there. -/
theorem attempt_of_kept (tables : Tables) (campaign : String) (post : Post) (kept : post.Kept) :
    attempt ⟨some tables⟩ campaign post =
      (.ok (), ⟨some (Tables.offered tables campaign post)⟩) := by
  simp only [attempt, transact, writePost_of_kept _ _ _ kept]
  rfl

/-- Saving succeeds with what an attempt without a fault leaves. -/
theorem save_eq_ok_iff {store saved : Store} {campaign : String} {post : Post} :
    store.save campaign post = .ok saved ↔ store.attempt campaign post = (.ok (), saved) := by
  unfold save
  rcases store.attempt campaign post with ⟨fault | ended, left⟩
  · simp
  · simp

/-- A prepared store saves each post that it can hold. -/
theorem save_of_kept (tables : Tables) (campaign : String) (post : Post) (kept : post.Kept) :
    save ⟨some tables⟩ campaign post = .ok ⟨some (Tables.offered tables campaign post)⟩ :=
  save_eq_ok_iff.mpr (attempt_of_kept tables campaign post kept)

/-- Dice that were written fit 64 bits. -/
theorem fits_of_insertDice_eq_ok {number : Nat} {dice : List Die} {connection after : Connection}
    (inserted : insertDice number dice connection = (.ok (), after)) :
    ∀ die ∈ dice, fits64 die.faces = true ∧ fits64 die.outcome = true := by
  induction dice generalizing connection with
  | nil => intro die member; cases member
  | cons first rest ih =>
      rw [insertDice] at inserted
      split at inserted
      · next fitting =>
        intro die member
        rcases List.mem_cons.mp member with rfl | later
        · exact Bool.and_eq_true_iff.mp fitting
        · exact ih inserted die later
      · cases inserted

/-- Rolls that were written have a formula of characters, a number for a total, and dice of 64 bits.
-/
theorem fits_of_insertRolls_eq_ok {campaign : String} {id : LooseText} {rolls : List Roll}
    {connection after : Connection}
    (inserted : insertRolls campaign id rolls connection = (.ok (), after)) :
    ∀ roll ∈ rolls, roll.formula.isPlain = true ∧ roll.outcome.isNaN = false ∧
      ∀ die ∈ roll.dice, fits64 die.faces = true ∧ fits64 die.outcome = true := by
  induction rolls generalizing connection with
  | nil => intro roll member; cases member
  | cons first rest ih =>
      rw [insertRolls] at inserted
      split at inserted
      · cases inserted
      · next checked =>
        dsimp only at inserted
        split at inserted
        · next dealt =>
          intro roll member
          rcases List.mem_cons.mp member with rfl | later
          · obtain ⟨plain, number⟩ := checkRoll_eq_ok_iff.mp checked
            exact ⟨plain, number, fits_of_insertDice_eq_ok dealt⟩
          · exact ih inserted roll later
        · cases inserted

/-- A save that ends well leaves the connection as it was, or writes a new post that can be
kept. -/
theorem writePost_eq_ok {connection after : Connection} {campaign : String} {post : Post}
    (wrote : writePost campaign post connection = (.ok (), after)) :
    after = connection ∨
      (Tables.has connection.working campaign post.id = false ∧ post.Kept) := by
  unfold writePost at wrote
  split at wrote
  · next inserted =>
    have fits := fits_of_insertRolls_eq_ok wrote
    unfold insertPost at inserted
    split at inserted
    · cases inserted
    · next held checked =>
      split at inserted
      · cases inserted
      · next written =>
        rw [Bool.or_eq_true, not_or, Bool.not_eq_true', Bool.not_eq_false] at written
        refine .inr ⟨Bool.eq_false_iff.mpr written.2, ?_⟩
        obtain ⟨id, sender, content⟩ := checkPost_eq_ok_iff.mp checked
        exact
          { id := id
            sender := sender
            content := checkContent_eq_ok_true_iff.mp (written.1 ▸ content)
            formulas := fun roll member => (fits roll member).1
            totals := fun roll member => (fits roll member).2.1
            faces := fun roll member die thrown => ((fits roll member).2.2 die thrown).1
            outcomes := fun roll member die thrown => ((fits roll member).2.2 die thrown).2 }
  · next inserted =>
    obtain ⟨-, rfl⟩ := Prod.mk.inj wrote
    unfold insertPost at inserted
    split at inserted
    · cases inserted
    · split at inserted
      · exact .inl (Prod.mk.inj inserted).2.symm
      · cases inserted
  · cases wrote

/-- A post that was written can be held. -/
theorem kept_of_writePost_eq_ok {connection after : Connection} {campaign : String} {post : Post}
    (absent : Tables.has connection.working campaign post.id = false)
    (wrote : writePost campaign post connection = (.ok (), after))
    (present : Tables.has after.working campaign post.id = true) : post.Kept := by
  rcases writePost_eq_ok wrote with rfl | ⟨-, kept⟩
  · rw [absent] at present
    cases present
  · exact kept

/-- Only a post that can be kept gets its identifier into the tables. -/
theorem kept_of_save_eq_ok {tables after : Tables} {campaign : String} {post : Post}
    (absent : Tables.has tables campaign post.id = false)
    (saved : save ⟨some tables⟩ campaign post = .ok ⟨some after⟩)
    (present : Tables.has after campaign post.id = true) : post.Kept := by
  have tried := save_eq_ok_iff.mp saved
  simp only [attempt, transact] at tried
  rcases wrote : writePost campaign post (.opened tables) with ⟨fault | ended, connection⟩
  · rw [wrote] at tried
    cases tried
  · rw [wrote] at tried
    cases tried
    exact kept_of_writePost_eq_ok absent wrote present

@[simp] theorem Tables.withRolls_posts (campaign : String) (id : LooseText) (rolls : List Roll)
    (tables : Tables) :
    (Tables.withRolls campaign id rolls tables).posts = tables.posts := by
  induction rolls generalizing tables with
  | nil => rfl
  | cons roll rest ih => exact ih _

@[simp] theorem Tables.withPost_posts (tables : Tables) (campaign : String) (post : Post) :
    (Tables.withPost tables campaign post).posts =
      tables.posts ++ [⟨campaign, post.id, post.sender, post.time.display⟩] :=
  Tables.withRolls_posts _ _ _ _

/-- No row of the tables holds a half of a character. -/
structure Tables.Plain (tables : Tables) : Prop where
  posts : ∀ row ∈ tables.posts, row.id.isPlain = true ∧ row.sender.isPlain = true
  rolls : ∀ row ∈ tables.rolls, row.postId.isPlain = true ∧ row.formula.isPlain = true

theorem Tables.plain_nil : Tables.Plain ⟨[], [], []⟩ :=
  ⟨fun _ member => (List.not_mem_nil member).elim, fun _ member => (List.not_mem_nil member).elim⟩

/-- Rolls with formulas of characters leave the tables with texts of characters. -/
theorem Tables.Plain.withRolls {tables : Tables} (plain : Tables.Plain tables) {campaign : String}
    {id : LooseText} (named : id.isPlain = true) {rolls : List Roll}
    (formulas : ∀ roll ∈ rolls, roll.formula.isPlain = true) :
    Tables.Plain (Tables.withRolls campaign id rolls tables) := by
  induction rolls generalizing tables with
  | nil => exact plain
  | cons roll rest ih =>
      refine ih ⟨plain.posts, ?_⟩ fun other member => formulas other (List.mem_cons_of_mem _ member)
      intro row member
      rcases List.mem_append.mp member with old | new
      · exact plain.rolls row old
      · obtain rfl := List.mem_singleton.mp new
        exact ⟨named, formulas roll List.mem_cons_self⟩

/-- A post that is kept brings no half of a character into the tables. -/
theorem Tables.Plain.withPost {tables : Tables} (plain : Tables.Plain tables) (campaign : String)
    {post : Post} (kept : post.Kept) : Tables.Plain (Tables.withPost tables campaign post) := by
  rw [Tables.withPost]
  apply Tables.Plain.withRolls _ kept.id kept.formulas
  refine ⟨?_, plain.rolls⟩
  intro row member
  rcases List.mem_append.mp member with old | new
  · exact plain.posts row old
  · obtain rfl := List.mem_singleton.mp new
    exact ⟨kept.id, kept.sender⟩

/-- Writing a post adds its identifier in its campaign, and no other. -/
theorem Tables.withPost_has (tables : Tables) (campaign other : String) (id : LooseText)
    (post : Post) :
    Tables.has (Tables.withPost tables campaign post) other id =
      (Tables.has tables other id || (campaign = other && post.id = id)) := by
  simp only [Tables.has, Tables.withPost_posts, List.any_append, List.any_cons, List.any_nil,
    Bool.or_false]

theorem Tables.offered_of_has {tables : Tables} {campaign : String} {post : Post}
    (present : Tables.has tables campaign post.id = true) :
    Tables.offered tables campaign post = tables :=
  if_pos present

theorem Tables.offered_of_not_has {tables : Tables} {campaign : String} {post : Post}
    (absent : Tables.has tables campaign post.id = false) :
    Tables.offered tables campaign post = Tables.withPost tables campaign post :=
  if_neg (by rw [absent]; exact Bool.false_ne_true)

/-- A campaign has the identifier of every post that was offered to it. -/
theorem Tables.offered_has_self (tables : Tables) (campaign : String) (post : Post) :
    Tables.has (Tables.offered tables campaign post) campaign post.id = true := by
  by_cases present : Tables.has tables campaign post.id = true
  · rw [Tables.offered_of_has present, present]
  · rw [Tables.offered_of_not_has (Bool.eq_false_iff.mpr present), Tables.withPost_has]
    simp only [decide_true, Bool.and_self, Bool.or_true]

/-- No identifier is lost by offering a post. -/
theorem Tables.offered_has_of_has {tables : Tables} {campaign other : String} {id : LooseText}
    (post : Post)
    (present : Tables.has tables other id = true) :
    Tables.has (Tables.offered tables campaign post) other id = true := by
  by_cases known : Tables.has tables campaign post.id = true
  · rw [Tables.offered_of_has known, present]
  · rw [Tables.offered_of_not_has (Bool.eq_false_iff.mpr known), Tables.withPost_has, present,
      Bool.true_or]

/-- A campaign has an identifier exactly when it is among its known ones. -/
theorem Tables.has_iff_mem (tables : Tables) (campaign : String) (id : LooseText) :
    Tables.has tables campaign id = true ↔
      id ∈ (tables.posts.filter (·.campaign = campaign)).map (·.id) := by
  simp only [Tables.has, List.any_eq_true, Bool.and_eq_true, decide_eq_true_eq, List.mem_map,
    List.mem_filter, and_assoc]

end Store

end DiceLedger
