import DiceLedger.Proofs.Store.Linking
import Mathlib.Data.List.Forall2

/-! # The store as an ordered list

Behind the three tables stands one list: the posts that were the first of their campaign and
identifier, in the order of saving (`DiceLedger.Store.ledgerOf`). The tables show it through
every call (`DiceLedger.Store.Tables.Shows`), so every question to the store is answered from
that list alone (`DiceLedger.Store.answersFrom_ledgerOf`).
-/

namespace DiceLedger

namespace Binary64

/-- A number is equal to itself. -/
theorem eqv_self_of_number {value : Binary64} (number : value.isNaN = false) :
    value.eqv value = true := by
  cases value with
  | nan => cases number
  | infinity negative => simp only [eqv, place?, decide_true]
  | finite negative units held => simp only [eqv, place?, decide_true]

theorem eqv_comm (x y : Binary64) : x.eqv y = y.eqv x := by
  unfold eqv
  cases x.place? <;> cases y.place? <;> simp only [eq_comm]

end Binary64

namespace Store

/-- A total that is kept is equal to the one that was given. -/
theorem keptOutcome_eqv {outcome : Binary64} (number : outcome.isNaN = false) :
    (keptOutcome outcome).eqv outcome = true := by
  unfold keptOutcome
  split
  · next zero => rw [Binary64.eqv_comm, zero]
  · exact Binary64.eqv_self_of_number number

/-- Whether two offers have the same campaign and identifier. -/
def Offer.same (a b : Offer) : Bool := a.campaign = b.campaign && a.post.id = b.post.id

/-- The offers that are the first of their campaign and identifier, in order. -/
def firsts (offers : List Offer) : List Offer := offers.eraseDupsBy Offer.same

theorem Offer.same_comm (a b : Offer) : a.same b = b.same a := by
  simp only [Offer.same, eq_comm]

theorem firsts_cons (offer : Offer) (rest : List Offer) :
    firsts (offer :: rest) = offer :: firsts (rest.filter fun other => !offer.same other) := by
  rw [firsts, List.eraseDupsBy_cons, firsts]
  congr 2
  apply List.filter_congr
  intro other _
  rw [Offer.same_comm]
  cases offer.same other <;> rfl

/-- What counts has been offered. -/
theorem mem_of_mem_firsts {offer : Offer} : ∀ {offers : List Offer},
    offer ∈ firsts offers → offer ∈ offers
  | [], member => member
  | first :: rest, member => by
    rw [firsts_cons] at member
    rcases List.mem_cons.mp member with same | later
    · exact List.mem_cons.mpr (.inl same)
    · exact List.mem_cons_of_mem _ (List.mem_of_mem_filter (mem_of_mem_firsts later))
  termination_by offers => offers.length
  decreasing_by exact Nat.lt_succ_of_le (List.length_filter_le _ _)

/-- The tables answer every question from a list of offers. -/
structure Tables.Shows (tables : Tables) (ledger : List Offer) : Prop where
  linked : Tables.Linked tables
  posts : tables.posts = ledger.map Offer.row
  rolls : rolls ⟨some tables⟩ =
    .ok (ledger.flatMap fun offer => offer.post.rolls.map offer.recorded)
  dice : ∀ keys, diceOf tables keys = (ledger.filter (Offer.isBy keys)).flatMap Offer.dice

theorem Tables.shows_nil : Tables.Shows ⟨[], [], []⟩ [] where
  linked := ⟨fun _ member => (List.not_mem_nil member).elim,
    fun _ member => (List.not_mem_nil member).elim, fun _ member => (List.not_mem_nil member).elim⟩
  posts := rfl
  rolls := rfl
  dice := fun _ => rfl

variable {tables : Tables} {ledger : List Offer}

/-- Tables have a post if the ledger that they show has it. -/
theorem Tables.Shows.has_eq_any (shows : Tables.Shows tables ledger) (offer : Offer) :
    Tables.has tables offer.campaign offer.post.id = ledger.any (·.same offer) := by
  rw [Tables.has, shows.posts, List.any_map]
  rfl

/-- A new offer goes to the end of the ledger. -/
theorem Tables.Shows.withPost (shows : Tables.Shows tables ledger) {offer : Offer}
    (absent : Tables.has tables offer.campaign offer.post.id = false) :
    Tables.Shows (Tables.withPost tables offer.campaign offer.post) (ledger ++ [offer]) := by
  refine ⟨shows.linked.withPost offer absent, ?_, ?_, ?_⟩
  · rw [Tables.withPost_posts, shows.posts, List.map_append]
    rfl
  · rw [shows.linked.rolls_withPost offer absent, shows.rolls]
    simp only [Except.map, List.flatMap_append, List.flatMap_cons, List.flatMap_nil,
      List.append_nil]
  · intro keys
    rw [shows.linked.diceOf_withPost offer absent, shows.dice, List.filter_append,
      List.flatMap_append]
    congr 1
    by_cases asked : offer.isBy keys = true
    · simp only [asked, ↓reduceIte, List.filter_cons, List.filter_nil, List.flatMap_cons,
        List.flatMap_nil, List.append_nil]
    · simp only [asked, Bool.false_eq_true, ↓reduceIte, List.filter_cons, List.filter_nil,
        List.flatMap_nil]

/-- A call that may change a store. -/
inductive Call where
  | prepare
  | save (offer : Offer)

def Call.isSave : Call → Bool
  | prepare => false
  | save _ => true

/-- The store after a call; a refused one leaves it as it was. -/
def after (store : Store) : Call → Store
  | .prepare => store.prepare
  | .save offer =>
    match store.save offer.campaign offer.post with
    | .ok saved => saved
    | .error _ => store

/-- What calls offer to a store, in order. -/
def offers (calls : List Call) : List Offer :=
  calls.filterMap fun call =>
    match call with
    | .prepare => none
    | .save offer => some offer

/-- The posts that calls leave in a store: of what they offer after they prepared it, the
first of each campaign and identifier. -/
def ledgerOf (calls : List Call) : List Offer := firsts (offers (calls.dropWhile Call.isSave))

/-- Calls add to the ledger what they offer and it does not have. -/
theorem Tables.Shows.after_calls {tables : Tables} {ledger : List Offer}
    (shows : Tables.Shows tables ledger) (calls : List Call)
    (storable : ∀ offer ∈ offers calls, offer.post.Storable) :
    ∃ later, calls.foldl after ⟨some tables⟩ = ⟨some later⟩ ∧
      Tables.Shows later
        (ledger ++ firsts ((offers calls).filter fun offer => !ledger.any (·.same offer))) := by
  -- On the calls; the ledger grows along, and what it holds decides what a later offer does.
  induction calls generalizing tables ledger with
  | nil => exact ⟨tables, rfl, by simpa [offers, firsts] using shows⟩
  | cons call rest ih =>
      cases call with
      | prepare => exact ih shows storable
      | save offer =>
          have offered : offers (.save offer :: rest) = offer :: offers rest := rfl
          rw [offered] at storable ⊢
          have restStorable : ∀ other ∈ offers rest, other.post.Storable :=
            fun other member => storable other (List.mem_cons_of_mem _ member)
          have saved : after ⟨some tables⟩ (.save offer) =
              ⟨some (Tables.offered tables offer.campaign offer.post)⟩ := by
            simp only [after, save_of_kept _ _ _ (storable offer List.mem_cons_self).kept]
          rw [List.foldl_cons, saved]
          by_cases present : Tables.has tables offer.campaign offer.post.id = true
          · rw [Tables.offered_of_has present]
            have known : (!ledger.any (·.same offer)) = false := by
              rw [← shows.has_eq_any, present]
              rfl
            rw [List.filter_cons, if_neg (by rw [known]; exact Bool.false_ne_true)]
            exact ih shows restStorable
          · have absent := Bool.eq_false_iff.mpr present
            rw [Tables.offered_of_not_has absent]
            have new : (!ledger.any (·.same offer)) = true := by
              rw [← shows.has_eq_any, absent]
              rfl
            obtain ⟨later, run, shown⟩ := ih (shows.withPost absent) restStorable
            refine ⟨later, run, ?_⟩
            -- What the rest adds is told apart twice: from the ledger, and from this offer.
            rw [List.filter_cons, if_pos new, firsts_cons, List.filter_filter]
            simpa [Bool.not_or, Bool.and_comm] using shown

/-- What is saved before the store is prepared is refused, and leaves nothing. -/
theorem foldl_after_dropWhile (calls : List Call) :
    calls.foldl after unprepared = (calls.dropWhile Call.isSave).foldl after unprepared := by
  induction calls with
  | nil => rfl
  | cons call rest ih =>
      cases call with
      | prepare => rfl
      | save offer => exact ih

/-- Calls either never prepare the store, or what counts begins where they do. -/
theorem dropWhile_isSave (calls : List Call) :
    (calls.dropWhile Call.isSave = [] ∧ calls.any (!·.isSave) = false) ∨
      ∃ rest, calls.dropWhile Call.isSave = .prepare :: rest ∧
        calls.any (!·.isSave) = true ∧ ∀ offer ∈ offers rest, offer ∈ offers calls := by
  induction calls with
  | nil => exact .inl ⟨rfl, rfl⟩
  | cons call rest ih =>
      cases call with
      | prepare => exact .inr ⟨rest, rfl, rfl, fun _ member => member⟩
      | save offer =>
          rcases ih with never | ⟨later, left, prepared, offered⟩
          · exact .inl never
          · exact .inr ⟨later, left, prepared,
              fun other member => List.mem_cons_of_mem _ (offered other member)⟩

/-- A roll as it is answered: with the sender and the time of its post, and the total that
was given, as a number. -/
structure Offer.Answers (offer : Offer) (roll : Roll) (answer : RecordedRoll) : Prop where
  campaign : answer.campaign = offer.campaign
  sender : answer.sender = offer.post.sender
  time : answer.time = offer.post.time
  formula : answer.formula = roll.formula
  outcome : answer.outcome.eqv roll.outcome = true

/-- A campaign and a sender as the texts that are looked up. -/
def looked (pair : String × String) : LooseText × LooseText := (pair.1, pair.2)

/-- Pairs of texts are looked up as they are. -/
theorem lookupKeys_strings (pairs : List (String × String)) :
    lookupKeys (pairs.map fun pair => ⟨pair.1, .string pair.2⟩) = .ok (pairs.map looked) := by
  induction pairs with
  | nil => rfl
  | cons pair rest ih => simp only [List.map_cons, lookupKeys, senderText?, ih]; rfl

/-- Asked with pairs of texts, a prepared store tells the dice of their posts. -/
theorem singleDice_strings (tables : Tables) (pairs : List (String × String)) :
    singleDice ⟨some tables⟩ (pairs.map fun pair => ⟨pair.1, .string pair.2⟩) =
      .ok (diceOf tables (pairs.map looked)) := by
  rw [singleDice, lookupKeys_strings]
  cases pairs with
  | nil => simp [diceOf]
  | cons pair rest => rfl

/-- The store answers every question from a list of offers. -/
structure AnswersFrom (store : Store) (ledger : List Offer) : Prop where
  known : ∀ campaign, store.knownIds campaign =
    .ok ((ledger.filter (·.campaign = campaign)).map (·.post.id))
  rolls : ∃ answers, store.rolls = .ok answers ∧
    List.Forall₂ (fun source answer => source.1.Answers source.2 answer)
      (ledger.flatMap fun offer => offer.post.rolls.map (offer, ·)) answers
  dice : ∀ pairs : List (String × String),
    store.singleDice (pairs.map fun pair => ⟨pair.1, .string pair.2⟩) =
      .ok ((ledger.filter fun offer =>
          (↑offer.campaign, offer.post.sender) ∈ pairs.map looked).flatMap
        fun offer => offer.post.rolls.flatMap (·.dice))

/-- The store refuses every question that it would have to look up. -/
structure Refuses (store : Store) : Prop where
  known : ∀ campaign, store.knownIds campaign = .error .noTables
  rolls : store.rolls = .error .noTables
  dice : ∀ senders, senders ≠ [] → store.singleDice senders = .error .noTables

/-- Tables answer from the ledger that they show. -/
theorem Tables.Shows.answersFrom {tables : Tables} {ledger : List Offer}
    (shows : Tables.Shows tables ledger) (storable : ∀ offer ∈ ledger, offer.post.Storable) :
    AnswersFrom ⟨some tables⟩ ledger where
  known := by
    intro campaign
    simp only [knownIds, shows.posts, List.filter_map, List.map_map]
    rfl
  rolls := by
    refine ⟨_, shows.rolls, ?_⟩
    have answered : (ledger.flatMap fun offer => offer.post.rolls.map offer.recorded) =
        (ledger.flatMap fun offer => offer.post.rolls.map (offer, ·)).map
          fun source => source.1.recorded source.2 := by
      rw [List.map_flatMap]
      simp only [List.map_map, Function.comp_def]
    rw [answered, List.forall₂_map_right_iff, List.forall₂_same]
    intro source member
    obtain ⟨offer, kept, made⟩ := List.mem_flatMap.mp member
    obtain ⟨roll, rolled, rfl⟩ := List.mem_map.mp made
    have held := storable offer kept
    exact
      { campaign := rfl
        sender := LooseText.shown_of_isPlain held.sender
        time := rfl
        formula := LooseText.shown_of_isPlain (held.formulas roll rolled)
        outcome := keptOutcome_eqv (held.totals roll rolled) }
  dice := by
    intro pairs
    have asked : ∀ offer, Offer.isBy (pairs.map looked) offer =
        decide ((↑offer.campaign, offer.post.sender) ∈ pairs.map looked) := by
      intro offer
      exact List.contains_eq_mem _ _
    rw [singleDice_strings, shows.dice, List.filter_congr fun offer _ => asked offer]
    rfl

/-- **The store is a list in which the first post of an identifier stays.** Whatever calls
prepare it and save storable posts, in whatever order and with whatever identifiers repeated,
it answers from the first posts alone; until it is prepared it answers nothing. -/
theorem answersFrom_ledgerOf (calls : List Call)
    (storable : ∀ offer ∈ offers calls, offer.post.Storable) :
    if calls.any (!·.isSave) then
      AnswersFrom (calls.foldl after unprepared) (ledgerOf calls)
    else Refuses (calls.foldl after unprepared) := by
  -- What is saved before the store is prepared is refused and leaves it as it was.
  rw [foldl_after_dropWhile]
  rcases dropWhile_isSave calls with ⟨left, never⟩ | ⟨rest, left, prepared, offered⟩
  · rw [if_neg (by rw [never]; exact Bool.false_ne_true), left]
    refine ⟨fun _ => rfl, rfl, ?_⟩
    intro senders some
    cases senders with
    | nil => exact absurd rfl some
    | cons sender others => rfl
  · have whole : ledgerOf calls = firsts (offers rest) := by
      rw [ledgerOf, left]
      rfl
    have restStorable : ∀ offer ∈ offers rest, offer.post.Storable :=
      fun offer member => storable offer (offered offer member)
    obtain ⟨tables, run, shows⟩ := Tables.shows_nil.after_calls rest restStorable
    simp only [List.any_nil, Bool.not_false, List.filter_true, List.nil_append] at shows
    have stored : (calls.dropWhile Call.isSave).foldl after unprepared = ⟨some tables⟩ := by
      rw [left]
      exact run
    rw [if_pos prepared, stored, whole]
    exact shows.answersFrom fun offer member => restStorable offer (mem_of_mem_firsts member)

/-- Two dice together and one alone. -/
def sampleRolls : List Roll :=
  [⟨"2d6", 7, [⟨6, 3⟩, ⟨6, 4⟩]⟩, ⟨"d20", 20, [⟨20, 20⟩]⟩]

/-- A post with rolls, a quarter of a second after the calendar begins. -/
def Offer.sample (campaign id sender : String) : Offer where
  campaign := campaign
  post :=
    { id := id
      sender := sender
      time := ⟨⟨250000, by decide, by decide⟩, some 0⟩
      content := .string "rolls"
      isMessage := false
      rolls := sampleRolls }

theorem Offer.sample_storable (campaign id sender : String) :
    (Offer.sample campaign id sender).post.Storable where
  id := rfl
  sender := rfl
  content := ⟨"rolls", rfl⟩
  formulas := show ∀ roll ∈ sampleRolls, _ by decide
  totals := show ∀ roll ∈ sampleRolls, _ by decide +kernel
  faces := show ∀ roll ∈ sampleRolls, _ by decide
  outcomes := show ∀ roll ∈ sampleRolls, _ by decide

/-- A post is refused before the store is prepared; of three that follow, the second has the
identifier of the first, and the third is of another campaign. -/
theorem answersFrom_ledgerOf_repeats :
    let calls : List Call :=
      [.save (.sample "Keep" "0" "Ada"), .prepare, .save (.sample "Keep" "1" "Ada"),
       .save (.sample "Keep" "1" "Brom"), .prepare, .save (.sample "Moor" "1" "Ada")]
    (∀ offer ∈ offers calls, offer.post.Storable) ∧
      AnswersFrom (calls.foldl after unprepared)
        [.sample "Keep" "1" "Ada", .sample "Moor" "1" "Ada"] := by
  intro calls
  have storable : ∀ offer ∈ offers calls, offer.post.Storable := by
    intro offer member
    have sample : ∃ campaign id sender, offer = .sample campaign id sender := by
      simp only [offers, calls, List.filterMap_cons, List.filterMap_nil, List.mem_cons,
        List.not_mem_nil, or_false] at member
      rcases member with rfl | rfl | rfl | rfl <;> exact ⟨_, _, _, rfl⟩
    obtain ⟨campaign, id, sender, rfl⟩ := sample
    exact Offer.sample_storable campaign id sender
  exact ⟨storable, answersFrom_ledgerOf calls storable⟩

end Store

end DiceLedger
