import DiceLedger.Json.Access
import Mathlib.Data.List.Forall2

/-! # What taking a JSON value apart tells of it

Where a field or an item was read, the value has it; and only a number that is too large,
an infinite one or a whole number past the doubles, is ever called so.
-/

namespace DiceLedger

namespace Except

/-- A sequence fails where its first step fails, or where what follows does. -/
theorem bind_eq_error {ε α β : Type} {x : Except ε α} {f : α → Except ε β} {fault : ε} :
    (x >>= f) = .error fault ↔ x = .error fault ∨ ∃ a, x = .ok a ∧ f a = .error fault := by
  cases x with
  | error other => simp [bind, Except.bind]
  | ok a => simp [bind, Except.bind]

/-- Of two steps both succeed, or there is no value. -/
theorem bind_eq_ok {ε α β : Type} {x : Except ε α} {f : α → Except ε β} {value : β} :
    (x >>= f) = .ok value ↔ ∃ a, x = .ok a ∧ f a = .ok value := by
  cases x with
  | error other => simp [bind, Except.bind]
  | ok a => simp [bind, Except.bind]

theorem map_eq_ok {ε α β : Type} {x : Except ε α} {f : α → β} {value : β} :
    x.map f = .ok value ↔ ∃ a, x = .ok a ∧ f a = value := by
  cases x with
  | error other => simp [Except.map]
  | ok a => simp [Except.map]

/-- A list fails with the fault of one of its members. -/
theorem exists_of_mapM_eq_error {ε α β : Type} {f : α → Except ε β} {fault : ε} {xs : List α}
    (failed : xs.mapM f = .error fault) : ∃ x ∈ xs, f x = .error fault := by
  induction xs with
  | nil => cases failed
  | cons x rest ih =>
    rw [List.mapM_cons, bind_eq_error] at failed
    rcases failed with first | ⟨_, _, later⟩
    · exact ⟨x, List.mem_cons_self, first⟩
    · rw [bind_eq_error] at later
      rcases later with later | ⟨_, _, never⟩
      · obtain ⟨other, member, failedThere⟩ := ih later
        exact ⟨other, List.mem_cons_of_mem _ member, failedThere⟩
      · cases never

/-- Where all steps end well, each result belongs to the step in its place. -/
theorem forall₂_of_mapM_eq_ok {ε α β : Type} {f : α → Except ε β} {xs : List α} {ys : List β}
    (ended : xs.mapM f = .ok ys) : List.Forall₂ (fun x y => f x = .ok y) xs ys := by
  induction xs generalizing ys with
  | nil =>
      obtain rfl := Except.ok.inj ended
      exact .nil
  | cons x rest ih =>
      rw [List.mapM_cons] at ended
      obtain ⟨y, first, ended⟩ := bind_eq_ok.mp ended
      obtain ⟨others, later, ended⟩ := bind_eq_ok.mp ended
      obtain rfl := Except.ok.inj ended
      exact .cons first (ih later)

/-- Where all steps end well, each result is that of a step. -/
theorem exists_of_mem_of_mapM_eq_ok {ε α β : Type} {f : α → Except ε β} {xs : List α}
    {ys : List β} (ended : xs.mapM f = .ok ys) : ∀ y ∈ ys, ∃ x ∈ xs, f x = .ok y := by
  have steps := forall₂_of_mapM_eq_ok ended
  clear ended
  induction steps with
  | nil =>
      intro y member
      cases member
  | cons first _ ih =>
      intro y member
      rcases List.mem_cons.mp member with rfl | later
      · exact ⟨_, List.mem_cons_self, first⟩
      · obtain ⟨x, held, read⟩ := ih y later
        exact ⟨x, List.mem_cons_of_mem _ held, read⟩

section Append

variable {ε α : Type} (answer : Except ε (List α))

theorem map_append_nil : answer.map (· ++ []) = answer := by
  cases answer with
  | error fault => rfl
  | ok values => exact congrArg Except.ok (List.append_nil values)

theorem map_append_append (first later : List α) :
    (answer.map (· ++ first)).map (· ++ later) = answer.map (· ++ (first ++ later)) := by
  cases answer with
  | error fault => rfl
  | ok values => exact congrArg Except.ok (List.append_assoc values first later)

/-- What is wanted of an answer and what stands behind it is wanted of both. -/
theorem map_filter_append (wanted : α → Bool) (later : List α) :
    (answer.map (· ++ later)).map (List.filter wanted) =
      (answer.map (List.filter wanted)).map (· ++ later.filter wanted) := by
  cases answer with
  | error fault => rfl
  | ok values => exact congrArg Except.ok (List.filter_append values later)

end Append

end Except

namespace Json

/-- An object has a field with a value. -/
def Has (json : Json) (name : LooseText) (value : Json) : Prop :=
  ∃ fields, json = .object fields ∧ lookup? name fields = some value

/-- A value has an item. -/
def Lists (json item : Json) : Prop := ∃ items, json.items = .ok items ∧ item ∈ items

/-- The items of a field; a missing field has none. -/
inductive FieldItems (json : Json) (name : LooseText) : List Json → Prop
  | missing {fields : List (LooseText × Json)} (shape : json = .object fields)
      (absent : lookup? name fields = none) : FieldItems json name []
  | present {value : Json} {items : List Json} (has : json.Has name value)
      (listed : value.items = .ok items) : FieldItems json name items

/-- An infinite number. -/
def IsInfinite (json : Json) : Prop := ∃ negative, json = .number (.infinity negative)

/-- A whole number past the greatest double. -/
def IsPastDoubles (json : Json) : Prop :=
  ∃ value, json = .integer value ∧ (Binary64.ofInt value).isFinite = false

/-- A field that may be absent is there or is the default. -/
theorem fieldOr_eq_ok {json value default : Json} {name : LooseText}
    (read : json.fieldOr name default = .ok value) : json.Has name value ∨ value = default := by
  cases json with
  | object fields =>
      simp only [fieldOr, field?, Except.map, Except.ok.injEq] at read
      cases found : lookup? name fields with
      | none => exact .inr (by rw [← read, found]; rfl)
      | some held => exact .inl ⟨fields, rfl, by rw [← read, found]; rfl⟩
  | _ => cases read

/-- Only an object is asked for a field. -/
theorem exists_fields_of_fieldOr_eq_ok {json value default : Json} {name : LooseText}
    (read : json.fieldOr name default = .ok value) :
    ∃ fields, json = .object fields ∧ (lookup? name fields).getD default = value := by
  cases json with
  | object fields => exact ⟨fields, rfl, Except.ok.inj read⟩
  | _ => cases read

/-- What counts as present and can be gone through has an item. -/
theorem items_ne_nil {value : Json} {found : List Json} (present : value.isTruthy = true)
    (listed : value.items = .ok found) : found ≠ [] := by
  rintro rfl
  cases value with
  | array held =>
      obtain rfl := Except.ok.inj listed
      cases present
  | object fields =>
      obtain rfl := List.map_eq_nil_iff.mp (Except.ok.inj listed)
      cases present
  | string text =>
      have empty := List.map_eq_nil_iff.mp (Except.ok.inj listed)
      obtain rfl := LooseText.letters_eq_nil.mp empty
      cases present
  | _ => cases listed

/-- A whole number is too large only where it is infinite. -/
theorem toWhole_eq_tooLarge {json : Json} (read : json.toWhole = .error .tooLarge) :
    json.IsInfinite := by
  cases json with
  | number value =>
    cases value with
    | infinity negative => exact ⟨negative, rfl⟩
    | nan => cases read
    | finite => cases read
  | string text =>
    cases text with
    | text value =>
      simp only [toWhole] at read
      split at read <;> cases read
    | broken => cases read
  | _ => cases read

/-- A double is too large only for a whole number past all doubles. -/
theorem toDouble_eq_tooLarge {json : Json} (read : json.toDouble = .error .tooLarge) :
    json.IsPastDoubles := by
  cases json with
  | integer value =>
    refine ⟨value, rfl, ?_⟩
    simp only [toDouble, wholeToDouble] at read
    split at read
    · cases read
    · next infinite => exact Bool.eq_false_iff.mpr infinite
  | string text =>
    cases text with
    | text value =>
      simp only [toDouble] at read
      split at read <;> cases read
    | broken => cases read
  | _ => cases read

/-- A field that is required and found is there. -/
theorem require_eq_ok {json value : Json} {name : LooseText}
    (read : json.require name = .ok value) : json.Has name value := by
  cases json with
  | object fields =>
    simp only [require] at read
    split at read
    · next found => obtain rfl := Except.ok.inj read; exact ⟨fields, rfl, found⟩
    · cases read
  | _ => cases read

/-- Asking for a field never ends at a magnitude. -/
theorem require_ne_tooLarge (json : Json) (name : LooseText) :
    json.require name ≠ .error .tooLarge := by
  cases json with
  | object fields =>
    simp only [require]
    split <;> simp
  | _ => simp [require]

/-- Asking for a field that may be absent never ends at a magnitude. -/
theorem fieldOr_ne_tooLarge (json : Json) (name : LooseText) (value : Json) :
    json.fieldOr name value ≠ .error .tooLarge := by
  cases json <;> simp [fieldOr, field?, Except.map]

/-- Asking for items never ends at a magnitude. -/
theorem items_ne_tooLarge (json : Json) : json.items ≠ .error .tooLarge := by
  cases json <;> simp [items]

/-- A field that is too large for a whole number is infinite. -/
theorem require_toWhole_eq_tooLarge {json : Json} {name : LooseText}
    (read : (json.require name >>= toWhole) = .error .tooLarge) :
    ∃ value, json.Has name value ∧ value.IsInfinite := by
  rcases Except.bind_eq_error.mp read with missing | ⟨value, found, large⟩
  · exact absurd missing (require_ne_tooLarge json name)
  · exact ⟨value, require_eq_ok found, toWhole_eq_tooLarge large⟩

/-- A field that is too large for a double is a whole number past all doubles. -/
theorem require_toDouble_eq_tooLarge {json : Json} {name : LooseText}
    (read : (json.require name >>= toDouble) = .error .tooLarge) :
    ∃ value, json.Has name value ∧ value.IsPastDoubles := by
  rcases Except.bind_eq_error.mp read with missing | ⟨value, found, large⟩
  · exact absurd missing (require_ne_tooLarge json name)
  · exact ⟨value, require_eq_ok found, toDouble_eq_tooLarge large⟩

/-- Asking for the items of a field never ends at a magnitude. -/
theorem fieldOr_items_ne_tooLarge (json value : Json) (name : LooseText) :
    (json.fieldOr name value >>= items) ≠ .error .tooLarge := by
  intro read
  rcases Except.bind_eq_error.mp read with missing | ⟨value, _, large⟩
  · exact fieldOr_ne_tooLarge _ _ _ missing
  · exact items_ne_tooLarge value large

/-- Asking for a field of a field never ends at a magnitude. -/
theorem require_require_ne_tooLarge (json : Json) (outer inner : LooseText) :
    (json.require outer >>= require inner) ≠ .error .tooLarge := by
  intro read
  rcases Except.bind_eq_error.mp read with missing | ⟨value, _, large⟩
  · exact require_ne_tooLarge json outer missing
  · exact require_ne_tooLarge value inner large

/-- The items of a field are those it has, or none where it is absent. -/
theorem fieldItems_of_fieldOr_items {json : Json} {name : LooseText} {found : List Json}
    (read : (json.fieldOr name (.array []) >>= items) = .ok found) :
    json.FieldItems name found := by
  obtain ⟨value, held, listed⟩ := Except.bind_eq_ok.mp read
  obtain ⟨fields, rfl, same⟩ := exists_fields_of_fieldOr_eq_ok held
  cases absent : lookup? name fields with
  | none =>
      rw [absent] at same
      obtain rfl := same
      obtain rfl := Except.ok.inj listed
      exact .missing rfl absent
  | some other =>
      rw [absent] at same
      obtain rfl := same
      exact .present ⟨fields, rfl, absent⟩ listed

/-- The items of a field that is empty where it is missing. -/
theorem fieldOr_items_eq_ok {json : Json} {name : LooseText} {found : List Json}
    (read : (json.fieldOr name (.array []) >>= items) = .ok found) :
    ∀ item ∈ found, ∃ value, json.Has name value ∧ value.Lists item := by
  intro item member
  cases fieldItems_of_fieldOr_items read with
  | missing => cases member
  | present has listed => exact ⟨_, has, found, listed, member⟩

end Json

end DiceLedger
