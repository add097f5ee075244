import SentimentTree.Json.Value
import SentimentTree.Proofs.Basic

/-! # Records and lists as JSON

The fields of a record with distinct keys are looked up by their names, and a list is read item by
item: it is read exactly when each of its items is.
-/

namespace SentimentTree.Json

/-! ## Records -/

/-- The value of a key among distinct ones. -/
theorem member?_record {members : List (String × Json)} (distinct : (members.map (·.1)).Nodup)
    (name : String) :
    member? (members.map fun member => (some member.1, member.2)) name =
      some (members.lookup name) := by
  have named (key : String) : (some key == some name) = (name == key) := by
    rw [Bool.eq_iff_iff, beq_iff_eq, beq_iff_eq, Option.some.injEq, eq_comm]
  unfold member?
  rw [List.filter_map]
  induction members with
  | nil => rfl
  | cons member rest ih =>
    obtain ⟨key, value⟩ := member
    obtain ⟨fresh, distinct⟩ := List.nodup_cons.mp distinct
    rw [List.lookup_cons, List.filter_cons]
    simp only [Function.comp_apply, named]
    cases same : name == key with
    | false => exact ih distinct
    | true =>
      obtain rfl := eq_of_beq same
      have others : rest.filter ((fun member => member.1 == some name) ∘
          fun member => (some member.1, member.2)) = [] := by
        rw [List.filter_eq_nil_iff]
        intro member present again
        exact fresh (List.mem_map.mpr ⟨member, present, by simpa using again⟩)
      simp [others]

/-- The fields of a record with distinct keys are looked up by name. -/
theorem fields?_record {members : List (String × Json)} (distinct : (members.map (·.1)).Nodup)
    (names : List String) :
    (record members).fields? names = some (names.map (members.lookup ·)) := by
  have texts : (members.map fun member => (some member.1, member.2)).all
      (fun member => member.1.isSome) = true := by simp
  unfold record fields?
  dsimp only
  rw [texts, if_pos rfl, mapM_eq_some_iff, List.forall₂_map_right_iff]
  exact List.forall₂_same.mpr fun name _ => member?_record distinct name

variable {α : Type} {read : Json → Option α}

/-- A field that is left out when it has no value is read back. -/
theorem missing?_map {write : α → Json} {field : Option α}
    (each : ∀ x ∈ field, write x ≠ .null ∧ read (write x) = some x) :
    missing? read (field.map write) = some field := by
  cases field with
  | none => rfl
  | some x =>
    obtain ⟨present, reads⟩ := each x rfl
    change (write x).optional? read = _
    unfold optional?
    split
    · contradiction
    · rw [reads, Option.map_some]

/-- What is read in a field that may be missing is read from a value. -/
theorem exists_value_of_missing? {field : Option Json} {x : α}
    (reads : missing? read field = some (some x)) : ∃ value, read value = some x := by
  cases field with
  | none => nomatch reads
  | some value =>
    change value.optional? read = some (some x) at reads
    unfold optional? at reads
    split at reads
    · nomatch reads
    · obtain ⟨y, readY, same⟩ := Option.map_eq_some_iff.mp reads
      obtain rfl := Option.some.inj same
      exact ⟨value, readY⟩

/-! ## Lists -/

/-- A list is read back if each of its items is. -/
theorem items?_map {write : α → Json} {items : List α}
    (each : ∀ item ∈ items, read (write item) = some item) :
    (Json.array (items.map write)).items? read = some items := by
  rw [items?, mapM_eq_some_iff, List.forall₂_map_left_iff]
  exact List.forall₂_same.mpr each

/-- A list is not read if one of its items is not. -/
theorem items?_eq_none {items : List Json} {item : Json} (member : item ∈ items)
    (unreadable : read item = none) : (Json.array items).items? read = none := by
  rw [items?, Option.eq_none_iff_forall_ne_some]
  intro found reads
  obtain ⟨x, -, one⟩ := exists_of_mem_right (mapM_eq_some_iff.mp reads).flip item member
  rw [unreadable] at one
  nomatch one

/-- What is read in a list is read from an item. -/
theorem exists_item_of_items? {value : Json} {found : List α}
    (reads : value.items? read = some found) : ∀ x ∈ found, ∃ item, read item = some x := by
  unfold items? at reads
  split at reads
  · intro x member
    obtain ⟨item, -, one⟩ := exists_of_mem_right (mapM_eq_some_iff.mp reads) x member
    exact ⟨item, one⟩
  · nomatch reads

end SentimentTree.Json
