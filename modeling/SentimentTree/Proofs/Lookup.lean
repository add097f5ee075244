import Mathlib.Logic.Basic

/-! # Values under keys

What a list of entries has under a key once entries are dropped by their keys or values are changed.
Where a key stands more than once its first entry counts.
-/

namespace SentimentTree

variable {κ α β : Type} [BEq κ] [LawfulBEq κ]

/-- A key that is kept has the value that it had. -/
theorem lookup_filter (keep : κ → Bool) (entries : List (κ × α)) (key : κ) :
    (entries.filter fun entry => keep entry.1).lookup key =
      if keep key then entries.lookup key else none := by
  induction entries with
  | nil => simp
  | cons entry rest ih =>
    rcases entry with ⟨name, value⟩
    rw [List.filter_cons, List.lookup_cons]
    rcases eq_or_ne key name with rfl | other
    · cases kept : keep key <;> simp [kept, ih]
    · have apart : (key == name) = false := beq_eq_false_iff_ne.mpr other
      cases kept : keep name <;> simp [List.lookup_cons, apart, ih]

theorem lookup_map (change : κ → α → β) (entries : List (κ × α)) (key : κ) :
    (entries.map fun entry => (entry.1, change entry.1 entry.2)).lookup key =
      (entries.lookup key).map (change key) := by
  induction entries with
  | nil => rfl
  | cons entry rest ih =>
    rw [List.map_cons, List.lookup_cons, List.lookup_cons, ih]
    cases same : key == entry.1 with
    | true => rw [beq_iff_eq.mp same, Option.map_some]
    | false => rfl

/-- With keys that are all different each entry is found. -/
theorem lookup_eq_some_of_mem {entries : List (κ × α)} (nodup : (entries.map (·.1)).Nodup)
    {entry : κ × α} (member : entry ∈ entries) : entries.lookup entry.1 = some entry.2 := by
  induction entries with
  | nil => simp at member
  | cons head rest ih =>
    rw [List.map_cons, List.nodup_cons] at nodup
    rcases List.mem_cons.mp member with rfl | member
    · exact List.lookup_cons_self
    · have different : entry.1 ≠ head.1 := fun same =>
        nodup.1 (same ▸ List.mem_map_of_mem member)
      rw [List.lookup_cons, beq_eq_false_iff_ne.mpr different]
      exact ih nodup.2 member

end SentimentTree
