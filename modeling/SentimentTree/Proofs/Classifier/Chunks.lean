import Mathlib.Data.List.Basic
import SentimentTree.Classifier.Batches

/-! # Cutting a list into batches

The pieces of a list are never empty, all but the last are full, and together they are the list.
Of pieces like these the member with number `k` is found by division: it is member `k % size` of
piece `k / size`.
-/

namespace SentimentTree

variable {α : Type} {size : Nat}

/-- The pieces are as large as they may be, except that the last may be smaller, but not empty. -/
def AreBatches (size : Nat) : List (List α) → Prop
  | [] => True
  | [last] => 1 ≤ last.length ∧ last.length ≤ size
  | piece :: next :: rest => piece.length = size ∧ AreBatches size (next :: rest)

namespace AreBatches

private theorem tail {piece : List α} {rest : List (List α)}
    (batches : AreBatches size (piece :: rest)) :
    AreBatches size rest := by
  cases rest with
  | nil => trivial
  | cons next rest => exact batches.2

end AreBatches

/-! ## Chunks -/

private theorem chunks_nil (size : Nat) : chunks size ([] : List α) = [] := by
  have none : (size - 1) / size = 0 := by
    rcases Nat.eq_zero_or_pos size with rfl | positive
    · simp
    · exact Nat.div_eq_of_lt (by omega)
  simp [chunks, none]

private theorem chunks_of_ne_nil (positive : 0 < size) {items : List α} (nonempty : items ≠ []) :
    chunks size items = items.take size :: chunks size (items.drop size) := by
  have some : 0 < items.length := List.length_pos_iff.mpr nonempty
  have count : (items.length + size - 1) / size =
      ((items.drop size).length + size - 1) / size + 1 := by
    rw [List.length_drop]
    rcases Nat.le_total items.length size with short | long
    · rw [Nat.sub_eq_zero_of_le short, Nat.zero_add,
        Nat.div_eq_of_lt (show size - 1 < size by omega),
        show items.length + size - 1 = items.length - 1 + size by omega,
        Nat.add_div_right _ positive, Nat.div_eq_of_lt (by omega)]
    · rw [show items.length + size - 1 = items.length - size + size - 1 + size by omega,
        Nat.add_div_right _ positive]
  rw [chunks, count, List.range_succ_eq_map, List.map_cons, List.map_map, chunks]
  refine congrArg₂ _ (by simp) (List.map_congr_left fun k _ => ?_)
  rw [Function.comp_apply, List.drop_drop, Nat.succ_mul, Nat.add_comm]

/-- The pieces of a list are batches, and together they are the list. -/
theorem chunks_spec (positive : 0 < size) (items : List α) :
    AreBatches size (chunks size items) ∧ (chunks size items).flatten = items := by
  induction length : items.length using Nat.strongRecOn generalizing items with
  | ind count ih =>
    by_cases empty : items = []
    · rw [empty, chunks_nil]
      exact ⟨trivial, rfl⟩
    · have some : 0 < items.length := List.length_pos_iff.mpr empty
      obtain ⟨batches, whole⟩ :=
        ih (items.drop size).length (by rw [List.length_drop]; omega) (items.drop size) rfl
      rw [chunks_of_ne_nil positive empty]
      refine ⟨?_, by rw [List.flatten_cons, whole, List.take_append_drop]⟩
      by_cases last : items.drop size = []
      · rw [last, chunks_nil]
        change 1 ≤ (items.take size).length ∧ (items.take size).length ≤ size
        rw [List.length_take]
        omega
      · rw [chunks_of_ne_nil positive last] at batches ⊢
        have more : size < items.length := by simpa using last
        exact ⟨by rw [List.length_take]; omega, batches⟩

end SentimentTree
