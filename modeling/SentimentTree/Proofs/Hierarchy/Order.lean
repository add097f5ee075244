import SentimentTree.Proofs.Aggregation.Months
import SentimentTree.Proofs.Hierarchy.Validity

/-! # The order of a valid tree

The check compares a month with the next one and a label with the next one of the same month, and
asks that a label lies in its month. Months and days are ordered alike, before the year 0 as after
it, so the labels of the whole tree are in order, whatever empty months stand between them. Then no
day names two buckets, and grouping the buckets anew finds the months again that have any.
-/

namespace SentimentTree

open Calendar

variable {tree : Hierarchy} {least greatest : Float}

namespace Hierarchy.Valid

/-- A label lies in the month of its group. -/
theorem filed (valid : tree.Valid least greatest) : ∀ group ∈ tree.months,
    ∀ bucket ∈ group.buckets, YearMonth.ofDate bucket.label = group.month := by
  intro group member bucket inside
  exact (YearMonth.holds_iff _ _).mp ((valid.months group member).buckets bucket inside).filed

/-- Labels are in order within a month and from each month to all later ones. -/
theorem labels_ordered (valid : tree.Valid least greatest) :
    tree.buckets.Pairwise fun a b => a.label < b.label := by
  rw [buckets, List.pairwise_flatMap]
  refine ⟨fun group member => (valid.months group member).ordered, ?_⟩
  refine valid.ordered.imp_of_mem fun {group other} first second before => ?_
  intro a inside b inside'
  apply YearMonth.lt_of_ofDate_lt
  rw [valid.filed group first a inside, valid.filed other second b inside']
  exact before

theorem months_ne (valid : tree.Valid least greatest) :
    tree.months.Pairwise fun a b => a.month ≠ b.month :=
  valid.ordered.imp YearMonth.ne_of_lt

/-- Grouped anew, the buckets are in the months that are not empty. -/
theorem groupByMonth_buckets (valid : tree.Valid least greatest) :
    groupByMonth tree.buckets = tree.months.filter fun group => !group.buckets.isEmpty := by
  have kept : tree.buckets =
      (tree.months.filter fun group => !group.buckets.isEmpty).flatMap (·.buckets) := by
    rw [buckets, List.flatMap_def, ← List.flatten_filter_not_isEmpty, List.filter_map,
      ← List.flatMap_def]
    rfl
  rw [kept]
  apply groupByMonth_of_groups
  · intro group member
    simpa using (List.mem_filter.mp member).2
  · exact fun group member => valid.filed group (List.mem_filter.mp member).1
  · exact (valid.months_ne.filter _).isChain

end Hierarchy.Valid

/-- The labels of a tree that passes the check are in order from the first bucket of the first month
to the last bucket of the last one. So no day names two buckets, no two groups share a month, and
grouping the buckets anew gives the groups that are not empty. -/
theorem Hierarchy.validate_ordered (accepted : tree.validate least greatest = .ok ()) :
    tree.buckets.Pairwise (fun a b => a.label < b.label) ∧
    (tree.buckets.map (·.label)).Nodup ∧
    (tree.months.map (·.month)).Nodup ∧
    groupByMonth tree.buckets = tree.months.filter fun group => !group.buckets.isEmpty := by
  have valid := tree.validate_eq_ok_iff.mp accepted
  refine ⟨valid.labels_ordered, ?_, ?_, valid.groupByMonth_buckets⟩
  · rw [List.Nodup, List.pairwise_map]
    exact valid.labels_ordered.imp Date.ne_of_lt
  · rw [List.Nodup, List.pairwise_map]
    exact valid.months_ne

/-- Buckets named by the last day of the year `-1`, by a day a week before and by `0000-02-06`; the
month between has none. -/
def acrossYears : Hierarchy where
  trunkHeight := 40.0
  totalMonths := 3
  months := [
    ⟨⟨-1, 12, by decide, by decide, by decide, by decide⟩, [
      ⟨⟨-8, by decide, by decide⟩, ⟨-14, by decide, by decide⟩, ⟨-8, by decide, by decide⟩,
        2, 0.5, 0.5, none, none⟩,
      ⟨⟨-1, by decide, by decide⟩, ⟨-7, by decide, by decide⟩, ⟨-1, by decide, by decide⟩,
        1, 0.25, 0.0, none, none⟩]⟩,
    ⟨⟨0, 1, by decide, by decide, by decide, by decide⟩, []⟩,
    ⟨⟨0, 2, by decide, by decide, by decide, by decide⟩, [
      ⟨⟨36, by decide, by decide⟩, ⟨30, by decide, by decide⟩, ⟨36, by decide, by decide⟩,
        3, 0.75, 1.0, none, none⟩]⟩]

theorem Hierarchy.validate_ordered_acrossYears : acrossYears.validate 10.0 40.0 = .ok () ∧
    acrossYears.buckets.Pairwise (fun a b => a.label < b.label) ∧
    (groupByMonth acrossYears.buckets).length = 2 := by
  have accepted : acrossYears.validate 10.0 40.0 = .ok () := by decide +kernel
  obtain ⟨ordered, -, -, grouped⟩ := validate_ordered accepted
  refine ⟨accepted, ordered, ?_⟩
  rw [grouped]
  decide

end SentimentTree
