import SentimentTree.Proofs.Aggregation.Contrast
import SentimentTree.Proofs.Aggregation.Summary
import SentimentTree.Proofs.Hierarchy.Validity

/-! # Aggregated trees pass the check

A tree that comes from messages keeps every rule that a tree from a file is checked for, for every
bucket frequency and whichever end names a bucket. Labels are in order because buckets lie one after
the other, and means are in the unit interval because scores are.
-/

namespace SentimentTree

open Calendar Numeric

variable {power : Float → Float → Float} {settings : AggregationSettings}
  {messages : List ScoredMessage} {tree : Hierarchy} {totals : List BucketTotal}

theorem AggregationSettings.validate_eq_ok_iff (settings : AggregationSettings) :
    settings.validate = .ok () ↔ isPositive settings.contrastFactor = true ∧
      isPositive settings.maxTreeHeight = true ∧
      boundsFit settings.minTrunkHeight settings.maxTrunkHeight = true := by
  unfold validate
  cases isPositive settings.contrastFactor <;> cases isPositive settings.maxTreeHeight <;>
    cases boundsFit settings.minTrunkHeight settings.maxTrunkHeight <;> simp

/-! ## Labels -/

/-- The label of a bucket that starts later is later, whichever end it is taken from. -/
theorem Tallies.pick_lt_pick (tallies : Tallies settings.frequency messages totals)
    (edge : BucketEdge) {a b : BucketTotal} (first : a ∈ totals) (second : b ∈ totals)
    (before : a.start < b.start) : edge.pick a.start a.stop < edge.pick b.start b.stop := by
  obtain ⟨_, _, placed⟩ := tallies.occupied a first
  obtain ⟨_, _, placed'⟩ := tallies.occupied b second
  have apart := Frequency.last_lt_first_of_lt placed placed' before
  have low := Frequency.first_le_of_bounds? placed'
  have high := Frequency.le_last_of_bounds? placed'
  rw [Date.lt_iff] at apart
  rw [Date.le_iff] at low high
  cases edge with
  | first => exact before
  | last =>
    change a.stop.number < b.stop.number
    omega

theorem Tallies.labels_ordered (tallies : Tallies settings.frequency messages totals) :
    (bucketsOf power settings totals).Pairwise fun a b => a.label < b.label := by
  rw [bucketsOf, List.pairwise_map]
  refine List.Pairwise.filter _ (tallies.ordered.imp_of_mem ?_)
  intro a b first second before
  exact tallies.pick_lt_pick settings.edge first second before

/-! ## Means -/

/-- A total with a count has a mean in the unit interval. -/
theorem Tallies.mean_inUnit (tallies : Tallies settings.frequency messages totals)
    (units : ∀ message ∈ messages, inUnit message.score = true) {total : BucketTotal}
    (present : total ∈ totals) (counted : total.count ≠ 0) : inUnit total.mean = true := by
  obtain ⟨v, value, one_le, -⟩ := exists_value_toFloat counted
  have sum : 0.0 ≤ total.sum := by
    rw [tallies.scores total present]
    refine foldl_add_nonneg ?_ (le_refl rfl)
    intro score member
    obtain ⟨message, inside, rfl⟩ := List.mem_map.mp member
    exact (inUnit_iff_le.mp (units message (mem_messagesBetween.mp inside).1)).1
  exact clampUnit_inUnit (div_isNaN_eq_false sum value (by linarith))

/-- The bucket of a total with a count is valid in the month of its label. -/
theorem Tallies.bucket_valid (tallies : Tallies settings.frequency messages totals)
    (keeps : KeepsUnit power) (accepted : settings.validate = .ok ())
    (units : ∀ message ∈ messages, inUnit message.score = true) {bucket : Bucket}
    (present : bucket ∈ bucketsOf power settings totals) :
    bucket.Valid (.ofDate bucket.label) := by
  obtain ⟨total, member, rfl⟩ := List.mem_map.mp present
  obtain ⟨member, counted⟩ := List.mem_filter.mp member
  have nonzero : total.count ≠ 0 := by simpa using counted
  have mean := tallies.mean_inUnit units member nonzero
  have positive := (settings.validate_eq_ok_iff.mp accepted).1
  exact ⟨nonzero, (YearMonth.holds_iff _ _).mpr rfl, mean,
    contrast_inUnit keeps mean positive⟩

/-- The tree of any messages keeps every rule under the bounds it was made with. -/
theorem valid_of_aggregate (keeps : KeepsUnit power)
    (aggregated : aggregate power settings messages = .ok tree) :
    tree.Valid settings.minTrunkHeight settings.maxTrunkHeight := by
  obtain ⟨accepted, totals, collected, months, total, height⟩ := aggregate_eq_ok_iff.mp aggregated
  obtain ⟨_, _, fit⟩ := settings.validate_eq_ok_iff.mp accepted
  have tallies := collect_tallies collected
  have labels : (bucketsOf power settings totals).Pairwise fun a b => a.label < b.label :=
    tallies.labels_ordered
  refine ⟨height ▸ trunkHeight_fits fit _ _, total, ?_, ?_⟩
  · rw [months]
    exact groupByMonth_ordered (labels.imp fun less => Int.le_of_lt less)
  · rw [months]
    intro group member
    refine ⟨labels.sublist (groupByMonth_sublist _ group member), ?_⟩
    intro bucket inside
    rw [← groupByMonth_filed _ group member bucket inside]
    exact tallies.bucket_valid keeps accepted (collect_inUnit collected)
      (mem_of_mem_groupByMonth member inside)

/-- The tree of any messages passes the check against the bounds it was made with, and none of its
months is empty. -/
theorem aggregate_valid (keeps : KeepsUnit power)
    (aggregated : aggregate power settings messages = .ok tree) :
    tree.validate settings.minTrunkHeight settings.maxTrunkHeight = .ok () ∧
    tree.Valid settings.minTrunkHeight settings.maxTrunkHeight ∧
    ∀ group ∈ tree.months, group.buckets ≠ [] := by
  have valid := valid_of_aggregate keeps aggregated
  obtain ⟨_, _, _, months, _⟩ := aggregate_eq_ok_iff.mp aggregated
  refine ⟨(tree.validate_eq_ok_iff).mpr valid, valid, ?_⟩
  rw [months]
  exact groupByMonth_nonempty _

theorem aggregate_valid_twoWeeks :
    ∃ tree, KeepsUnit (fun base _ => base) ∧
      aggregate (fun base _ => base) { contrastFactor := 1.0 } twoWeeks = .ok tree ∧
      tree.bucketCount = 2 ∧ tree.validate 10.0 40.0 = .ok () ∧
      ∀ group ∈ tree.months, group.buckets ≠ [] := by
  have aggregated : ∃ tree,
      aggregate (fun base _ => base) { contrastFactor := 1.0 } twoWeeks = .ok tree ∧
        tree.bucketCount = 2 := ⟨_, rfl, by decide +kernel⟩
  obtain ⟨tree, ok, count⟩ := aggregated
  have keeps : KeepsUnit (fun base _ => base) := fun _ _ unit _ => unit
  obtain ⟨accepted, _, nonempty⟩ := aggregate_valid keeps ok
  exact ⟨tree, keeps, ok, count, accepted, nonempty⟩

end SentimentTree
